import Chip8.Instruction.Template.Help
import Chip8.Text.Quoted

/-!
What a template reaches from a number, step by step: attributes by their name
and items by their index. An attribute of a kind is looked for in the kind of
kinds first where it is a part, then in the kind itself, then in the kind of
kinds again.
-/

namespace Chip8.Template

/-- What stands in brackets behind a value. -/
inductive Key where
  | index (n : Nat)
  | name (s : String)
  deriving DecidableEq, Repr

inductive Value where
  | number (n : Nat)
  | truth (b : Bool)
  | text (s : String)
  | nothing
  | kind (k : Kind)
  | kinds (ks : List Kind)
  | keys (ks : List Key)
  | emptyTable
  /-- A member that belongs to a value. -/
  | bound (m : Member) (self : Value)
  /-- A method that belongs to no value. -/
  | free (m : Member)
  /-- A member as its kind has it. -/
  | member (m : Member)
  /-- The members of a kind, as items. -/
  | members (k : Kind)
  /-- A kind with a key in brackets behind it. -/
  | keyed (k : Kind) (key : Key)
  deriving DecidableEq, Repr

/-- The text of a key, with `quote` around names. -/
def Key.listed (quote : String → String) : Key → String
  | index n => Text.decimal 0 n
  | name s => quote s

def Kind.listedWith (quote : String → String) (k : Kind) (key : Key) : String :=
  k.fullName ++ "[" ++ key.listed quote ++ "]"

inductive AccessError where
  | noAttribute (k : Kind) (name : String)
  | noMember (k : Kind) (name : String)
  | unset (name : String)
  | noItems (k : Kind)
  | noItemsOfKind (k : Kind)
  | noItemsOfKeyed (k : Kind) (key : Key)
  | textIndex
  | tupleIndex
  | textKey
  | tupleKey
  | noItem (key : Key)
  deriving DecidableEq, Repr

def AccessError.message : AccessError → String
  | .noAttribute k name => "'" ++ k.fullName ++ "' object has no attribute '" ++ name ++ "'"
  | .noMember k name => "type object '" ++ k.fullName ++ "' has no attribute '" ++ name ++ "'"
  | .unset name => name
  | .noItems k => "'" ++ k.fullName ++ "' object is not subscriptable"
  | .noItemsOfKind k => "type '" ++ k.fullName ++ "' is not subscriptable"
  | .noItemsOfKeyed k key => k.listedWith Text.quoted key ++ " is not a generic class"
  | .textIndex => "string index out of range"
  | .tupleIndex => "tuple index out of range"
  | .textKey => "string indices must be integers, not 'str'"
  | .tupleKey => "tuple indices must be integers or slices, not str"
  | .noItem key => key.listed Text.quoted

/-- A method where it is shown. Where it lies in memory is not told. -/
def methodText (word name : String) (owner : Kind) : String :=
  "<" ++ word ++ name ++ " of " ++ owner.fullName ++ " object at 0x>"

/-- A method in a kind that belongs to no value of it. -/
def kindMethodText (name : String) : String := methodText "built-in method " name .kind

/-- The text of a member as its kind has it. -/
def Member.listed (quote : String → String) (m : Member) : String :=
  match m.role with
  | .maker => kindMethodText m.name
  | .free => "<staticmethod(" ++ kindMethodText m.name ++ ")>"
  | .plain => (m.plainText?.map quote).getD "None"
  | r => "<" ++ r.word ++ " '" ++ m.name ++ "' of '" ++ m.owner.fullName ++ "' objects>"

namespace Kind

/-- The members of its own, each behind its name. -/
def tableText (quote : String → String) (k : Kind) : String :=
  let entries := k.own.map fun m => quote m.name ++ ": " ++ m.listed quote
  "\x7b" ++ ", ".intercalate entries ++ "\x7d"

/-- Whether a key in brackets may stand behind the kind. -/
def takesKeys (k : Kind) : Bool := k = .kind || (k.own? "__class_getitem__").isSome

end Kind

namespace Value

def ofText : Option String → Value
  | some s => .text s
  | none => .nothing

def kindOf : Value → Kind
  | number _ => .number
  | truth _ => .truth
  | text _ => .text
  | nothing => .nothing
  | kind _ => .kind
  | kinds _ | keys _ => .tuple
  | emptyTable => .table
  | bound m _ => if m.role = .slot then .boundSlot else .bound
  | free _ => .bound
  | member m => m.role.kind
  | members _ => .members
  | keyed .. => .keyed

/-- The kind that names the methods bound to a value: a kind names its own. -/
def namedAfter : Value → Kind
  | kind k => k
  | v => v.kindOf

def tupleText (items : List String) : String :=
  "(" ++ ", ".intercalate items ++ (if items.length = 1 then ",)" else ")")

/-- The text of a value with `quote` around texts. -/
def listed (quote : String → String) : Value → String
  | number n => Text.decimal 0 n
  | truth b => if b then "True" else "False"
  | text s => quote s
  | nothing => "None"
  | kind k => k.shown
  | kinds ks => tupleText (ks.map Kind.shown)
  | keys ks => tupleText (ks.map (·.listed quote))
  | emptyTable => "\x7b\x7d"
  | bound m self =>
    if m.role = .slot then methodText "method-wrapper '" (m.name ++ "'") self.kindOf
    else methodText "built-in method " m.name self.kindOf
  | free m => kindMethodText m.name
  | member m => m.listed quote
  | members k => "mappingproxy(" ++ k.tableText quote ++ ")"
  | keyed k key => k.listedWith quote key

/-- The text of a value on its own, where a text has no quotes. -/
def shown : Value → String
  | text s => s
  | members k => k.tableText Text.quoted
  | v => v.listed Text.quoted

end Value

namespace Kind

/-- The help text; a kind without one shows its member for it, if it has that. -/
def help (k : Kind) : Value :=
  match k.help?, k.own? "__doc__" with
  | some s, _ => .text s
  | none, some m => if m.role = .part then .member m else .nothing
  | none, none => .nothing

end Kind

namespace Value

/-- A part that a kind has as a value. -/
def partOfKind (k : Kind) (name : String) : Except AccessError Value :=
  match name with
  | "__class__" => .ok (.kind .kind)
  | "__name__" | "__qualname__" => .ok (.text k.name)
  | "__module__" => .ok (.text k.home)
  | "__mro__" => .ok (.kinds k.ancestry)
  | "__bases__" => .ok (.kinds k.parent?.toList)
  | "__base__" => .ok (k.parent?.elim .nothing .kind)
  | "__basicsize__" => .ok (.number k.layout.size)
  | "__itemsize__" => .ok (.number k.layout.itemSize)
  | "__flags__" => .ok (.number k.layout.marks)
  | "__dictoffset__" => .ok (.number k.layout.tablePlace)
  | "__weakrefoffset__" => .ok (.number k.layout.listPlace)
  | "__dict__" => .ok (.members k)
  | "__doc__" => .ok k.help
  | "__text_signature__" => .ok (.ofText k.signature?)
  | "__abstractmethods__" => .error (.unset name)
  | _ => .error (.noMember k name)

/-- A member as it belongs to a value. -/
def bind (m : Member) (self : Value) : Value :=
  match m.role with
  | .shared => bound m (.kind self.kindOf)
  | .maker => bound m (.kind m.owner)
  | .free => free m
  | .plain => .ofText m.plainText?
  | _ => bound m self

/-- A part of a value that is no kind. -/
def part (v : Value) (name : String) : Value :=
  match name, v with
  | "__class__", v => .kind v.kindOf
  | "real", truth b | "numerator", truth b => .number b.toNat
  | "real", v | "numerator", v => v
  | "imag", _ => .number 0
  | "denominator", _ => .number 1
  | "__name__", bound m _ | "__name__", free m | "__name__", member m => .text m.name
  | "__qualname__", bound m self =>
    .text (if m.role = .slot then m.qualifiedName else self.namedAfter.name ++ "." ++ m.name)
  | "__qualname__", free m | "__qualname__", member m => .text m.qualifiedName
  | "__self__", bound _ self => self
  | "__objclass__", bound m _ | "__objclass__", member m => .kind m.owner
  | "__doc__", bound m _ | "__doc__", free m | "__doc__", member m => .ofText m.help.text
  | "__text_signature__", bound m _ | "__text_signature__", free m
  | "__text_signature__", member m => .ofText m.signature?
  | "__func__", member m | "__wrapped__", member m => .free m
  | "__dict__", _ => .emptyTable
  | "__isabstractmethod__", _ | "__unpacked__", _ => .truth false
  | "__origin__", keyed k _ => .kind k
  | "__args__", keyed _ key => .keys [key]
  | "__parameters__", _ => .keys []
  | _, _ => .nothing

/-- A member of a kind as it is reached from the kind itself. -/
def ofMember (k : Kind) (m : Member) : Value :=
  match m.role with
  | .shared => bound m (.kind k)
  | .maker | .free | .plain => bind m (.kind k)
  | _ => .member m

def lookUpInKind (k : Kind) (name : String) : Except AccessError Value :=
  let general := Kind.kind.member? name
  if general.any (·.role.isPart) then partOfKind k name
  else match k.member? name, general with
    | some m, _ => .ok (ofMember k m)
    | none, some m => .ok (bind m (.kind k))
    | none, none => .error (.noMember k name)

def lookUpInValue (v : Value) (name : String) : Except AccessError Value :=
  match v.kindOf.member? name with
  | some m => .ok (if m.role.isPart then v.part name else bind m v)
  | none => .error (.noAttribute v.kindOf name)

/-- Attributes that a kind with a key has for itself; others are those of the kind. -/
def namesOfKeyed : List String :=
  ["__class__", "__origin__", "__args__", "__unpacked__", "__parameters__",
   "__typing_unpacked_tuple_args__", "__mro_entries__", "__reduce_ex__", "__reduce__", "__copy__",
   "__deepcopy__"]

def lookUp (v : Value) (name : String) : Except AccessError Value :=
  match v with
  | kind k => lookUpInKind k name
  | keyed k _ => if name ∈ namesOfKeyed then v.lookUpInValue name else lookUpInKind k name
  | v => v.lookUpInValue name

/-- An own member of a kind by its name. -/
def memberItem (k : Kind) (name : String) : Except AccessError Value :=
  match k.own? name with
  | some m => .ok (if m.role = .maker || m.role = .plain then bind m (.kind k) else .member m)
  | none => .error (.noItem (.name name))

def ofKey : Key → Value
  | .index n => .number n
  | .name s => .text s

/-- An item of a tuple. -/
def tupleItem {α : Type} (items : List α) (value : α → Value) : Key → Except AccessError Value
  | .index n => match items[n]? with
    | some a => .ok (value a)
    | none => .error .tupleIndex
  | .name _ => .error .tupleKey

def item (v : Value) (key : Key) : Except AccessError Value :=
  match v, key with
  | text s, .index n => match (Text.codes s)[n]? with
    | some c => .ok (.text (Text.ofCodes [c]))
    | none => .error .textIndex
  | text _, .name _ => .error .textKey
  | kinds ks, key => tupleItem ks .kind key
  | keys ks, key => tupleItem ks ofKey key
  | members k, .name s => memberItem k s
  | members _, key | emptyTable, key => .error (.noItem key)
  | kind k, key => if k.takesKeys then .ok (.keyed k key) else .error (.noItemsOfKind k)
  | keyed k key, _ => .error (.noItemsOfKeyed k key)
  | v, _ => .error (.noItems v.kindOf)

end Value

end Chip8.Template
