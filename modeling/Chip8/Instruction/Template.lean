import Chip8.Instruction.Template.Value
import Chip8.Text.Form
import Chip8.Word

/-!
Operand templates. A field of the instruction word stands between braces, with
the form of its text behind a colon; doubled braces stand for themselves. Behind the
name of a field may stand steps into its value, and a form may hold fields of its
own, one level deep. What fills the fields is made once all of them can be
filled.
-/

namespace Chip8

inductive TemplateError where
  | unknownField (name : String)
  | position (index : Nat)
  | access (e : Template.AccessError)
  | emptyAttribute
  | bracketTail
  | lonelyOpen
  | lonelyClose
  | unclosed
  | openInName
  | conversionMissing
  | conversionTail
  | formUnclosed
  | conversion (c : Text.Code)
  | tooDeep
  | form (e : Text.FormError)
  /-- Values of this kind have no forms. -/
  | formless (k : Template.Kind)
  deriving DecidableEq, Repr

def TemplateError.message : TemplateError → String
  | .unknownField name => Text.quoted name
  | .position index =>
    "Replacement index " ++ Text.decimal 0 index ++ " out of range for positional args tuple"
  | .access e => e.message
  | .emptyAttribute => "Empty attribute in format string"
  | .bracketTail => "Only '.' or '[' may follow ']' in format field specifier"
  | .lonelyOpen => "Single '\x7b' encountered in format string"
  | .lonelyClose => "Single '\x7d' encountered in format string"
  | .unclosed => "expected '\x7d' before end of string"
  | .openInName => "unexpected '\x7b' in field name"
  | .conversionMissing => "end of string while looking for conversion specifier"
  | .conversionTail => "expected ':' after conversion specifier"
  | .formUnclosed => "unmatched '\x7b' in format spec"
  | .conversion c =>
    "Unknown conversion specifier " ++
      if c.number = 0x7f then "\\x7f" else Text.shownLetter c
  | .tooDeep => "Max string recursion exceeded"
  | .form e => e.message
  | .formless k => "unsupported format string passed to " ++ k.fullName ++ ".__format__"

namespace Template

open Text (Code codes ofCodes)

def openBrace : Code := .char (Char.ofNat 0x7b)
def closeBrace : Code := .char (Char.ofNat 0x7d)

/-- What stands between two braces. -/
structure Hole where
  name : List Code
  conversion : Option Code
  form : List Code
  deriving DecidableEq, Repr

inductive Piece where
  | code (c : Code)
  | field (hole : Hole)
  | broken (e : TemplateError)
  deriving DecidableEq, Repr

/-- The part of a template that the next code belongs to. What was read of
a name or a form is in reverse; `depth` counts the braces open in a form. -/
inductive Reading where
  | plain
  | name (read : List Code)
  | bracket (read : List Code)
  | conversion (name : List Code)
  | converted (name : List Code) (c : Code)
  | form (name : List Code) (conversion : Option Code) (depth : Nat) (read : List Code)
  deriving DecidableEq, Repr

/-- What is missing where a template ends. -/
def Reading.missing : Reading → List Piece
  | plain => []
  | name _ | bracket _ => [.broken .unclosed]
  | conversion _ => [.broken .conversionMissing]
  | converted .. | form .. => [.broken .formUnclosed]

/-- What cannot be read ends the template. -/
def pieces (r : Reading) : List Code → List Piece
  | [] => r.missing
  | c :: cs =>
    match r with
    | .plain =>
      if c = openBrace then
        match cs with
        | [] => [.broken .lonelyOpen]
        | d :: ds =>
          if d = openBrace then .code openBrace :: pieces .plain ds
          else pieces (.name []) (d :: ds)
      else if c = closeBrace then
        match cs with
        | [] => [.broken .lonelyClose]
        | d :: ds =>
          if d = closeBrace then .code closeBrace :: pieces .plain ds
          else [.broken .lonelyClose]
      else .code c :: pieces .plain cs
    | .name read =>
      if c = openBrace then [.broken .openInName]
      else if c = .char '[' then pieces (.bracket (c :: read)) cs
      else if c = closeBrace then .field ⟨read.reverse, none, []⟩ :: pieces .plain cs
      else if c = .char ':' then pieces (.form read.reverse none 0 []) cs
      else if c = .char '!' then pieces (.conversion read.reverse) cs
      else pieces (.name (c :: read)) cs
    | .bracket read =>
      pieces (if c = .char ']' then .name (c :: read) else .bracket (c :: read)) cs
    | .conversion name => pieces (.converted name c) cs
    | .converted name conversion =>
      if c = closeBrace then .field ⟨name, some conversion, []⟩ :: pieces .plain cs
      else if c = .char ':' then pieces (.form name (some conversion) 0 []) cs
      else [.broken .conversionTail]
    | .form name conversion depth read =>
      if c = openBrace then pieces (.form name conversion (depth + 1) (c :: read)) cs
      else if c = closeBrace then
        match depth with
        | 0 => .field ⟨name, conversion, read.reverse⟩ :: pieces .plain cs
        | depth + 1 => pieces (.form name conversion depth (c :: read)) cs
      else pieces (.form name conversion depth (c :: read)) cs

def field? (w : Word) : String → Option Nat
  | "nnn" => some w.nnn
  | "kk" => some w.kk.toNat
  | "x" => some w.x
  | "y" => some w.y
  | "n" => some w.n
  | _ => none

/-- A name of digits is a position, and so is the empty one. -/
def position? (name : List Code) : Except TemplateError (Option Nat) :=
  match Text.takeDigits 0 false name with
  | .error e => .error (.form e)
  | .ok (index, _, rest) =>
    .ok (if rest.isEmpty then some index else none)

/-- A step into a value. -/
inductive Step where
  | name (cs : List Code)
  | item (key : List Code)
  | broken (e : TemplateError)
  deriving DecidableEq, Repr

/-- The step that the next code belongs to, with what was read in reverse. -/
inductive Stepping where
  | between
  | name (read : List Code)
  | item (read : List Code)
  deriving DecidableEq, Repr

def steps (r : Stepping) : List Code → List Step
  | [] => match r with
    | .between => []
    | .name read => [.name read.reverse]
    | .item read => [.item read.reverse]
  | c :: cs =>
    match r with
    | .between =>
      if c = .char '.' then steps (.name []) cs
      else if c = .char '[' then steps (.item []) cs
      else [.broken .bracketTail]
    | .name read =>
      if c = .char '.' then .name read.reverse :: steps (.name []) cs
      else if c = .char '[' then .name read.reverse :: steps (.item []) cs
      else steps (.name (c :: read)) cs
    | .item read =>
      if c = .char ']' then .item read.reverse :: steps .between cs
      else steps (.item (c :: read)) cs

def accessed (r : Except AccessError Value) : Except TemplateError Value :=
  match r with
  | .ok v => .ok v
  | .error e => .error (.access e)

def take (v : Value) : Step → Except TemplateError Value
  | .name cs =>
    if cs.isEmpty then .error .emptyAttribute else accessed (v.lookUp (ofCodes cs))
  | .item key => do
    let index ← position? key
    if key.isEmpty then .error .emptyAttribute
    else accessed (v.item (match index with
      | some n => .index n
      | none => .name (ofCodes key)))
  | .broken e => .error e

def fieldValue (w : Word) (name : List Code) : Except TemplateError Value := do
  let main := name.takeWhile fun c => c ≠ .char '.' && c ≠ .char '['
  match ← position? main with
  | some index => .error (.position index)
  | none =>
    match field? w (ofCodes main) with
    | none => .error (.unknownField (ofCodes main))
    | some n => (steps .between (name.drop main.length)).foldlM take (.number n)

def converted (c : Code) (v : Value) : Except TemplateError (List Code) :=
  match c with
  | .char 'r' => .ok (codes (v.listed Text.quoted))
  | .char 's' => .ok (codes v.shown)
  | .char 'a' => .ok (codes (v.listed Text.quotedAscii))
  | c => .error (.conversion c)

section

variable (room : Room)

/-- What a form makes is as wide as it says, if there is memory for that. -/
def formed (kind : Text.FormKind) (form : List Code)
    (use : Text.Form → Except Text.FormError (Thunk (List Code))) :
    Except TemplateError (Thunk (List Code)) :=
  match Text.Form.read kind form with
  | .error e => .error (.form e)
  | .ok f => match use f with
    | .error e => .error (.form e)
    | .ok cs => if room.bytes < f.width then .error (.form (.size .memory)) else .ok cs

/-- Numbers and texts have forms, and truths where a form is given; what has none
is shown as it is. -/
def laid (v : Value) (form : List Code) : Except TemplateError (Thunk (List Code)) :=
  match v, form with
  | .number n, form => formed room .number form (·.whole .number n)
  | .text t, form => formed room .text form (·.text (codes t))
  | v, [] => .ok (Thunk.pure (codes v.shown))
  | .truth b, form => formed room .truth form (·.whole .truth b.toNat)
  | v, _ => .error (.formless v.kindOf)

/-- `expand` fills the fields in a form. A null character asks for no conversion. -/
def fillHole (expand : List Code → Except TemplateError (List Code)) (w : Word) (h : Hole) :
    Except TemplateError (Thunk (List Code)) := do
  let v ← fieldValue w h.name
  let form := if h.form.contains openBrace then expand h.form else .ok h.form
  match h.conversion with
  | none | some (.char '\x00') => laid room v (← form)
  | some c =>
    let cs ← converted c v
    formed room .text (← form) (·.text cs)

def fillPieces (expand : List Code → Except TemplateError (List Code)) (w : Word) :
    List Piece → Except TemplateError (List (Thunk (List Code)))
  | [] => .ok []
  | .broken e :: _ => .error e
  | .code c :: ps => do .ok (Thunk.pure [c] :: (← fillPieces expand w ps))
  | .field h :: ps => do
    let cs ← fillHole room expand w h
    .ok (cs :: (← fillPieces expand w ps))

/-- Fills templates within templates up to a depth. -/
def fillWithin (w : Word) : Nat → List Code → Except TemplateError (List Code)
  | 0, _ => .error .tooDeep
  | depth + 1, cs =>
    (fillPieces room (fillWithin w depth) w (pieces .plain cs)).map (·.flatMap Thunk.get)

/-- The template with the fields of `w` in their places. -/
def fill (template : String) (w : Word) : Except TemplateError String :=
  (fillWithin room w 2 (codes template)).map ofCodes

end

end Template

end Chip8
