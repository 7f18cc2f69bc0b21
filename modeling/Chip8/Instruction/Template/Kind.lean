/-!
The kinds of the values that a template can reach from a number, and what can be
a member of a kind.
-/

namespace Chip8.Template

inductive Kind where
  | number
  | truth
  | object
  /-- The kind of kinds. -/
  | kind
  | text
  | tuple
  | nothing
  | table
  /-- Kinds with a key in brackets behind them. -/
  | keyed
  /-- Methods, and slots, that belong to a value. -/
  | bound
  | boundSlot
  /-- The members of a kind, by their role. -/
  | slot
  | method
  | part
  | store
  | shared
  | free
  /-- All members of a kind, by name. -/
  | members
  deriving DecidableEq, Repr

/-- What a member is for. -/
inductive Role where
  /-- An operation that the language of values has a sign or a word for. -/
  | slot
  | method
  /-- A part of each value, computed or stored. -/
  | part
  | store
  /-- A method of the kind itself. -/
  | shared
  /-- A method of the kind that is the same for its descendants. -/
  | maker
  /-- A method that belongs to no value. -/
  | free
  /-- No method: the help text, or nothing in the place of an operation that the
  kind refuses. -/
  | plain
  deriving DecidableEq, Repr

structure Member where
  owner : Kind
  role : Role
  name : String
  deriving DecidableEq, Repr

/-- Sizes and marks that a kind of values has in memory. -/
structure Layout where
  size : Nat
  itemSize : Nat
  marks : Nat
  tablePlace : Nat
  listPlace : Nat

namespace Kind

def name : Kind → String
  | number => "int"
  | truth => "bool"
  | object => "object"
  | kind => "type"
  | text => "str"
  | tuple => "tuple"
  | nothing => "NoneType"
  | table => "dict"
  | keyed => "GenericAlias"
  | bound => "builtin_function_or_method"
  | boundSlot => "method-wrapper"
  | slot => "wrapper_descriptor"
  | method => "method_descriptor"
  | part => "getset_descriptor"
  | store => "member_descriptor"
  | shared => "classmethod_descriptor"
  | free => "staticmethod"
  | members => "mappingproxy"

/-- Where the kind is at home; the name does not tell it of the basic ones. -/
def home : Kind → String
  | keyed => "types"
  | _ => "builtins"

def fullName (k : Kind) : String :=
  if k.home = "builtins" then k.name else k.home ++ "." ++ k.name

def shown (k : Kind) : String := "<class '" ++ k.fullName ++ "'>"

/-- The kind and those that it descends from. -/
def ancestry : Kind → List Kind
  | object => [.object]
  | truth => [.truth, .number, .object]
  | k => [k, .object]

def parent? (k : Kind) : Option Kind := k.ancestry[1]?

def layout : Kind → Layout
  | .number => ⟨24, 4, 21501184, 0, 0⟩
  | .truth => ⟨32, 4, 21500160, 0, 0⟩
  | .object => ⟨16, 0, 529664, 0, 0⟩
  | .kind => ⟨904, 40, 2148031744, 264, 368⟩
  | .text => ⟨80, 0, 273159424, 0, 0⟩
  | .tuple => ⟨24, 8, 71849248, 0, 0⟩
  | .nothing => ⟨16, 0, 528640, 0, 0⟩
  | .table => ⟨48, 0, 541611328, 0, 0⟩
  | .keyed => ⟨64, 0, 548096, 0, 40⟩
  | .bound => ⟨56, 0, 547200, 0, 40⟩
  | .boundSlot => ⟨32, 0, 545152, 0, 0⟩
  | .slot => ⟨56, 0, 676224, 0, 0⟩
  | .method => ⟨56, 0, 678272, 0, 0⟩
  | .part => ⟨48, 0, 545152, 0, 0⟩
  | .store => ⟨48, 0, 545152, 0, 0⟩
  | .shared => ⟨56, 0, 545152, 0, 0⟩
  | .free => ⟨32, 0, 546048, 24, 0⟩
  | .members => ⟨24, 0, 545088, 0, 0⟩

end Kind

namespace Role

def kind : Role → Kind
  | slot => .slot
  | method => .method
  | part => .part
  | store => .store
  | shared => .shared
  | maker => .bound
  | free => .free
  | plain => .text

/-- The word for a member where it is shown. -/
def word : Role → String
  | slot => "slot wrapper"
  | part => "attribute"
  | store => "member"
  | _ => "method"

/-- Whether the member is a part that each value has. -/
def isPart (r : Role) : Bool := r = .part || r = .store

end Role

def Member.qualifiedName (m : Member) : String := m.owner.name ++ "." ++ m.name

end Chip8.Template
