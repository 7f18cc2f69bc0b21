import Chip8.Log.Event
import Chip8.Machine.Basic
import Chip8.Text.Code

/-!
A bounded record of executed instructions, for a look back after a fault. When
it is full the oldest entry goes.
-/

namespace Chip8

namespace Trace

/-- The registers before the instruction; depth, waiting and drawing after it. -/
structure Entry where
  pc : Nat
  word : Option Word
  mnemonic : String
  v : List UInt8
  i : Word
  dt : UInt8
  st : UInt8
  depth : Int
  awaiting : Bool
  drew : Bool
  note : String
  deriving DecidableEq, Repr

namespace Entry

def flags (e : Entry) : List String :=
  (if e.awaiting then ["KEY"] else []) ++ (if e.drew then ["DRAW"] else []) ++
    if e.note.isEmpty then [] else [e.note]

def format (e : Entry) : String :=
  let word := match e.word with
    | some w => Text.hex 4 w.val
    | none => "----"
  let mnemonic := if e.mnemonic.isEmpty then "?" else e.mnemonic
  let flags := if e.flags.isEmpty then "-" else ",".intercalate e.flags
  "pc=" ++ Text.hex 3 e.pc ++ " op=" ++ word ++ " " ++ Text.padRight 16 mnemonic ++
    " V=[" ++ " ".intercalate (e.v.map fun b => Text.hex 2 b.toNat) ++ "] I=" ++
    Text.hex 3 e.i.val ++ " DT=" ++ Text.hex 2 e.dt.toNat ++ " ST=" ++ Text.hex 2 e.st.toNat ++
    " SP=" ++ Text.decimal 2 e.depth ++ " flags=" ++ flags

end Entry

end Trace

/-- The last entry recorded comes first. -/
structure Trace where
  capacity : Nat
  entries : List Trace.Entry
  deriving DecidableEq, Repr

namespace Trace

def create (capacity : Int) : Except Invalid Trace :=
  if capacity ≤ 0 then .error .capacity
  else if Number.largestIndex < capacity then .error (.size .length)
  else .ok ⟨capacity.toNat, []⟩

def record (t : Trace) (e : Entry) : Trace :=
  { t with entries := (e :: t.entries).take t.capacity }

def clear (t : Trace) : Trace := { t with entries := [] }

def size (t : Trace) : Nat := t.entries.length

def last? (t : Trace) : Option Entry := t.entries.head?

/-- Oldest first; with a limit, only so many of the latest. -/
def list (t : Trace) (limit : Option Int) : List Entry :=
  (match limit with
    | some n => t.entries.take n.toNat
    | none => t.entries).reverse

def lines (t : Trace) (limit : Option Int) : List String := (t.list limit).map Entry.format

/-- The lines as log lines of a category, if that is on. -/
def dump (t : Trace) (c : Categories) (category : String) (limit : Option Int) : String :=
  if c.enabled category then String.join ((t.lines limit).map (logLine category)) else ""

/-- Narrows integers to the width of the registers they are shown in. -/
def Entry.of (pc i dt st : Int) (v : List Int) (word : Option Int) (depth : Int)
    (awaiting drew : Bool) (mnemonic note : String) : Entry :=
  { pc := (pc % 0x1000).toNat, word := word.map Word.ofInt, mnemonic
    v := v.map UInt8.ofInt, i := .ofInt i, dt := UInt8.ofInt dt, st := UInt8.ofInt st
    depth, awaiting, drew, note }

end Trace

end Chip8
