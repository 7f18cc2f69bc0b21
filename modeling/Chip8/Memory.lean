import Chip8.Fault
import Chip8.Log.Event

/-!
Main memory: 4096 bytes, addressed by integers modulo 4096. The cells below the
guard hold the font and are written once; storing there is ignored.
-/

namespace Chip8

def fontBytes : List UInt8 :=
  [0xF0, 0x90, 0x90, 0x90, 0xF0,
   0x20, 0x60, 0x20, 0x20, 0x70,
   0xF0, 0x10, 0xF0, 0x80, 0xF0,
   0xF0, 0x10, 0xF0, 0x10, 0xF0,
   0x90, 0x90, 0xF0, 0x10, 0x10,
   0xF0, 0x80, 0xF0, 0x10, 0xF0,
   0xF0, 0x80, 0xF0, 0x90, 0xF0,
   0xF0, 0x10, 0x20, 0x40, 0x40,
   0xF0, 0x90, 0xF0, 0x90, 0xF0,
   0xF0, 0x90, 0xF0, 0x10, 0xF0,
   0xF0, 0x90, 0xF0, 0x90, 0x90,
   0xE0, 0x90, 0xE0, 0x90, 0xE0,
   0xF0, 0x80, 0x80, 0x80, 0xF0,
   0xE0, 0x90, 0x90, 0x90, 0xE0,
   0xF0, 0x80, 0xF0, 0x80, 0xF0,
   0xF0, 0x80, 0xF0, 0x80, 0x80]

def glyphSize : Nat := 5

/-- Where the glyph of the low nibble of `digit` begins. -/
def glyphAddress (digit : Int) : Nat := (digit % 16).toNat * glyphSize

def memorySize : Nat := 0x1000
def programStart : Nat := 0x200
def programCapacity : Nat := memorySize - programStart

/-- `spare` holds the bytes of a font that reach beyond the last address. -/
structure Memory where
  cells : Vector UInt8 0x1000
  spare : List UInt8
  guard : Nat
  deriving DecidableEq

namespace Memory

/-- The font does not fit below the guard. -/
def fontMisfitMessage : String := "font does not fit inside the interpreter area"

def withFont (font : Array UInt8) (guard : Nat) : Memory :=
  ⟨Vector.ofFn fun a => font.getD a 0, font.toList.drop 0x1000, guard⟩

def create? (font : Array UInt8) (guard : Int) : Option Memory :=
  if (font.size : Int) ≤ guard then some (withFont font guard.toNat) else none

def initial : Memory := withFont fontBytes.toArray programStart

def size (m : Memory) : Nat := 0x1000 + m.spare.length

def toList (m : Memory) : List UInt8 := m.cells.toList ++ m.spare

def cell (a : Int) : Fin 0x1000 := ⟨(a % 0x1000).toNat, by omega⟩

def read (m : Memory) (a : Int) : UInt8 := m.cells.get (cell a)

def readWord (m : Memory) (a : Int) : Word := .ofBytes (m.read a) (m.read (a + 1))

def block (m : Memory) (a : Int) (n : Nat) : List UInt8 :=
  (List.range n).map fun k : Nat => m.read (a + k)

def store (m : Memory) (a value : Int) : Memory :=
  if (cell a).val < m.guard then m
  else { m with cells := m.cells.set (cell a) (UInt8.ofInt value) (cell a).isLt }

/-- The event of a store below the guard. -/
def storeEvents (m : Memory) (a value : Int) : List Event :=
  if (cell a).val < m.guard then [.writeIgnored (cell a) (UInt8.ofInt value)] else []

def storeAll (m : Memory) (a : Int) : List UInt8 → Memory
  | [] => m
  | b :: bs => (m.store a b.toNat).storeAll (a + 1) bs

def storeAllEvents (m : Memory) (a : Int) : List UInt8 → List Event
  | [] => []
  | b :: bs => m.storeEvents a b.toNat ++ m.storeAllEvents (a + 1) bs

/-- The new bytes where two lists differ, in runs behind their first places; `run` is the
one being read, in reverse, and `a` the place behind it. -/
def changedRuns (a : Nat) (run : List UInt8) : List UInt8 → List UInt8 → List (Nat × List UInt8)
  | x :: xs, y :: ys =>
    if x = y then closed a run ++ changedRuns (a + 1) [] xs ys
    else changedRuns (a + 1) (y :: run) xs ys
  | _, _ => closed a run
where
  closed (a : Nat) (run : List UInt8) : List (Nat × List UInt8) :=
    if run.isEmpty then [] else [(a - run.length, run.reverse)]

/-- What changed between two states of a memory. -/
def changes (before after : Memory) : List (Nat × List UInt8) :=
  changedRuns 0 [] before.toList after.toList

/-- Copies an image that lies between the guard and the last address. -/
def load (m : Memory) (image : Array UInt8) (start : Int) : Except Fault Memory :=
  if start < m.guard ∨ 0x1000 < start + image.size then .error (.imageMisfit image.size start)
  else .ok { m with
    cells := Vector.ofFn fun a =>
      if start ≤ a.val ∧ a.val < start + image.size then image.getD (a.val - start.toNat) 0
      else m.cells.get a }

/-- Zeros from the guard on. -/
def clear (m : Memory) : Except Fault Memory :=
  if Number.largestIndex + 1 + 0x1000 < m.guard then .error (.size .index)
  else if 0x1000 < m.guard then .error .negativeClear
  else .ok { m with
    cells := Vector.ofFn fun a => if m.guard ≤ a.val then 0 else m.cells.get a }

end Memory

end Chip8
