import Chip8.Fault

/-!
Return addresses. A fault leaves the stack as it was.
-/

namespace Chip8

/-- The last address pushed comes first. -/
structure CallStack where
  capacity : Nat
  entries : List Word
  deriving DecidableEq, Repr

namespace CallStack

def standardCapacity : Nat := 16

def create (capacity : Int) : Except Invalid CallStack :=
  if 0 < capacity then .ok ⟨capacity.toNat, []⟩ else .error .capacity

def empty : CallStack := ⟨standardCapacity, []⟩

def depth (s : CallStack) : Nat := s.entries.length

def push (s : CallStack) (a : Int) : Except Fault CallStack :=
  if s.capacity ≤ s.depth then .error (.stackOverflow s.depth s.capacity)
  else .ok { s with entries := Word.ofInt a :: s.entries }

def pop (s : CallStack) : Except Fault (Word × CallStack) :=
  match s.entries with
  | [] => .error .stackUnderflow
  | a :: rest => .ok (a, { s with entries := rest })

def top? (s : CallStack) : Option Word := s.entries.head?

def clear (s : CallStack) : CallStack := { s with entries := [] }

/-- The first address pushed comes first. -/
def toList (s : CallStack) : List Word := s.entries.reverse

end CallStack

end Chip8
