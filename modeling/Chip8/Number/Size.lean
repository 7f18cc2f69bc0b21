/-!
Sizes that no store can have: beyond the range of an index, or beyond what the
memory at hand has room for.
-/

namespace Chip8

inductive SizeError where
  | index
  | length
  | places
  | repetition
  | block
  | memory
  deriving DecidableEq, Repr

/-- Memory that gives out is reported without a text. -/
def SizeError.message : SizeError → String
  | .index => "cannot fit 'int' into an index-sized integer"
  | .length => "Python int too large to convert to C ssize_t"
  | .places => "Python int too large to convert to C int"
  | .repetition => "repeated bytes are too long"
  | .block => "byte string is too large"
  | .memory => ""

namespace Number

def largestIndex : Nat := 0x7FFFFFFFFFFFFFFF

def isIndex (n : Int) : Bool := -0x8000000000000000 ≤ n && n ≤ largestIndex

/-- The largest count of places. -/
def largestPlaces : Nat := 0x7FFFFFFF

theorem least_le_largestIndex : 0x2000 ≤ largestIndex := by decide

end Number

/-- The memory at hand: the most bytes that one block may have. The memory of a machine has
room, and a picture of its display, and nothing has that is beyond the range of an index. -/
structure Room where
  bytes : Nat
  least : 0x2000 ≤ bytes
  most : bytes ≤ Number.largestIndex

namespace Room

/-- Memory for every block within the range of an index. -/
def full : Room := ⟨Number.largestIndex, Number.least_le_largestIndex, Nat.le_refl _⟩

end Room

end Chip8
