/-!
Sources of random bytes: an endless stream of draws and how many were taken.
-/

namespace Chip8

/-- A draw gives an integer, or the source is unavailable, or it breaks off; it says why. -/
inductive Draw where
  | value (n : Int)
  | unavailable (reason : String)
  | broken (reason : String)
  deriving DecidableEq, Repr

structure Entropy where
  stream : Nat → Draw
  position : Nat

namespace Entropy

/-- Repeats `draws` forever; zeros if there are none. -/
def cycle (draws : Array Draw) : Entropy :=
  ⟨fun k => (draws[k % draws.size]?).getD (.value 0), 0⟩

def current (e : Entropy) : Draw := e.stream e.position

def next (e : Entropy) : Entropy := { e with position := e.position + 1 }

/-- A source that never gives anything. -/
def closed : Entropy := ⟨fun _ => .unavailable "no entropy", 0⟩

end Entropy

end Chip8
