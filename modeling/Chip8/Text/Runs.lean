/-!
Sets of characters, listed as the first and last code point of each run.
-/

namespace Chip8.Text

def inRuns (runs : List (Nat × Nat)) (c : Char) : Bool :=
  runs.any fun r => r.1 ≤ c.toNat && c.toNat ≤ r.2

end Chip8.Text
