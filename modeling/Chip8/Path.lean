import Chip8.Text.Blank
import Chip8.Text.Quoted
import Chip8.Text.Refusal

/-!
File paths in their shortest spelling.
-/

namespace Chip8

/-- `root` is empty, one slash or exactly two; no part is empty or a single dot. -/
structure Path where
  root : String
  parts : List String
  deriving DecidableEq, Repr

namespace Path

def rootOf (s : String) : String :=
  let slashes := (s.toList.takeWhile (· = '/')).length
  if slashes = 0 then "" else if slashes = 2 then "//" else "/"

def ofString (s : String) : Path :=
  ⟨rootOf s, ((Text.cutAt '/' s.toList).map String.ofList).filter fun part =>
    part ≠ "" && part ≠ "."⟩

def text (p : Path) : String :=
  if p.root.isEmpty && p.parts.isEmpty then "." else p.root ++ "/".intercalate p.parts

/-- The last part. -/
def name (p : Path) : String := p.parts.getLast?.getD ""

end Path

end Chip8
