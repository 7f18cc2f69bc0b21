import Chip8.Fault

/-!
A screen of single-bit pixels, `w` wide and `h` high. Coordinates wrap around
both axes. Sprites are drawn by exclusive or, eight pixels to a line.
-/

namespace Chip8

-- Zero is that of the numerals, whatever algebra a module has at hand.
attribute [local instance (high)] Zero.ofOfNat0

/-- The width and the height of the display. -/
instance (priority := high) neZero_width : NeZero 64 := ⟨by decide⟩
instance (priority := high) neZero_height : NeZero 32 := ⟨by decide⟩

structure Screen (w h : Nat) where
  rows : Vector (Vector Bool w) h
  deriving DecidableEq

namespace Screen

/-- Why there is no screen of a size, if there is none. -/
def refusal? (room : Room) (width height : Int) : Option Invalid :=
  if width ≤ 0 ∨ height ≤ 0 then some .screenSize
  else if Number.largestIndex < width then some (.size .index)
  else if room.bytes < width * height then some (.size .memory)
  else none

def spriteWidth : Nat := 8

/-- The coordinate that `a` means on an axis of `n` pixels. -/
def wrap (n : Nat) [NeZero n] (a : Int) : Fin n :=
  ⟨(a % n).toNat, by
    have hn : 0 < n := Nat.pos_of_neZero n
    have := Int.emod_nonneg a (by omega : (n : Int) ≠ 0)
    have := Int.emod_lt_of_pos a (by omega : (0 : Int) < n)
    omega⟩

variable {w h : Nat}

def blank : Screen w h := ⟨Vector.replicate h (Vector.replicate w false)⟩

def count (s : Screen w h) : Nat :=
  (s.rows.toList.map fun row => row.toList.count true).sum

def text (s : Screen w h) (on off : String) : String :=
  "\n".intercalate
    (s.rows.toList.map fun row => String.join (row.toList.map fun lit => if lit then on else off))

/-- Row after row. -/
def toList (s : Screen w h) : List Bool := s.rows.toList.flatMap (·.toList)

/-- The rows that changed between two states, behind their places. -/
def changedRows (before after : Screen w h) : List (Nat × Vector Bool w) :=
  ((before.rows.toList.zip after.rows.toList).mapIdx fun y r => (y, r.1, r.2)).filterMap fun r =>
    if r.2.1 = r.2.2 then none else some (r.1, r.2.2)

variable [NeZero w] [NeZero h]

def lit (s : Screen w h) (x y : Int) : Bool := (s.rows.get (wrap h y)).get (wrap w x)

def toggle (s : Screen w h) (x y : Int) : Screen w h :=
  ⟨s.rows.set (wrap h y)
    ((s.rows.get (wrap h y)).set (wrap w x) (!s.lit x y) (wrap w x).isLt) (wrap h y).isLt⟩

/-- Toggles the pixel unless `bit` is zero, and says whether that put it out. -/
def xor (s : Screen w h) (x y bit : Int) : Screen w h × Bool :=
  if bit = 0 then (s, false) else (s.toggle x y, s.lit x y)

/-- Whether the `j`th pixel from the left is set in a line of a sprite. -/
def lineBit (line : Int) (j : Nat) : Bool := line >>> (spriteWidth - 1 - j) % 2 = 1

def lineDots (x y line : Int) : List (Int × Int) :=
  ((List.range spriteWidth).filter (lineBit line)).map fun j : Nat => (x + (j : Int), y)

/-- The places a sprite toggles, line by line from the left. -/
def dots (x y : Int) : List Int → List (Int × Int)
  | [] => []
  | line :: lines => lineDots x y line ++ dots x (y + 1) lines

/-- Toggles places one after the other and says whether any was put out. -/
def plot (s : Screen w h) : List (Int × Int) → Screen w h × Bool
  | [] => (s, false)
  | p :: ps =>
    let rest := (s.toggle p.1 p.2).plot ps
    (rest.1, s.lit p.1 p.2 || rest.2)

def draw (s : Screen w h) (x y : Int) (lines : List Int) : Screen w h × Bool :=
  s.plot (dots x y lines)

end Screen

end Chip8
