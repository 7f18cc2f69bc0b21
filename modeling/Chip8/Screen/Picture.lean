import Chip8.Number.Quantity
import Chip8.Palette
import Chip8.Screen
import Chip8.Text.Radix

/-!
Pictures of a screen: every pixel becomes a square of one palette colour.
-/

namespace Chip8

structure Picture where
  width : Nat
  height : Nat
  /-- From the top; each line from the left. -/
  lines : List (List Rgb)
  deriving DecidableEq, Repr

/-- Why a picture has no pixel at a place. -/
inductive PixelError where
  | outside (x y : Int) (width height : Nat)
  /-- The place has more digits than a text may tell. -/
  | digits
  deriving DecidableEq, Repr

def PixelError.message : PixelError → String
  | .outside x y width height =>
    "pixel (" ++ Text.decimal 0 x ++ ", " ++ Text.decimal 0 y ++ ") outside " ++
      Text.decimal 0 width ++ "x" ++ Text.decimal 0 height ++ " frame"
  | .digits => "Exceeds the limit (" ++ Text.decimal 0 Text.digitLimit ++
      " digits) for integer string conversion; " ++
      "use sys.set_int_max_str_digits() to increase the limit"

namespace Rgb

def bytes (c : Rgb) : List UInt8 := [c.red, c.green, c.blue]

end Rgb

namespace Picture

/-- Three bytes for each pixel, row after row. -/
def bytes (p : Picture) : List UInt8 := p.lines.flatMap fun line => line.flatMap Rgb.bytes

def byteCount (p : Picture) : Nat := 3 * p.lines.flatten.length

/-- What is said of a place outside. -/
def outside (p : Picture) (x y : Int) : PixelError :=
  if Text.isWritable x && Text.isWritable y then .outside x y p.width p.height else .digits

def get (p : Picture) (x y : Int) : Except PixelError Rgb :=
  match (if 0 ≤ x ∧ 0 ≤ y then (p.lines[y.toNat]?).bind (·[x.toNat]?) else none) with
  | some c => .ok c
  | none => .error (p.outside x y)

def stretch (palette : Palette) (scale : Nat) (row : List Bool) : List Rgb :=
  row.flatMap fun lit => List.replicate scale (palette.color lit)

/-- Every pixel as a square of `scale` by `scale`. -/
def draw {w h : Nat} (palette : Palette) (scale : Nat) (s : Screen w h) : Picture :=
  ⟨w * scale, h * scale,
    s.rows.toList.flatMap fun row => List.replicate scale (stretch palette scale row.toList)⟩

/-- Why a picture of so many pixels is not drawn at a scale, if it is not. -/
def refusal? (room : Room) (pixels : Nat) (scale : Int) : Option Invalid :=
  if scale ≤ 0 then some .scale
  else if Number.largestIndex < scale then some (.size .index)
  else if Number.largestIndex < 3 * scale then some (.size .repetition)
  else if room.bytes < 3 * pixels * scale * scale then some (.size .memory)
  else none

def render {w h : Nat} (room : Room) (palette : Palette) (scale : Int) (s : Screen w h) :
    Except Invalid Picture :=
  match refusal? room (w * h) scale with
  | some e => .error e
  | none => .ok (draw palette scale.toNat s)

/-- Only a whole scale has squares. -/
def renderAt {w h : Nat} (room : Room) (palette : Palette) (scale : Quantity) (s : Screen w h) :
    Except Invalid Picture :=
  match scale with
  | .whole n => render room palette n s
  | q => .error (if q.isPositive then .scaleFraction else .scale)

end Picture

end Chip8
