import Chip8.Fault
import Chip8.Number.Quantity
import Chip8.Text.Lower

/-!
Pairs of colours: the background and the foreground of a picture.
-/

namespace Chip8

structure Rgb where
  red : UInt8
  green : UInt8
  blue : UInt8
  deriving DecidableEq, Repr

structure Palette where
  background : Rgb
  foreground : Rgb
  deriving DecidableEq, Repr

inductive PaletteError where
  | invalid (e : Invalid)
  | number (e : NumberError)
  deriving DecidableEq, Repr

def PaletteError.message : PaletteError → String
  | .invalid e => e.message
  | .number e => e.message

namespace Palette

def mono : Palette := ⟨⟨0, 0, 0⟩, ⟨0xFF, 0xFF, 0xFF⟩⟩
def phosphor : Palette := ⟨⟨0x30, 0x30, 0x30⟩, ⟨0x30, 0xBB, 0x30⟩⟩

/-- In the order of the names. -/
def named : List (String × Palette) := [("mono", mono), ("phosphor", phosphor)]

def ofName (name : String) : Except Invalid Palette :=
  match named.find? (·.1 = Text.lower name) with
  | some p => .ok p.2
  | none => .error (.paletteName name)

def color (p : Palette) (lit : Bool) : Rgb := if lit then p.foreground else p.background

/-- The low byte of the whole part. -/
def channel (q : Quantity) : Except PaletteError UInt8 :=
  match q.truncate with
  | .ok n => .ok (UInt8.ofInt n)
  | .error e => .error (.number e)

def rgb : List Quantity → Except PaletteError Rgb
  | [r, g, b] => do .ok ⟨← channel r, ← channel g, ← channel b⟩
  | _ => .error (.invalid .paletteEntry)

/-- The number of colours is looked at first, then the number of channels. -/
def ofColors (colors : List (List Quantity)) : Except PaletteError Palette :=
  match colors with
  | [background, foreground] =>
    if background.length ≠ 3 ∨ foreground.length ≠ 3 then .error (.invalid .paletteEntry)
    else do .ok ⟨← rgb background, ← rgb foreground⟩
  | _ => .error (.invalid .paletteSize)

end Palette

end Chip8
