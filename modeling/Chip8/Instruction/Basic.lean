import Chip8.Instruction.Op
import Chip8.Text.Radix
import Chip8.Word

/-!
Instruction patterns. A word is an instance of an instruction when its bits
under the mask are the pattern; a pattern has no bit outside its mask.
-/

namespace Chip8

structure Instruction where
  op : Op
  mask : Word
  pattern : Word
  mnemonic : String
  operands : String
  routine : String
  within : pattern.masked mask = pattern.val := by decide
  deriving DecidableEq, Repr

inductive PatternError where
  | maskRange (mask : Int)
  | outsideMask (pattern mask : Int)
  deriving DecidableEq, Repr

def PatternError.message : PatternError → String
  | .maskRange mask => "mask out of range: " ++ Text.decimal 0 mask
  | .outsideMask pattern mask =>
    "pattern " ++ Text.markedHex 6 pattern ++ " has bits outside mask " ++ Text.markedHex 6 mask

namespace Instruction

def of (op : Op) (mask pattern : Int) (mnemonic operands routine : String) :
    Except PatternError Instruction :=
  if 0 ≤ mask ∧ mask < 0x10000 then
    if h : (0 ≤ pattern ∧ pattern < 0x10000) ∧
        (Word.ofInt pattern).masked (Word.ofInt mask) = (Word.ofInt pattern).val then
      .ok ⟨op, .ofInt mask, .ofInt pattern, mnemonic, operands, routine, h.2⟩
    else .error (.outsideMask pattern mask)
  else .error (.maskRange mask)

def group (i : Instruction) : Fin 16 := i.pattern.group

def matchesWord (i : Instruction) (w : Word) : Bool := w.masked i.mask = i.pattern.val

end Instruction

end Chip8
