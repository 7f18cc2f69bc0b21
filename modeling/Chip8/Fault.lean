import Chip8.Number.Size
import Chip8.Text.Radix
import Chip8.Word

/-!
Why an operation on the machine or one of its parts is refused.
-/

namespace Chip8

inductive Fault where
  | illegalOpcode (pc : Int) (word : Word)
  | stackOverflow (depth capacity : Nat)
  | stackUnderflow
  | noEntropy (reason : String)
  | byteRange
  | keyIndex (index : Int)
  | imageMisfit (length : Nat) (start : Int)
  | negativeClear
  | size (e : SizeError)
  deriving DecidableEq, Repr

namespace Fault

/-- An index out of range is told however long it is. -/
def message : Fault → String
  | illegalOpcode pc word => "illegal opcode " ++ Text.hex 4 word.val ++ " at " ++ Text.hex 3 pc
  | stackOverflow depth capacity =>
    "call stack overflow: depth " ++ Text.decimal 0 depth ++ " reached capacity " ++
      Text.decimal 0 capacity
  | stackUnderflow => "return with empty call stack"
  | noEntropy reason => reason
  | byteRange => "byte must be in range(0, 256)"
  | keyIndex index => "key index out of range: " ++ Text.decimal 0 index
  | imageMisfit length start =>
    "image of " ++ Text.decimal 0 length ++ " bytes does not fit at " ++ Text.markedHex 5 start
  | negativeClear => "negative count"
  | size e => e.message

/-- Faults of the call stack; they undo the fetch. -/
def isStack : Fault → Bool
  | stackOverflow .. | stackUnderflow => true
  | _ => false

/-- Faults of the processor itself. -/
def isProcessor : Fault → Bool
  | illegalOpcode .. => true
  | f => f.isStack

end Fault

/-- Sizes and rates that are refused where a part is set up. -/
inductive Invalid where
  | capacity
  | screenSize
  | scale
  | scaleFraction
  | rates
  | paletteSize
  | paletteEntry
  | paletteName (name : String)
  | size (e : SizeError)
  deriving DecidableEq, Repr

def Invalid.message : Invalid → String
  | .capacity => "capacity must be positive"
  | .screenSize => "framebuffer dimensions must be positive"
  | .scale => "scale must be positive"
  | .scaleFraction => "can't multiply sequence by non-int of type 'float'"
  | .rates => "clock, timer and frame rates must be positive"
  | .paletteSize => "palette must contain exactly two colours (background and foreground)"
  | .paletteEntry => "palette entries must be RGB tuples"
  | .paletteName name => "unknown palette '" ++ name ++ "' (choose from: mono, phosphor)"
  | .size e => e.message

end Chip8
