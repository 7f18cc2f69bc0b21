import Chip8.Machine.Step

/-!
A machine written out for a reader: registers and stack, and memory sixteen
bytes to a line.
-/

namespace Chip8

namespace Machine

def registerTexts (m : Machine) : List String :=
  m.regs.v.toList.mapIdx fun k b => "V" ++ Text.hex 0 k ++ "=" ++ Text.hex 2 b.toNat

def stackText (m : Machine) : String :=
  if m.stack.entries.isEmpty then "-"
  else " ".intercalate (m.stack.toList.map fun a => Text.hex 3 a.val)

def describe (m : Machine) : List String :=
  ["PC=" ++ Text.hex 3 m.regs.pc ++ " I=" ++ Text.hex 3 m.regs.i ++ " DT=" ++
      Text.hex 2 m.regs.dt ++ " ST=" ++ Text.hex 2 m.regs.st ++ " SP=" ++
      Text.decimal 2 m.stack.depth,
   " ".intercalate m.registerTexts,
   "Stack: " ++ m.stackText,
   "Next: " ++ Text.hex 4 m.fetch.val ++ " " ++ Standard.text m.fetch,
   "Waiting for key: " ++ if m.awaiting then "V" ++ Text.hex 0 m.keyRegister.val else "no"]

def dumpWidth : Nat := 16

/-- The bytes of the `j`th line. -/
def dumpChunk (m : Machine) (start : Int) (length j : Nat) : List UInt8 :=
  m.memory.block (start + dumpWidth * j) (min dumpWidth (length - dumpWidth * j))

def dumpLine (m : Machine) (start : Int) (length j : Nat) : String :=
  Text.hex 3 ((start + dumpWidth * j) % 0x1000) ++ ": " ++
    " ".intercalate ((m.dumpChunk start length j).map fun b => Text.hex 2 b.toNat)

def dump (m : Machine) (start length : Int) : List String :=
  (List.range ((length.toNat + (dumpWidth - 1)) / dumpWidth)).map (m.dumpLine start length.toNat)

end Machine

end Chip8
