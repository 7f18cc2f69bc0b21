import Chip8.Instruction.Table

/-!
The standard instruction set, its table, and disassembly with it. The two
instructions of group 0 that are fully fixed come before the one that covers
the whole group.
-/

namespace Chip8

namespace Standard

def vx : String := "V\x7bx:X\x7d"
def vy : String := "V\x7by:X\x7d"
def address : String := "#\x7bnnn:03X\x7d"
def vxKk : String := vx ++ ", #\x7bkk:02X\x7d"
def vxVy : String := vx ++ ", " ++ vy

/-- The routine of an instruction is named after it. -/
def routine (op : Op) : String := "op_" ++ String.ofList (op.name.toList.map Char.toLower)

def instructions : List Instruction :=
  [⟨.cls, 0xFFFF, 0x00E0, "CLS", "", routine .cls, by decide⟩,
   ⟨.ret, 0xFFFF, 0x00EE, "RET", "", routine .ret, by decide⟩,
   ⟨.sys, 0xF000, 0x0000, "SYS", address, routine .sys, by decide⟩,
   ⟨.jp, 0xF000, 0x1000, "JP", address, routine .jp, by decide⟩,
   ⟨.call, 0xF000, 0x2000, "CALL", address, routine .call, by decide⟩,
   ⟨.seVxKk, 0xF000, 0x3000, "SE", vxKk, routine .seVxKk, by decide⟩,
   ⟨.sneVxKk, 0xF000, 0x4000, "SNE", vxKk, routine .sneVxKk, by decide⟩,
   ⟨.seVxVy, 0xF00F, 0x5000, "SE", vxVy, routine .seVxVy, by decide⟩,
   ⟨.ldVxKk, 0xF000, 0x6000, "LD", vxKk, routine .ldVxKk, by decide⟩,
   ⟨.addVxKk, 0xF000, 0x7000, "ADD", vxKk, routine .addVxKk, by decide⟩,
   ⟨.ldVxVy, 0xF00F, 0x8000, "LD", vxVy, routine .ldVxVy, by decide⟩,
   ⟨.or, 0xF00F, 0x8001, "OR", vxVy, routine .or, by decide⟩,
   ⟨.and, 0xF00F, 0x8002, "AND", vxVy, routine .and, by decide⟩,
   ⟨.xor, 0xF00F, 0x8003, "XOR", vxVy, routine .xor, by decide⟩,
   ⟨.addVxVy, 0xF00F, 0x8004, "ADD", vxVy, routine .addVxVy, by decide⟩,
   ⟨.sub, 0xF00F, 0x8005, "SUB", vxVy, routine .sub, by decide⟩,
   ⟨.shr, 0xF00F, 0x8006, "SHR", vx, routine .shr, by decide⟩,
   ⟨.subn, 0xF00F, 0x8007, "SUBN", vxVy, routine .subn, by decide⟩,
   ⟨.shl, 0xF00F, 0x800E, "SHL", vx, routine .shl, by decide⟩,
   ⟨.sneVxVy, 0xF00F, 0x9000, "SNE", vxVy, routine .sneVxVy, by decide⟩,
   ⟨.ldI, 0xF000, 0xA000, "LD", "I, " ++ address, routine .ldI, by decide⟩,
   ⟨.jpV0, 0xF000, 0xB000, "JP", "V0, " ++ address, routine .jpV0, by decide⟩,
   ⟨.rnd, 0xF000, 0xC000, "RND", vxKk, routine .rnd, by decide⟩,
   ⟨.drw, 0xF000, 0xD000, "DRW", vxVy ++ ", \x7bn:X\x7d", routine .drw, by decide⟩,
   ⟨.skp, 0xF0FF, 0xE09E, "SKP", vx, routine .skp, by decide⟩,
   ⟨.sknp, 0xF0FF, 0xE0A1, "SKNP", vx, routine .sknp, by decide⟩,
   ⟨.ldVxDt, 0xF0FF, 0xF007, "LD", vx ++ ", DT", routine .ldVxDt, by decide⟩,
   ⟨.ldVxK, 0xF0FF, 0xF00A, "LD", vx ++ ", K", routine .ldVxK, by decide⟩,
   ⟨.ldDtVx, 0xF0FF, 0xF015, "LD", "DT, " ++ vx, routine .ldDtVx, by decide⟩,
   ⟨.ldStVx, 0xF0FF, 0xF018, "LD", "ST, " ++ vx, routine .ldStVx, by decide⟩,
   ⟨.addIVx, 0xF0FF, 0xF01E, "ADD", "I, " ++ vx, routine .addIVx, by decide⟩,
   ⟨.ldFVx, 0xF0FF, 0xF029, "LD", "F, " ++ vx, routine .ldFVx, by decide⟩,
   ⟨.ldBVx, 0xF0FF, 0xF033, "LD", "B, " ++ vx, routine .ldBVx, by decide⟩,
   ⟨.ldMemVx, 0xF0FF, 0xF055, "LD", "[I], " ++ vx, routine .ldMemVx, by decide⟩,
   ⟨.ldVxMem, 0xF0FF, 0xF065, "LD", vx ++ ", [I]", routine .ldVxMem, by decide⟩]

def table : Table := (Table.empty.registerAll instructions).1

/-- The standard instructions named by `ops`, in that order. -/
def select (ops : List Op) : List Instruction :=
  ops.filterMap fun op => instructions.find? (·.op = op)

/-- Assembler text under the standard table, whose templates are all sound. -/
def text (w : Word) : String := ((table.format w).toOption).getD ""

/-- One row for each whole word: its address, the word, its text. -/
def disassemble (start : Int) : List UInt8 → List (Int × Word × String)
  | high :: low :: rest =>
    let w := Word.ofBytes high low
    (start, w, text w) :: disassemble (start + 2) rest
  | _ => []

end Standard

end Chip8
