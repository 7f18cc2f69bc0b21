import Chip8.Instruction.Basic
import Chip8.Instruction.Template

/-!
Instruction tables. Every instruction fixes the primary group of its words, so a
table keeps one list for each group and searches only that of the word; the
first match wins.
-/

namespace Chip8

structure Table where
  groups : Vector (List Instruction) 16
  /-- All instructions, in order of registration. -/
  entries : List Instruction
  deriving DecidableEq

inductive TableError where
  | openGroup (op : Op)
  | knownOp (op : Op) (pattern : Word)
  | knownPattern (pattern : Word) (op : Op)
  deriving DecidableEq, Repr

def TableError.message : TableError → String
  | .openGroup op => op.name ++ " must fix the primary opcode nibble"
  | .knownOp op pattern => op.name ++ " already registered as " ++ Text.markedHex 6 pattern.val
  | .knownPattern pattern op =>
    "pattern " ++ Text.markedHex 6 pattern.val ++ " already registered as " ++ op.name

/-- Assembler text, with so much memory for it; a word without an instruction is shown as data. -/
def Instruction.textIn (room : Room) (i : Option Instruction) (w : Word) :
    Except TemplateError String :=
  match i with
  | none => .ok ("DW #" ++ Text.hex 4 w.val)
  | some i =>
    if i.operands.isEmpty then .ok i.mnemonic
    else (Template.fill room i.operands w).map fun s => i.mnemonic ++ " " ++ s

/-- Assembler text where memory is no matter. -/
def Instruction.text : Option Instruction → Word → Except TemplateError String := textIn .full

namespace Table

def empty : Table := ⟨Vector.replicate 16 [], []⟩

def size (t : Table) : Nat := t.entries.length

def get? (t : Table) (op : Op) : Option Instruction := t.entries.find? (·.op = op)

/-- Why `i` is refused, if it is. -/
def refusal? (t : Table) (i : Instruction) : Option TableError :=
  if Word.masked i.mask 0xF000 ≠ 0xF000 then some (.openGroup i.op)
  else match t.get? i.op with
    | some known => some (.knownOp i.op known.pattern)
    | none =>
      ((t.groups.get i.group).find? fun other =>
        other.mask = i.mask && other.pattern = i.pattern).map fun other =>
          .knownPattern i.pattern other.op

def insert (t : Table) (i : Instruction) : Table :=
  ⟨t.groups.set i.group (t.groups.get i.group ++ [i]) i.group.isLt, t.entries ++ [i]⟩

def register (t : Table) (i : Instruction) : Except TableError Table :=
  match t.refusal? i with
  | some e => .error e
  | none => .ok (t.insert i)

/-- Stops at the first refusal and keeps what was registered before it. -/
def registerAll (t : Table) : List Instruction → Table × Option TableError
  | [] => (t, none)
  | i :: is =>
    match t.register i with
    | .ok t => registerAll t is
    | .error e => (t, some e)

def lookup (t : Table) (w : Word) : Option Instruction :=
  (t.groups.get w.group).find? (·.matchesWord w)

def formatIn (t : Table) (room : Room) (w : Word) : Except TemplateError String :=
  Instruction.textIn room (t.lookup w) w

def format (t : Table) (w : Word) : Except TemplateError String := Instruction.text (t.lookup w) w

end Table

end Chip8
