import Chip8.Proofs.Instruction.Lookup

/-!
Shapes of instruction words. An instruction fixes the whole word, its group, or
its group with the lowest nibble or byte; every instruction but `sys` is found at
exactly the words of its shape (`op?_eq_iff_fits`), and `sys` at words of its
shape only (`fits_of_op?`).
-/

namespace Chip8

/-- What a word must have in common with an instruction. -/
inductive Shape where
  | whole (w : Word)
  | group (g : Fin 16)
  | nibble (g n : Fin 16)
  | byte (g : Fin 16) (kk : UInt8)

namespace Shape

def Fits (w : Word) : Shape → Prop
  | whole v => w = v
  | group g => w.group = g
  | nibble g n => w.group = g ∧ w.n = n.val
  | byte g kk => w.group = g ∧ w.kk = kk

def mask : Shape → Word
  | whole _ => 0xFFFF
  | group _ => 0xF000
  | nibble .. => 0xF00F
  | byte .. => 0xF0FF

def pattern : Shape → Nat
  | whole v => v.val
  | group g => 0x1000 * g.val
  | nibble g n => 0x1000 * g.val + n.val
  | byte g kk => 0x1000 * g.val + kk.toNat

theorem fits_iff_masked (s : Shape) (w : Word) : s.Fits w ↔ w.masked s.mask = s.pattern := by
  cases s with
  | whole v =>
    show w = v ↔ w.masked 0xFFFF = v.val
    rw [Word.masked_eq (n := 12) (by omega) rfl, Fin.ext_iff]
    show w.val = v.val ↔ 0x1000 * (w.val / 0x1000) + w.val % 0x1000 = v.val
    omega
  | group g =>
    show w.group = g ↔ w.masked 0xF000 = 0x1000 * g.val
    rw [Word.masked_eq (n := 0) (by omega) rfl, Fin.ext_iff]
    show w.group.val = g.val ↔ 0x1000 * w.group.val + w.val % 1 = 0x1000 * g.val
    omega
  | nibble g n =>
    show w.group = g ∧ w.n = n.val ↔ w.masked 0xF00F = 0x1000 * g.val + n.val
    rw [Word.masked_eq (n := 4) (by omega) rfl, Fin.ext_iff]
    show w.group.val = g.val ∧ w.val % 0x10 = n.val ↔
      0x1000 * w.group.val + w.val % 0x10 = 0x1000 * g.val + n.val
    omega
  | byte g kk =>
    show w.group = g ∧ w.kk = kk ↔ w.masked 0xF0FF = 0x1000 * g.val + kk.toNat
    rw [Word.masked_eq (n := 8) (by omega) rfl, Word.kk_eq_iff, Fin.ext_iff]
    show w.group.val = g.val ∧ w.val % 0x100 = kk.toNat ↔
      0x1000 * w.group.val + w.val % 0x100 = 0x1000 * g.val + kk.toNat
    have := kk.toNat_lt
    omega

end Shape

def Op.shape : Op → Shape
  | .cls => .whole 0x00E0
  | .ret => .whole 0x00EE
  | .sys => .group 0x0
  | .jp => .group 0x1
  | .call => .group 0x2
  | .seVxKk => .group 0x3
  | .sneVxKk => .group 0x4
  | .seVxVy => .nibble 0x5 0x0
  | .ldVxKk => .group 0x6
  | .addVxKk => .group 0x7
  | .ldVxVy => .nibble 0x8 0x0
  | .or => .nibble 0x8 0x1
  | .and => .nibble 0x8 0x2
  | .xor => .nibble 0x8 0x3
  | .addVxVy => .nibble 0x8 0x4
  | .sub => .nibble 0x8 0x5
  | .shr => .nibble 0x8 0x6
  | .subn => .nibble 0x8 0x7
  | .shl => .nibble 0x8 0xE
  | .sneVxVy => .nibble 0x9 0x0
  | .ldI => .group 0xA
  | .jpV0 => .group 0xB
  | .rnd => .group 0xC
  | .drw => .group 0xD
  | .skp => .byte 0xE 0x9E
  | .sknp => .byte 0xE 0xA1
  | .ldVxDt => .byte 0xF 0x07
  | .ldVxK => .byte 0xF 0x0A
  | .ldDtVx => .byte 0xF 0x15
  | .ldStVx => .byte 0xF 0x18
  | .addIVx => .byte 0xF 0x1E
  | .ldFVx => .byte 0xF 0x29
  | .ldBVx => .byte 0xF 0x33
  | .ldMemVx => .byte 0xF 0x55
  | .ldVxMem => .byte 0xF 0x65

namespace Standard

theorem instructions_shape :
    ∀ i ∈ instructions, i.mask = i.op.shape.mask ∧ i.pattern.val = i.op.shape.pattern := by decide

theorem exists_instruction (op : Op) : ∃ i ∈ instructions, i.op = op := by
  cases op <;> decide

theorem matchesWord_iff_fits {i : Instruction} (hi : i ∈ instructions) (w : Word) :
    i.matchesWord w = true ↔ i.op.shape.Fits w := by
  obtain ⟨hm, hp⟩ := instructions_shape i hi
  rw [Instruction.matchesWord, decide_eq_true_eq, Shape.fits_iff_masked, hm, hp]

theorem fits_of_op? {w : Word} {op : Op} (h : op? w = some op) : op.shape.Fits w := by
  obtain ⟨i, hl, rfl⟩ := Option.map_eq_some_iff.mp h
  obtain ⟨hi, hw⟩ := mem_of_lookup hl
  exact (matchesWord_iff_fits hi w).mp hw

/-- **Each instruction but `sys` is found at exactly the words of its shape.** -/
theorem op?_eq_iff_fits {op : Op} (hs : op ≠ .sys) (w : Word) :
    op? w = some op ↔ op.shape.Fits w := by
  obtain ⟨i, hi, rfl⟩ := exists_instruction op
  rw [op?_eq_some_iff hi hs, matchesWord_iff_fits hi]

theorem op?_eq_call_iff (w : Word) : op? w = some .call ↔ w.group = 2 :=
  op?_eq_iff_fits (by decide) w

theorem op?_eq_ret_iff (w : Word) : op? w = some .ret ↔ w = 0x00EE :=
  op?_eq_iff_fits (by decide) w

theorem op?_eq_ldVxK_iff (w : Word) : op? w = some .ldVxK ↔ w.group = 0xF ∧ w.kk = 0x0A :=
  op?_eq_iff_fits (by decide) w

end Standard

end Chip8
