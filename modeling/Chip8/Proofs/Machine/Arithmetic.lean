import Chip8.Proofs.Machine.Footprint

/-!
Arithmetic and logic. An instruction of the family puts one number into `Vx`, told from the
numbers that `Vx` and `Vy` held before it, and most put a second one into `VF`
(`Word.arithmetic?`). The second one is written last, so it wins where `Vx` is `VF`
(`step_arithmetic`).
-/

namespace Chip8

/-- The number that a shift moves, of `a` in `Vx` and `b` in `Vy`. -/
def Dialect.shifted (d : Dialect) (a b : Nat) : Nat := if d.shiftReadsVy then b else a

/-- The flag of the instructions without a carry. -/
def Dialect.logicFlag? (d : Dialect) : Option Nat := if d.logicClearsFlag then some 0 else none

/-- What the words `6xkk`, `7xkk` and `8xyn` put into `Vx`, and into `VF` if they set it, where
`a` was in `Vx` and `b` in `Vy`. Other words belong to other families. -/
def Word.arithmetic? (w : Word) (d : Dialect) (a b : Nat) : Option (Nat × Option Nat) :=
  if w.group = 6 then some (w.val % 0x100, none)
  else if w.group = 7 then some ((a + w.val % 0x100) % 0x100, none)
  else if w.group = 8 then
    match w.n with
    | 0x0 => some (b, none)
    | 0x1 => some (a ||| b, d.logicFlag?)
    | 0x2 => some (a &&& b, d.logicFlag?)
    | 0x3 => some (a ^^^ b, d.logicFlag?)
    | 0x4 => some ((a + b) % 0x100, some (if 0xFF < a + b then 1 else 0))
    | 0x5 => some ((((a : Int) - b) % 0x100).toNat, some (if b ≤ a then 1 else 0))
    | 0x6 => some (d.shifted a b / 2, some (d.shifted a b % 2))
    | 0x7 => some ((((b : Int) - a) % 0x100).toNat, some (if a ≤ b then 1 else 0))
    | 0xE => some (2 * d.shifted a b % 0x100, some (d.shifted a b / 0x80))
    | _ => none
  else none

/-- The registers `v` with the result `r` in the `x`th and then the flag, if there is one, in
the last; no other register differs. -/
structure Yields (v v' : Vector UInt8 16) (x : Fin 16) (r : Nat) (flag : Option Nat) : Prop where
  others : ∀ k, k ≠ x → k ≠ 0xF → v'.get k = v.get k
  result : x ≠ 0xF → (v'.get x).toNat = r
  flag : (v'.get 0xF).toNat = flag.getD (if x = 0xF then r else (v.get 0xF).toNat)

theorem Word.toNat_kk (w : Word) : w.kk.toNat = w.val % 0x100 := by
  rw [kk, UInt8.toNat_ofNat']
  omega

/-- A difference of bytes, with and without a borrow. -/
theorem toNat_sub_eq (a b : UInt8) :
    (a - b).toNat = (((a.toNat : Int) - b.toNat) % 0x100).toNat := by
  have := a.toNat_lt
  have := b.toNat_lt
  rw [UInt8.toNat_sub]
  omega

namespace Machine

theorem yields_setV (m : Machine) (x : Fin 16) {b : UInt8} {r : Nat} (hr : b.toNat = r) :
    Yields m.regs.v (m.setV x b).regs.v x r none where
  others k hx _ := by simp [hx.symm]
  result _ := by simp [hr]
  flag := by
    rw [setV_get, Option.getD_none]
    split
    · exact hr
    · rfl

theorem yields_setFlag (m : Machine) (x : Fin 16) {b : UInt8} {r : Nat} (hr : b.toNat = r)
    {p : Prop} [Decidable p] {f : Nat} (hf : (if p then 1 else 0) = f) :
    Yields m.regs.v ((m.setV x b).setFlag p).regs.v x r (some f) where
  others k hx hk := by simp [hk.symm, hx.symm]
  result hx := by simp [hx.symm, hr]
  flag := by
    rw [setFlag_get, if_pos rfl, Option.getD_some, ← hf]
    by_cases hp : p <;> simp [hp]

theorem yields_logicFlag (m : Machine) (x : Fin 16) {b : UInt8} {r : Nat} (hr : b.toNat = r) :
    Yields m.regs.v (m.setV x b).logicFlag.regs.v x r m.dialect.logicFlag? := by
  have hd : (m.setV x b).dialect = m.dialect := rfl
  unfold logicFlag Dialect.logicFlag?
  rw [hd]
  split
  · exact yields_setFlag m x hr (p := False) rfl
  · exact yields_setV m x hr

theorem toNat_shiftSource (m : Machine) (w : Word) :
    (m.shiftSource w).toNat = m.dialect.shifted (m.vx w).toNat (m.vy w).toNat := by
  unfold shiftSource Dialect.shifted
  split <;> rfl

theorem yields_shr (m : Machine) (w : Word) :
    Yields m.regs.v (m.execute .shr w).machine.regs.v w.x
      (m.dialect.shifted (m.vx w).toNat (m.vy w).toNat / 2)
      (some (m.dialect.shifted (m.vx w).toNat (m.vy w).toNat % 2)) := by
  rw [← toNat_shiftSource]
  refine yields_setFlag m w.x (UInt8.toNat_div _ _) ?_
  simp only [← UInt8.toNat_inj, UInt8.toNat_mod, UInt8.reduceToNat]
  split <;> omega

theorem yields_shl (m : Machine) (w : Word) :
    Yields m.regs.v (m.execute .shl w).machine.regs.v w.x
      (2 * m.dialect.shifted (m.vx w).toNat (m.vy w).toNat % 0x100)
      (some (m.dialect.shifted (m.vx w).toNat (m.vy w).toNat / 0x80)) := by
  rw [← toNat_shiftSource]
  have hlt := (m.shiftSource w).toNat_lt
  refine yields_setFlag m w.x ?_ ?_
  · rw [UInt8.toNat_add]
    omega
  · simp only [UInt8.le_iff_toNat_le, UInt8.reduceToNat]
    split <;> omega

/-- The instruction of the family that a word holds, and its numbers. -/
theorem exists_yields (m : Machine) {w : Word} {r : Nat} {f : Option Nat}
    (h : w.arithmetic? m.dialect (m.vx w).toNat (m.vy w).toNat = some (r, f)) :
    ∃ op : Op, op ≠ .sys ∧ op.shape.Fits w ∧ (m.execute op w).result = .ok false ∧
      Yields m.regs.v (m.execute op w).machine.regs.v w.x r f := by
  unfold Word.arithmetic? at h
  split at h
  · next hg =>
    cases h
    exact ⟨.ldVxKk, by decide, hg, rfl, yields_setV m w.x w.toNat_kk⟩
  split at h
  · next hg =>
    cases h
    refine ⟨.addVxKk, by decide, hg, rfl, yields_setV m w.x ?_⟩
    rw [UInt8.toNat_add, w.toNat_kk]
  split at h
  · next hg =>
    split at h <;> rename_i hn <;> cases h
    · exact ⟨.ldVxVy, by decide, ⟨hg, hn⟩, rfl, yields_setV m w.x rfl⟩
    · exact ⟨.or, by decide, ⟨hg, hn⟩, rfl, yields_logicFlag m w.x (UInt8.toNat_or _ _)⟩
    · exact ⟨.and, by decide, ⟨hg, hn⟩, rfl, yields_logicFlag m w.x (UInt8.toNat_and _ _)⟩
    · exact ⟨.xor, by decide, ⟨hg, hn⟩, rfl, yields_logicFlag m w.x (UInt8.toNat_xor _ _)⟩
    · exact ⟨.addVxVy, by decide, ⟨hg, hn⟩, rfl,
        yields_setFlag m w.x (UInt8.toNat_add _ _) rfl⟩
    · exact ⟨.sub, by decide, ⟨hg, hn⟩, rfl,
        yields_setFlag m w.x (toNat_sub_eq _ _) rfl⟩
    · exact ⟨.shr, by decide, ⟨hg, hn⟩, rfl, yields_shr m w⟩
    · exact ⟨.subn, by decide, ⟨hg, hn⟩, rfl,
        yields_setFlag m w.x (toNat_sub_eq _ _) rfl⟩
    · exact ⟨.shl, by decide, ⟨hg, hn⟩, rfl, yields_shl m w⟩
  · cases h

/-- **Arithmetic and logic.** A step at a word of the family succeeds, with the result in `Vx`
and the flag in `VF`; where they are one register the flag is what it keeps. No other register
changes. -/
theorem step_arithmetic {m : Machine} (h : m.WellFormed) (ha : m.awaiting = false)
    {r : Nat} {f : Option Nat}
    (hw : m.fetch.arithmetic? m.dialect (m.vx m.fetch).toNat (m.vy m.fetch).toNat =
      some (r, f)) :
    m.step.result = .ok false ∧ Yields m.regs.v m.step.machine.regs.v m.fetch.x r f := by
  have hm := (wellFormed_iff m).mp h
  obtain ⟨op, hs, hf, hx, hy⟩ := exists_yields m.advance hw
  obtain ⟨hok, hstep⟩ := hm.step_of_fits ha op hs hf hx
  refine ⟨hok, ?_⟩
  rw [hstep]
  exact hy

/-- The sum of `VF` and itself is lost to the carry, under every variation of the dialect. -/
theorem step_arithmetic_flag_to_itself :
    ∃ start m, create #[0x8F, 0xF4] ⟨true, true, true, true⟩ false .closed =
        .ok start ∧
      m = { start with regs := { Registers.initial with v := .replicate 16 0xFF } } ∧
      m.WellFormed ∧ m.awaiting = false ∧ m.fetch = 0x8FF4 ∧
      m.fetch.arithmetic? m.dialect (m.vx m.fetch).toNat (m.vy m.fetch).toNat =
        some (0xFE, some 1) ∧
      m.step.result = .ok false ∧ (m.step.machine.regs.v.get 0xF).toNat = 1 := by
  obtain ⟨start, m, hc, hm, hw, hregs, ha, hd, _, _, hword⟩ :=
    create_with #[0x8F, 0xF4] (by decide) (by decide) ⟨true, true, true, true⟩ false
      .closed (r := { Registers.initial with v := .replicate 16 0xFF })
      ⟨by decide, by decide, by decide, by decide⟩
  have hfetch : m.fetch = 0x8FF4 := by
    rw [fetch, hregs]
    exact hword
  have hr : m.fetch.arithmetic? m.dialect (m.vx m.fetch).toNat (m.vy m.fetch).toNat =
      some (0xFE, some 1) := by
    have hv (k : Fin 16) : m.regs.v.get k = 0xFF := by
      rw [hregs]
      exact Vector.getElem_replicate _
    rw [hfetch, vx, vy, hv, hv, hd]
    rfl
  obtain ⟨hok, hy⟩ := step_arithmetic hw ha hr
  exact ⟨start, m, hc, hm, hw, ha, hfetch, hr, hok, hy.flag⟩

end Machine

end Chip8
