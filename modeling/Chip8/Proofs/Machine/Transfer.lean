import Chip8.Proofs.Machine.Footprint

/-!
The index register and what moves at it. `Fx55` and `Fx33` put bytes from the register on, around
the end of memory and except into the interpreter area (`Memory.Stored`); `Fx65` takes them from
there; and the register itself goes where the word tells (`nextIndex`), whatever becomes of the
step. So registers that were stored and are loaded again are as before (`step_transfer`).
-/

namespace Chip8

/-- `m'` is `m` with bytes put from `start` on, except into the interpreter area. -/
structure Memory.Stored (m m' : Memory) (start : Int) (bytes : List UInt8) : Prop where
  stored : ∀ (k : Nat) (b : UInt8), bytes[k]? = some b →
    ∀ a : Fin 0x1000, (a.val : Int) = (start + k) % 0x1000 → programStart ≤ a.val →
      m'.read a.val = b
  kept : ∀ a : Fin 0x1000,
    a.val < programStart ∨ (∀ k < bytes.length, (a.val : Int) ≠ (start + k) % 0x1000) →
      m'.read a.val = m.read a.val

theorem Memory.storeAll_stored {m : Memory} (hg : m.guard = programStart) (start : Int)
    {bytes : List UInt8} (hl : bytes.length ≤ 0x1000) :
    m.Stored (m.storeAll start bytes) start bytes where
  stored k b hb a ha hlow := by
    have hk := (List.getElem?_eq_some_iff.mp hb).1
    have hdist : (((a.val : Int) - start) % 0x1000).toNat = k := by omega
    rw [read_storeAll m start hl, hg, if_pos (by rwa [cell_of_lt a.isLt]), hdist,
      List.getD_eq_getElem?_getD, hb]
    rfl
  kept a ha := by
    rw [read_storeAll m start hl, hg, cell_of_lt a.isLt]
    split
    · next hlow =>
      have hlen : bytes.length ≤ (((a.val : Int) - start) % 0x1000).toNat := by
        rcases ha with h | h
        · omega
        · apply Nat.le_of_not_lt
          intro hlt
          exact h _ hlt (by omega)
      rw [List.getD_eq_getElem?_getD, List.getElem?_eq_none hlen]
      rfl
    · rfl

namespace Machine

/-- Where the index register is behind the step at a word. -/
def nextIndex (m : Machine) (w : Word) : Int :=
  if w.group = 0xA then w.nnn
  else if w.isF 0x1E then (m.regs.i + (m.vx w).toNat) % 0x10000
  else if w.isF 0x29 then 5 * ((m.vx w).toNat % 16 : Nat)
  else if m.dialect.transferAdvancesIndex && (w.isF 0x55 || w.isF 0x65) then
    (m.regs.i + w.x.val + 1) % 0x10000
  else m.regs.i

theorem afterTransfer_eq (m : Machine) (w : Word) :
    m.afterTransfer w = { m with
      regs.i := if m.dialect.transferAdvancesIndex then (m.regs.i + w.x.val + 1) % 0x10000
        else m.regs.i } := by
  unfold afterTransfer
  split <;> rfl

/-- A word of another shape leaves the index register alone. -/
theorem index_of_not_touches {m : Machine} {w : Word} (h : w.touches m.dialect .index = false) :
    m.nextIndex w = m.regs.i := by
  simp only [Word.touches, Bool.or_eq_false_iff, decide_eq_false_iff_not] at h
  obtain ⟨⟨⟨hA, h1E⟩, h29⟩, hd⟩ := h
  simp [nextIndex, hA, h1E, h29, hd]

theorem execute_index (m : Machine) {op : Op} {w : Word} (hf : op.shape.Fits w) :
    (m.execute op w).machine.regs.i = m.nextIndex w := by
  cases ht : w.touches m.dialect .index with
  | false =>
    rw [index_of_not_touches ht]
    exact execute_confined m hf .index ht
  | true =>
    cases op
    case cls | ret =>
      have hg : w.group = 0 := by
        rw [hf]
        rfl
      simp [Word.touches, Word.isF, hg] at ht
    all_goals simp only [Op.shape, Shape.Fits] at hf
    case ldI => simp [nextIndex, hf, execute]
    case addIVx => simp [nextIndex, Word.isF, hf, execute]
    case ldFVx =>
      have hn : m.nextIndex w = 5 * ((m.vx w).toNat % 16 : Nat) := by
        simp [nextIndex, Word.isF, hf]
      rw [hn]
      show ((glyphAddress (m.vx w).toNat : Nat) : Int) = _
      simp only [glyphAddress, glyphSize]
      omega
    case ldMemVx =>
      show ((m.storeAtIndex (m.registersTo w)).machine.afterTransfer w).regs.i = _
      rw [afterTransfer_eq]
      simp [nextIndex, Word.isF, hf]
      rfl
    case ldVxMem =>
      show (({ m with regs.v := m.registersFrom w } : Machine).afterTransfer w).regs.i = _
      rw [afterTransfer_eq]
      simp [nextIndex, Word.isF, hf]
    all_goals simp [Word.touches, Word.isF, hf] at ht

/-- A step leaves the index register where its word tells, also if it fails. -/
theorem InRange.step_index {m : Machine} (h : m.InRange) (ha : m.awaiting = false) :
    m.step.machine.regs.i = m.nextIndex m.fetch := by
  cases ht : m.fetch.touches m.dialect .index with
  | false =>
    rw [index_of_not_touches ht]
    exact h.step_confined .index ht
  | true =>
    -- What sets the register cannot fail.
    obtain ⟨op, hs, hf, hx⟩ : ∃ op : Op, op ≠ .sys ∧ op.shape.Fits m.fetch ∧
        (m.advance.execute op m.fetch).result = .ok false := by
      simp only [Word.touches, Word.isF, Bool.or_eq_true, Bool.and_eq_true,
        decide_eq_true_eq] at ht
      rcases ht with ((hA | h1E) | h29) | ⟨_, h55 | h65⟩
      · exact ⟨.ldI, by decide, hA, rfl⟩
      · exact ⟨.addIVx, by decide, h1E, rfl⟩
      · exact ⟨.ldFVx, by decide, h29, rfl⟩
      · exact ⟨.ldMemVx, by decide, h55, rfl⟩
      · exact ⟨.ldVxMem, by decide, h65, rfl⟩
    rw [(h.step_of_fits ha op hs hf hx).2]
    exact execute_index m.advance hf

theorem fits_of_isF {w : Word} {kk : UInt8} (h : w.isF kk = true) : w.group = 0xF ∧ w.kk = kk := by
  simpa [Word.isF] using h

theorem length_registersTo_le (m : Machine) (w : Word) : (m.registersTo w).length ≤ 0x1000 := by
  rw [registersTo, List.length_take]
  omega

theorem getElem?_registersTo (m : Machine) {w : Word} {k : Fin 16} (hk : k ≤ w.x) :
    (m.registersTo w)[k.val]? = some (m.regs.v.get k) := by
  have hlt : k.val < w.x.val + 1 := Nat.lt_succ_of_le hk
  rw [registersTo, List.getElem?_take_of_lt hlt]
  simp [Vector.get]

@[simp] theorem execute_store_memory (m : Machine) (w : Word) :
    (m.execute .ldMemVx w).machine.memory = m.memory.storeAll m.regs.i (m.registersTo w) := by
  show ((m.storeAtIndex (m.registersTo w)).machine.afterTransfer w).memory = _
  rw [afterTransfer_eq]
  rfl

@[simp] theorem execute_load_get (m : Machine) (w : Word) (k : Fin 16) :
    (m.execute .ldVxMem w).machine.regs.v.get k =
      if k ≤ w.x then m.memory.read (m.regs.i + k.val) else m.regs.v.get k := by
  show (({ m with regs.v := m.registersFrom w } : Machine).afterTransfer w).regs.v.get k = _
  rw [afterTransfer_eq]
  exact registersFrom_get m w k

/-- `Fx55` stores the registers up to `Vx`. -/
theorem InRange.step_store {m : Machine} (h : m.InRange) (ha : m.awaiting = false)
    (hw : m.fetch.isF 0x55 = true) :
    m.step.result = .ok false ∧ m.memory.Stored m.step.machine.memory m.regs.i
      (m.regs.v.toList.take (m.fetch.x.val + 1)) := by
  obtain ⟨hok, hm⟩ := h.step_of_fits ha .ldMemVx nofun (fits_of_isF hw) rfl
  refine ⟨hok, ?_⟩
  have hmem : m.step.machine.memory = m.memory.storeAll m.regs.i (m.registersTo m.fetch) := by
    rw [hm]
    exact m.advance.execute_store_memory m.fetch
  rw [hmem]
  exact Memory.storeAll_stored h.assembled.guard _ (m.length_registersTo_le m.fetch)

theorem decimalDigits_eq (b : UInt8) :
    ∃ hundreds tens ones : UInt8, decimalDigits b = [hundreds, tens, ones] ∧
      hundreds.toNat ≤ 9 ∧ tens.toNat ≤ 9 ∧ ones.toNat ≤ 9 ∧
      100 * hundreds.toNat + 10 * tens.toNat + ones.toNat = b.toNat := by
  have hlt := b.toNat_lt
  have hdiv : (b / 100).toNat = b.toNat / 100 := UInt8.toNat_div b 100
  have hmod : (b % 10).toNat = b.toNat % 10 := UInt8.toNat_mod b 10
  have htens : (b / 10 % 10).toNat = b.toNat / 10 % 10 := by
    rw [UInt8.toNat_mod, UInt8.toNat_div]
    rfl
  exact ⟨b / 100, b / 10 % 10, b % 10, rfl, by omega, by omega, by omega, by omega⟩

/-- `Fx33` stores three digits. -/
theorem InRange.step_digits {m : Machine} (h : m.InRange) (ha : m.awaiting = false)
    (hw : m.fetch.isF 0x33 = true) :
    m.step.result = .ok false ∧ ∃ hundreds tens ones : UInt8,
      hundreds.toNat ≤ 9 ∧ tens.toNat ≤ 9 ∧ ones.toNat ≤ 9 ∧
      100 * hundreds.toNat + 10 * tens.toNat + ones.toNat = (m.vx m.fetch).toNat ∧
      m.memory.Stored m.step.machine.memory m.regs.i [hundreds, tens, ones] := by
  obtain ⟨hok, hm⟩ := h.step_of_fits ha .ldBVx nofun (fits_of_isF hw) rfl
  obtain ⟨hundreds, tens, ones, he, h9⟩ := decimalDigits_eq (m.vx m.fetch)
  have hmem : m.step.machine.memory = m.memory.storeAll m.regs.i [hundreds, tens, ones] := by
    rw [hm, ← he]
    rfl
  refine ⟨hok, hundreds, tens, ones, h9.1, h9.2.1, h9.2.2.1, h9.2.2.2, ?_⟩
  rw [hmem]
  exact Memory.storeAll_stored h.assembled.guard _ (Nat.le_of_ble_eq_true rfl)

/-- `Fx65` loads the registers up to `Vx`. -/
theorem InRange.step_load {m : Machine} (h : m.InRange) (ha : m.awaiting = false)
    (hw : m.fetch.isF 0x65 = true) :
    m.step.result = .ok false ∧ ∀ k, m.step.machine.regs.v.get k =
      if k ≤ m.fetch.x then m.memory.read ((m.regs.i + k.val) % 0x1000)
      else m.regs.v.get k := by
  obtain ⟨hok, hm⟩ := h.step_of_fits ha .ldVxMem nofun (fits_of_isF hw) rfl
  refine ⟨hok, fun k => ?_⟩
  rw [hm]
  show (m.advance.execute .ldVxMem m.fetch).machine.regs.v.get k = _
  rw [execute_load_get]
  have hread : m.memory.read ((m.regs.i + k.val) % 0x1000) = m.memory.read (m.regs.i + k.val) :=
    m.memory.read_congr (by omega)
  rw [hread]
  rfl

/-- Registers that were stored come back. -/
theorem load_of_store {m : Machine} (hg : m.memory.guard = programStart) {w w' : Word}
    (hx : w'.x = w.x) (r : Registers) (hr : r.i = m.regs.i)
    (hhigh : ∀ k ≤ w.x, (programStart : Int) ≤ (m.regs.i + k.val) % 0x1000) {k : Fin 16}
    (hk : k ≤ w.x) :
    (({ (m.execute .ldMemVx w).machine with regs := r } : Machine).execute .ldVxMem
      w').machine.regs.v.get k = m.regs.v.get k := by
  have hstored : m.memory.Stored (m.memory.storeAll m.regs.i (m.registersTo w)) m.regs.i
      (m.registersTo w) := Memory.storeAll_stored hg _ (m.length_registersTo_le w)
  have hmem := m.execute_store_memory w
  rw [execute_load_get, hx, if_pos hk]
  have hcell : ((Memory.cell (m.regs.i + k.val)).val : Int) = (m.regs.i + k.val) % 0x1000 := by
    simp only [Memory.cell]
    omega
  have hlow := hhigh k hk
  have hread := hstored.stored k.val _ (m.getElem?_registersTo hk) _ hcell (by omega)
  show (m.execute .ldMemVx w).machine.memory.read (r.i + k.val) = _
  rw [hmem, hr, ← hread]
  exact Memory.read_congr _ (by omega)

/-- **The index register and block transfers.** What `Fx55`, `Fx65` and `Fx33` move, byte by
byte and around the end of memory; where the index register is behind every step, and that
`Fx1E` leaves the registers alone; and that registers which `Fx55` stored outside the
interpreter area are back after `Fx65` at the same index, whatever was in all of them in
between. -/
theorem step_transfer {m : Machine} (h : m.WellFormed) (ha : m.awaiting = false) :
    (m.fetch.isF 0x55 = true → m.step.result = .ok false ∧
      m.memory.Stored m.step.machine.memory m.regs.i
        (m.regs.v.toList.take (m.fetch.x.val + 1))) ∧
    (m.fetch.isF 0x65 = true → m.step.result = .ok false ∧
      ∀ k, m.step.machine.regs.v.get k =
        if k ≤ m.fetch.x then m.memory.read ((m.regs.i + k.val) % 0x1000)
        else m.regs.v.get k) ∧
    (m.fetch.isF 0x33 = true → m.step.result = .ok false ∧ ∃ hundreds tens ones : UInt8,
      hundreds.toNat ≤ 9 ∧ tens.toNat ≤ 9 ∧ ones.toNat ≤ 9 ∧
      100 * hundreds.toNat + 10 * tens.toNat + ones.toNat = (m.vx m.fetch).toNat ∧
      m.memory.Stored m.step.machine.memory m.regs.i [hundreds, tens, ones]) ∧
    m.step.machine.regs.i = m.nextIndex m.fetch ∧
    (m.fetch.isF 0x1E = true → m.step.result = .ok false ∧ m.step.machine.regs.v = m.regs.v) ∧
    ∀ w w' : Word, w'.x = w.x →
      (∀ k ≤ w.x, (programStart : Int) ≤ (m.regs.i + k.val) % 0x1000) →
      (m.execute .ldMemVx w).result = .ok false ∧
      ∀ r : Registers, r.i = m.regs.i →
        (({ (m.execute .ldMemVx w).machine with regs := r } : Machine).execute .ldVxMem
          w').result = .ok false ∧
        ∀ k ≤ w.x, (({ (m.execute .ldMemVx w).machine with regs := r } : Machine).execute
          .ldVxMem w').machine.regs.v.get k = m.regs.v.get k := by
  have hm := (wellFormed_iff m).mp h
  refine ⟨hm.step_store ha, hm.step_load ha, hm.step_digits ha, hm.step_index ha, ?_, ?_⟩
  · intro hw
    obtain ⟨hok, hstep⟩ := hm.step_of_fits ha .addIVx nofun (fits_of_isF hw) rfl
    refine ⟨hok, ?_⟩
    rw [hstep]
    rfl
  · intro w w' hx hhigh
    exact ⟨rfl, fun r hr => ⟨rfl, fun k hk =>
      load_of_store hm.assembled.guard hx r hr hhigh hk⟩⟩

/-- Four registers stored across the end of the interpreter area, from an index beyond memory:
two are dropped, and two overwrite the instruction. -/
theorem step_transfer_across_the_guard :
    ∃ start m : Machine,
      create #[0xF3, 0x55] ⟨false, false, true, false⟩ false .closed =
        .ok start ∧
      m = { start with regs := { Registers.initial with v := .replicate 16 0xAB, i := 0x11FE } } ∧
      m.WellFormed ∧ m.awaiting = false ∧ m.fetch.isF 0x55 = true ∧
      m.step.result = .ok false ∧
      m.step.machine.memory.read 0x1FF = m.memory.read 0x1FF ∧
      m.step.machine.memory.read 0x200 = 0xAB ∧ m.step.machine.regs.i = 0x1202 := by
  obtain ⟨start, m, hc, hm, hw, hregs, ha, hd, _, _, hbytes⟩ :=
    create_with #[0xF3, 0x55] (by decide) (by decide) ⟨false, false, true, false⟩ false
      .closed
      (r := { Registers.initial with v := .replicate 16 0xAB, i := 0x11FE })
      ⟨by decide, by decide, by decide, by decide⟩
  have hfetch : m.fetch = 0xF355 := by
    rw [fetch, hregs]
    exact hbytes
  have hi : m.regs.i = 0x11FE := by rw [hregs]
  have hv : m.regs.v.get 2 = 0xAB := by
    rw [hregs]
    exact Vector.getElem_replicate _
  have hword : m.fetch.isF 0x55 = true := by rw [hfetch]; rfl
  obtain ⟨hstore, _, _, hindex, _⟩ := step_transfer hw ha
  obtain ⟨hok, hstored⟩ := hstore hword
  rw [hi, hfetch] at hstored
  refine ⟨start, m, hc, hm, hw, ha, hword, hok, ?_, ?_, ?_⟩
  · exact hstored.kept 0x1FF (Or.inl (by decide))
  · have hthird := m.getElem?_registersTo (w := 0xF355) (k := 2) (by decide)
    rw [hv] at hthird
    exact hstored.stored 2 0xAB hthird 0x200 (by decide) (by decide)
  · rw [hindex, hfetch, nextIndex, hi, hd]
    rfl

end Machine

end Chip8
