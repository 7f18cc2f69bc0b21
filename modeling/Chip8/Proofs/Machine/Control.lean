import Chip8.Proofs.Machine.Footprint
import Chip8.Proofs.Machine.KeyWait
import Chip8.Proofs.Machine.Subroutine

/-!
Control flow. Every step that succeeds leads to the address that its word and the machine tell
(`following`), a return to the top of the call stack; and of two conditional instructions with
opposite conditions and the same operands exactly one skips (`step_control`).
-/

namespace Chip8

/-- Two conditional words with the same operands and opposite conditions. -/
inductive Word.Opposed (w w' : Word) : Prop
  | byte : w.group = 3 → w'.group = 4 → w'.x = w.x → w'.kk = w.kk → Opposed w w'
  | registers : w.group = 5 ∧ w.n = 0 → w'.group = 9 ∧ w'.n = 0 → w'.x = w.x → w'.y = w.y →
      Opposed w w'
  | key : w.group = 0xE ∧ w.kk = 0x9E → w'.group = 0xE ∧ w'.kk = 0xA1 → w'.x = w.x →
      Opposed w w'

/-- The instructions that skip the next one or do not. -/
def Op.isConditional : Op → Bool
  | .seVxKk | .sneVxKk | .seVxVy | .sneVxVy | .skp | .sknp => true
  | _ => false

namespace Machine

/-- `Vx` is the number of a key that is down; numbers beyond the keys are of none. -/
def holds (m : Machine) (w : Word) : Bool :=
  decide (∃ k : Fin 16, k.val = (m.vx w).toNat ∧ m.keypad.keys.get k = true)

/-- Whether a word is conditional and its condition is met. -/
def skips (m : Machine) (w : Word) : Bool :=
  (w.group = 3 && m.vx w = w.kk) ||
  (w.group = 4 && m.vx w ≠ w.kk) ||
  (w.group = 5 && w.n = 0 && m.vx w = m.vy w) ||
  (w.group = 9 && w.n = 0 && m.vx w ≠ m.vy w) ||
  (w.group = 0xE && w.kk = 0x9E && m.holds w) ||
  (w.group = 0xE && w.kk = 0xA1 && !m.holds w)

/-- Where control goes from a word that does not return. -/
def following (m : Machine) (w : Word) : Int :=
  if w.group = 1 ∨ w.group = 2 then w.nnn
  else if w.group = 0xB then
    ((m.regs.v.get (if m.dialect.jumpReadsVx then w.x else 0)).toNat + w.nnn) % 0x1000
  else (m.regs.pc + if m.skips w then 4 else 2) % 0x1000

theorem keyHeld_eq_holds (m : Machine) (w : Word) : m.keyHeld w = m.holds w := by
  rw [Bool.eq_iff_iff, holds, decide_eq_true_iff, keyHeld, Keypad.isPressed]
  by_cases h : (m.vx w).toNat < 16
  · rw [keypad_index ⟨_, h⟩]
    constructor
    · intro hk
      exact ⟨⟨_, h⟩, rfl, hk⟩
    · rintro ⟨k, hk, hdown⟩
      rwa [show k = ⟨_, h⟩ from Fin.ext hk] at hdown
  · rw [Keypad.index, dif_neg (by omega)]
    constructor
    · intro hk
      cases hk
    · rintro ⟨k, hk, _⟩
      omega

theorem holds_of_large {m : Machine} {w : Word} (h : 0xF < (m.vx w).toNat) :
    m.holds w = false := by
  rw [holds, decide_eq_false_iff_not]
  rintro ⟨k, hk, _⟩
  omega

theorem skips_opposed (m : Machine) {w w' : Word} (h : w.Opposed w') :
    m.skips w' = !m.skips w := by
  have hvx (hx : w'.x = w.x) : m.vx w' = m.vx w := congrArg m.regs.v.get hx
  cases h with
  | byte hg hg' hx hk => simp [skips, hg, hg', hvx hx, hk]
  | registers hg hg' hx hy =>
    have hvy : m.vy w' = m.vy w := congrArg m.regs.v.get hy
    simp [skips, hg, hg', hvx hx, hvy]
  | key hg hg' hx =>
    have hholds : m.holds w' = m.holds w := by rw [holds, holds, hvx hx]
    simp [skips, hg, hg', hholds]

theorem skipIf_advance (m : Machine) (c : Bool) :
    (m.advance.skipIf c).regs.pc = (m.regs.pc + if c then 4 else 2) % 0x1000 := by
  cases c with
  | false => rfl
  | true =>
    show ((m.regs.pc + 2) % 0x1000 + 2) % 0x1000 = (m.regs.pc + 4) % 0x1000
    omega

@[simp] theorem logicFlag_pc (m : Machine) : m.logicFlag.regs.pc = m.regs.pc := by
  unfold logicFlag
  split <;> rfl

@[simp] theorem afterTransfer_pc (m : Machine) (w : Word) :
    (m.afterTransfer w).regs.pc = m.regs.pc := by
  unfold afterTransfer
  split <;> rfl

@[simp] theorem drawRandom_pc (m : Machine) (w : Word) :
    (m.drawRandom w).machine.regs.pc = m.regs.pc := by
  unfold drawRandom
  split <;> rfl

@[simp] theorem readDelay_pc (m : Machine) (w : Word) :
    (m.readDelay w).machine.regs.pc = m.regs.pc := by
  unfold readDelay
  split <;> rfl

theorem call_pc {m : Machine} {w : Word} {drew : Bool} (h : (m.call w).result = .ok drew) :
    (m.call w).machine.regs.pc = w.nnn := by
  unfold call at h ⊢
  cases hp : m.stack.push m.regs.pc with
  | ok stack => rfl
  | error f => simp [hp] at h

/-- Handlers work behind the word. -/
theorem execute_counter (m : Machine) {op : Op} {w : Word} (hf : op.shape.Fits w)
    (hret : op ≠ .ret) {drew : Bool} (hx : (m.advance.execute op w).result = .ok drew) :
    (m.advance.execute op w).machine.regs.pc = m.following w := by
  cases op
  case cls =>
    replace hf : w = 0x00E0 := hf
    subst hf
    rfl
  all_goals simp only [Op.shape, Shape.Fits] at hf
  case ret => exact absurd rfl hret
  case jp => simp [following, hf]; rfl
  case call =>
    have hn : m.following w = w.nnn := by simp [following, hf]
    rw [hn]
    exact call_pc hx
  case jpV0 => simp [following, hf]; rfl
  case seVxKk =>
    show (m.advance.skipIf (m.vx w = w.kk)).regs.pc = _
    rw [skipIf_advance]
    simp [following, skips, hf]
  case sneVxKk =>
    show (m.advance.skipIf (m.vx w ≠ w.kk)).regs.pc = _
    rw [skipIf_advance]
    simp [following, skips, hf]
  case seVxVy =>
    show (m.advance.skipIf (m.vx w = m.vy w)).regs.pc = _
    rw [skipIf_advance]
    simp [following, skips, hf]
  case sneVxVy =>
    show (m.advance.skipIf (m.vx w ≠ m.vy w)).regs.pc = _
    rw [skipIf_advance]
    simp [following, skips, hf]
  case skp =>
    show (m.advance.skipIf (m.keyHeld w)).regs.pc = _
    rw [skipIf_advance, keyHeld_eq_holds]
    simp [following, skips, hf]
  case sknp =>
    show (m.advance.skipIf !m.keyHeld w).regs.pc = _
    rw [skipIf_advance, keyHeld_eq_holds]
    simp [following, skips, hf]
  all_goals
    have hn : m.following w = m.advance.regs.pc := by
      simp [following, skips, hf]
      rfl
    rw [hn]
  case or | and | xor => exact logicFlag_pc _
  case rnd => exact drawRandom_pc _ w
  case ldVxDt => exact readDelay_pc _ w
  case ldMemVx | ldVxMem => exact afterTransfer_pc _ w
  all_goals rfl

/-- A word that is found nowhere has the shape of no instruction. -/
theorem InRange.not_fits {m : Machine} (h : m.InRange) (hl : m.table.lookup m.fetch = none)
    (op : Op) (hs : op ≠ .sys) : ¬op.shape.Fits m.fetch := by
  intro hf
  obtain ⟨i, hi, _⟩ := h.lookup_of_op? ((Standard.op?_eq_iff_fits hs _).mpr hf)
  rw [hl] at hi
  cases hi

theorem InRange.following_unknown {m : Machine} (h : m.InRange)
    (hl : m.table.lookup m.fetch = none) :
    m.following m.fetch = (m.regs.pc + 2) % 0x1000 := by
  have hjp : m.fetch.group ≠ 1 := h.not_fits hl .jp nofun
  have hcall : m.fetch.group ≠ 2 := h.not_fits hl .call nofun
  have hjpV0 : m.fetch.group ≠ 0xB := h.not_fits hl .jpV0 nofun
  have hse : m.fetch.group ≠ 3 := h.not_fits hl .seVxKk nofun
  have hsne : m.fetch.group ≠ 4 := h.not_fits hl .sneVxKk nofun
  have hseV : ¬(m.fetch.group = 5 ∧ m.fetch.n = 0) := h.not_fits hl .seVxVy nofun
  have hsneV : ¬(m.fetch.group = 9 ∧ m.fetch.n = 0) := h.not_fits hl .sneVxVy nofun
  have hskp : ¬(m.fetch.group = 0xE ∧ m.fetch.kk = 0x9E) := h.not_fits hl .skp nofun
  have hsknp : ¬(m.fetch.group = 0xE ∧ m.fetch.kk = 0xA1) := h.not_fits hl .sknp nofun
  have hskips : m.skips m.fetch = false := by
    simp only [skips, Bool.or_eq_false_iff, Bool.and_eq_false_iff, decide_eq_false_iff_not]
    tauto
  simp [following, hjp, hcall, hjpV0, hskips]

theorem InRange.step_counter {m : Machine} (h : m.InRange) (ha : m.awaiting = false)
    (hw : m.fetch ≠ 0x00EE) {drew : Bool} (hr : m.step.result = .ok drew) :
    m.step.machine.regs.pc = m.following m.fetch := by
  have hs := step_steps m
  rw [hr] at hs
  generalize m.step.machine = m' at hs
  cases hs with
  | waiting hwait =>
    rw [ha] at hwait
    cases hwait
  | skipped _ hl => exact (h.following_unknown hl).symm
  | @executed i _ _ hl hx =>
    have ho := h.op?_eq hl
    refine execute_counter m (Standard.fits_of_op? ho) ?_ hx
    intro hret
    exact hw ((Standard.op?_eq_ret_iff _).mp (hret ▸ ho))

theorem InRange.step_of_call {m : Machine} (h : m.InRange) (ha : m.awaiting = false)
    (hw : m.fetch.group = 2) {drew : Bool} (hr : m.step.result = .ok drew) :
    m.step.machine.stack.toList = m.stack.toList ++ [m.returnAddress] := by
  have hdepth : m.stack.depth ≤ 16 := h.depth
  have hroom : m.stack.depth ≠ 16 := by
    intro hd
    rw [h.step_result_of_stops ha (.overflow hw hd)] at hr
    cases hr
  have hcap := h.capacity
  obtain ⟨i, hl, ho⟩ := h.lookup_of_op? ((Standard.op?_eq_call_iff _).mpr hw)
  rw [CallStack.toList, stackStep_of_call ha hl ho (by omega), List.reverse_cons]
  rfl

theorem InRange.step_of_return {m : Machine} (h : m.InRange) (ha : m.awaiting = false)
    (hw : m.fetch = 0x00EE) {drew : Bool} (hr : m.step.result = .ok drew) :
    ∃ a : Word, m.stack.toList = m.step.machine.stack.toList ++ [a] ∧
      m.step.machine.regs.pc = a.val := by
  obtain ⟨i, hl, ho⟩ := h.lookup_of_op? ((Standard.op?_eq_ret_iff _).mpr hw)
  cases he : m.stack.entries with
  | nil =>
    have hd : m.stack.depth = 0 := congrArg List.length he
    rw [h.step_result_of_stops ha (.underflow hw hd)] at hr
    cases hr
  | cons a rest =>
    obtain ⟨_, hrest, hpc⟩ := stackStep_of_ret ha hl ho he
    refine ⟨a, ?_, hpc⟩
    rw [CallStack.toList, CallStack.toList, hrest, he, List.reverse_cons]

/-- A conditional instruction succeeds, and skips or does not. -/
theorem InRange.step_of_conditional {m : Machine} (h : m.InRange) (ha : m.awaiting = false)
    {op : Op} (ho : op.isConditional = true) (hf : op.shape.Fits m.fetch) :
    m.step.result = .ok false ∧
      m.step.machine.regs.pc = (m.regs.pc + if m.skips m.fetch then 4 else 2) % 0x1000 := by
  have hs : op ≠ .sys := by
    rintro rfl
    cases ho
  have hret : op ≠ .ret := by
    rintro rfl
    cases ho
  have hx : (m.advance.execute op m.fetch).result = .ok false := by
    cases op with
    | seVxKk | sneVxKk | seVxVy | sneVxVy | skp | sknp => rfl
    | _ => cases ho
  have hn : m.following m.fetch = (m.regs.pc + if m.skips m.fetch then 4 else 2) % 0x1000 := by
    cases op
    case seVxKk | sneVxKk | seVxVy | sneVxVy | skp | sknp =>
      simp only [Op.shape, Shape.Fits] at hf
      simp [following, hf]
    all_goals cases ho
  obtain ⟨hok, hm⟩ := h.step_of_fits ha op hs hf hx
  refine ⟨hok, ?_⟩
  rw [hm, ← hn]
  exact execute_counter m hf hret hx

/-- **Opposite conditions.** Where a machine skips at one of two opposed words, it does not at
the other. -/
theorem InRange.step_of_opposed {m m' : Machine} (h : m.InRange) (h' : m'.InRange)
    (ha : m.awaiting = false) (hm : m' = { m with memory := m'.memory })
    (hw : m.fetch.Opposed m'.fetch) :
    m.step.result = .ok false ∧ m'.step.result = .ok false ∧
      (m.step.machine.regs.pc = (m.regs.pc + 4) % 0x1000 ∧
          m'.step.machine.regs.pc = (m.regs.pc + 2) % 0x1000 ∨
        m.step.machine.regs.pc = (m.regs.pc + 2) % 0x1000 ∧
          m'.step.machine.regs.pc = (m.regs.pc + 4) % 0x1000) := by
  have ha' : m'.awaiting = false := by rw [hm]; exact ha
  have hpc : m'.regs.pc = m.regs.pc := by rw [hm]
  have hskips : m'.skips m'.fetch = !m.skips m.fetch := by
    rw [← skips_opposed m hw]
    generalize m'.fetch = w'
    rw [hm]
    rfl
  obtain ⟨op, op', ho, ho', hf, hf'⟩ : ∃ op op' : Op,
      op.isConditional = true ∧ op'.isConditional = true ∧
        op.shape.Fits m.fetch ∧ op'.shape.Fits m'.fetch := by
    cases hw with
    | byte hg hg' _ _ => exact ⟨.seVxKk, .sneVxKk, rfl, rfl, hg, hg'⟩
    | registers hg hg' _ _ => exact ⟨.seVxVy, .sneVxVy, rfl, rfl, hg, hg'⟩
    | key hg hg' _ => exact ⟨.skp, .sknp, rfl, rfl, hg, hg'⟩
  obtain ⟨hok, hstep⟩ := h.step_of_conditional ha ho hf
  obtain ⟨hok', hstep'⟩ := h'.step_of_conditional ha' ho' hf'
  refine ⟨hok, hok', ?_⟩
  rw [hstep, hstep', hskips, hpc]
  cases m.skips m.fetch with
  | true => exact Or.inl ⟨rfl, rfl⟩
  | false => exact Or.inr ⟨rfl, rfl⟩

/-- **Control flow.** The word is fetched high byte first, around the end of memory. A step that
succeeds goes where the word and the machine tell; a call puts the address behind it on the
stack, and a return takes the top of the stack off and goes there. A number beyond the keys is
that of a key that is up. Where another memory holds the opposed word, exactly one of the two
machines skips. -/
theorem step_control {m : Machine} (h : m.WellFormed) (ha : m.awaiting = false) :
    m.fetch.val = (m.memory.read m.regs.pc).toNat * 0x100 +
      (m.memory.read ((m.regs.pc + 1) % 0x1000)).toNat ∧
    (∀ drew, m.step.result = .ok drew →
      (m.fetch ≠ 0x00EE → m.step.machine.regs.pc = m.following m.fetch) ∧
      (m.fetch = 0x00EE → ∃ a : Word, m.stack.toList = m.step.machine.stack.toList ++ [a] ∧
        m.step.machine.regs.pc = a.val) ∧
      (m.fetch.group = 2 → ∃ a : Word, m.step.machine.stack.toList = m.stack.toList ++ [a] ∧
        (a.val : Int) = (m.regs.pc + 2) % 0x1000) ∧
      (m.fetch.group = 0xE → 0xF < (m.vx m.fetch).toNat →
        m.step.machine.regs.pc =
          (m.regs.pc + if m.fetch.kk = 0xA1 then 4 else 2) % 0x1000)) ∧
    ∀ memory, ({ m with memory } : Machine).WellFormed →
      m.fetch.Opposed ({ m with memory } : Machine).fetch →
      m.step.result = .ok false ∧ ({ m with memory } : Machine).step.result = .ok false ∧
      (m.step.machine.regs.pc = (m.regs.pc + 4) % 0x1000 ∧
          ({ m with memory } : Machine).step.machine.regs.pc = (m.regs.pc + 2) % 0x1000 ∨
        m.step.machine.regs.pc = (m.regs.pc + 2) % 0x1000 ∧
          ({ m with memory } : Machine).step.machine.regs.pc = (m.regs.pc + 4) % 0x1000) := by
  have hm := (wellFormed_iff m).mp h
  refine ⟨?_, ?_, ?_⟩
  · have hnext : m.memory.read ((m.regs.pc + 1) % 0x1000) = m.memory.read (m.regs.pc + 1) :=
      m.memory.read_congr (by omega)
    rw [hnext]
    rfl
  · intro drew hr
    refine ⟨fun hw => hm.step_counter ha hw hr, fun hw => hm.step_of_return ha hw hr,
      fun hw => ⟨_, hm.step_of_call ha hw hr, m.returnAddress_val⟩, ?_⟩
    intro hw hlarge
    have hne : m.fetch ≠ 0x00EE := by
      intro he
      rw [he] at hw
      cases hw
    rw [hm.step_counter ha hne hr]
    simp [following, skips, hw, holds_of_large hlarge]
  · intro memory h' hw
    exact hm.step_of_opposed ((wellFormed_iff _).mp h') ha rfl hw

/-- The word on the last byte of memory and the first one of the font, where the last byte was
stored. -/
theorem readWord_around_the_end {memory : Memory} (hg : Memory.initial.Guarded memory)
    (value : Int) :
    (memory.store 0xFFF value).readWord 0xFFF = .ofBytes (UInt8.ofInt value) 0xF0 := by
  have hguard : memory.guard = 0x200 := hg.guard
  have hlast : (memory.store 0xFFF value).read 0xFFF = UInt8.ofInt value := by
    rw [Memory.read_store, hguard, if_pos (by decide)]
  have hfirst : (memory.store 0xFFF value).read (0xFFF + 1) = 0xF0 := by
    rw [Memory.read_store, hguard, if_neg (by decide), hg.below _ (by decide),
      Memory.read_initial]
    rfl
  rw [Memory.readWord, hlast, hfirst]

/-- The program counter stands on the last byte, the word ends in the font, and the skip leads
around the end of memory; the opposed word does not skip. -/
theorem step_control_around_the_end :
    ∃ start m m' : Machine,
      create #[0x12, 0x00] .modern true .closed = .ok start ∧
      m = { start with
        regs := { Registers.initial with v := .replicate 16 0xF0, pc := 0xFFF }
        memory := start.memory.store 0xFFF 0x30 } ∧
      m' = { m with memory := start.memory.store 0xFFF 0x40 } ∧
      m.WellFormed ∧ m.awaiting = false ∧ m.fetch = 0x30F0 ∧ m'.fetch = 0x40F0 ∧
      m.step.machine.regs.pc = 3 ∧ m'.step.machine.regs.pc = 1 := by
  obtain ⟨start, base, hc, hbase, hw, hregs, hawake, _, _, hg, _⟩ :=
    create_with #[0x12, 0x00] (by decide) (by decide) .modern true .closed
      (r := { Registers.initial with v := .replicate 16 0xF0, pc := 0xFFF })
      ⟨by decide, by decide, by decide, by decide⟩
  have hs := (wellFormed_iff _).mp hw
  refine ⟨start, { base with memory := base.memory.store 0xFFF 0x30 },
    { base with memory := base.memory.store 0xFFF 0x40 }, hc, by rw [hbase], by rw [hbase], ?_⟩
  generalize hm : ({ base with memory := base.memory.store 0xFFF 0x30 } : Machine) = m
  generalize hm' : ({ base with memory := base.memory.store 0xFFF 0x40 } : Machine) = m'
  have hwell : m.WellFormed := hm ▸ (wellFormed_iff _).mpr (inRange_kept.store _ 0xFFF 0x30 hs)
  have hwell' : m'.WellFormed := hm' ▸ (wellFormed_iff _).mpr (inRange_kept.store _ 0xFFF 0x40 hs)
  have hmregs : m.regs = base.regs := by rw [← hm]
  have hpc : m.regs.pc = 0xFFF := by rw [hmregs, hregs]
  have hfetch : m.fetch = 0x30F0 := by
    rw [← hm, fetch, hregs]
    exact readWord_around_the_end hg 0x30
  have hfetch' : m'.fetch = 0x40F0 := by
    rw [← hm', fetch, hregs]
    exact readWord_around_the_end hg 0x40
  have hvx : m.vx 0x30F0 = 0xF0 := by
    rw [vx, hmregs, hregs]
    exact Vector.getElem_replicate _
  have ha : m.awaiting = false := by rw [← hm]; exact hawake
  obtain ⟨_, hflow, hopposed⟩ := step_control hwell ha
  have hword : m.fetch.Opposed m'.fetch := by
    rw [hfetch, hfetch']
    exact .byte rfl rfl rfl rfl
  have hsame : ({ m with memory := m'.memory } : Machine) = m' := by rw [← hm, ← hm']
  obtain ⟨hok, _, hboth⟩ := hopposed m'.memory (by rwa [hsame]) (by rwa [hsame])
  rw [hsame, hpc] at hboth
  have hskip : m.step.machine.regs.pc = 3 := by
    rw [(hflow _ hok).1 (by rw [hfetch]; decide), hfetch]
    have hs : m.skips 0x30F0 = true := by
      rw [skips, hvx]
      rfl
    rw [following, hs, hpc]
    rfl
  exact ⟨hwell, ha, hfetch, hfetch', hskip, by omega⟩

end Machine

end Chip8
