import Chip8.Proofs.Machine.Additive
import Chip8.Proofs.Machine.Lockstep

/-!
Strictness. A strict machine and a lenient one do the same up to the first word without an
instruction; there the strict one stops where it stands, and the lenient one passes the word
over (`strict_only_stops`).
-/

namespace Chip8

/-- The steps that an operation takes at most. -/
def Operation.steps : Operation → Nat
  | .step => 1
  | .run n => n.toNat
  | _ => 0

/-- The host asked for something that there is not. -/
def Fault.isHost : Fault → Bool
  | keyIndex _ | imageMisfit .. | negativeClear | size _ => true
  | _ => false

theorem Memory.isHost_of_load {m : Memory} {image : Array UInt8} {start : Int} {f : Fault}
    (h : m.load image start = .error f) : f.isHost = true := by
  unfold load at h
  split at h <;> cases h
  rfl

theorem Memory.isHost_of_clear {m : Memory} {f : Fault} (h : m.clear = .error f) :
    f.isHost = true := by
  unfold clear at h
  split at h
  · cases h
    rfl
  · split at h <;> cases h
    rfl

theorem Keypad.isHost_of_index {i : Int} {f : Fault} (h : index i = .error f) :
    f.isHost = true := by
  unfold index at h
  split at h <;> cases h
  rfl

/-- It stopped at a word without an instruction. -/
def Outcome.Illegal {α : Type} (o : Outcome α) : Prop :=
  ∃ pc word, o.result = .error (.illegalOpcode pc word)

namespace Outcome

theorem error_of_silent {o : Outcome Unit} {f : Fault} (h : o.silent.result = .error f) :
    o.result = .error f := by
  unfold silent at h
  cases hr : o.result <;> simp_all [Except.map]

theorem error_of_answered {o : Outcome Bool} {f : Fault} (h : o.answered.result = .error f) :
    o.result = .error f := by
  unfold answered at h
  cases hr : o.result <;> simp_all [Except.map]

end Outcome

namespace Machine

variable {m : Machine}

def knows (m : Machine) (w : Word) : Bool := (m.table.lookup w).isSome

/-- Behind `k` steps that took words with an instruction, the next word has none. -/
structure Puzzled (m : Machine) (k : Nat) : Prop where
  known : ∀ w, .executed w ∈ m.runMoments k → m.knows w = true
  going : ∃ drew, (m.run k).result = .ok drew
  running : (m.run k).machine.awaiting = false
  unknown : m.knows (m.run k).machine.fetch = false

/-- Behind the operations `before` and `k` steps of `op`, the first word without an
instruction comes up. -/
structure MeetsUnknown (m : Machine) (before : List Operation) (op : Operation) (k : Nat) :
    Prop where
  known : ∀ w, .executed w ∈ m.history before → m.knows w = true
  within : k < op.steps
  puzzled : (m.applyAll before).Puzzled k

theorem lookup_of_not_knows {w : Word} (h : m.knows w = false) : m.table.lookup w = none := by
  simpa [knows] using h

@[simp] theorem strict_applyAll (m : Machine) (ops : List Operation) :
    (m.applyAll ops).strict = m.strict :=
  congrArg Settings.strict (m.applyAll_settings ops)

@[simp] theorem knows_applyAll (m : Machine) (ops : List Operation) :
    (m.applyAll ops).knows = m.knows := by
  have ht : (m.applyAll ops).table = m.table := congrArg Settings.table (m.applyAll_settings ops)
  funext w
  rw [knows, knows, ht]

/-! ## Where a machine stops -/

theorem step_illegal {pc : Int} {w : Word} (h : m.step.result = .error (.illegalOpcode pc w)) :
    m.strict = true := by
  have hs := step_steps m
  rw [h] at hs
  generalize m.step.machine = m' at hs
  cases hs with
  | illegal _ _ hstrict => exact hstrict
  | undone _ _ hx | broken _ _ hx =>
    -- No instruction fails like that.
    rcases (execute_error_iff _ _ _ _).mp hx with ⟨_, hp⟩ | ⟨_, hp⟩ | ⟨_, _, _, hp⟩ | ⟨_, _, hp⟩
    · cases ((CallStack.push_error_iff _ _ _).mp hp).2
    · cases ((CallStack.pop_error_iff _ _).mp hp).2
    · cases hp
    · cases hp

/-- A strict machine stops at a word it does not know. -/
theorem step_of_unknown (ha : m.awaiting = false) (hw : m.knows m.fetch = false)
    (hs : m.strict = true) :
    m.step.result = .error (.illegalOpcode m.regs.pc m.fetch) ∧ m.step.machine = m := by
  simp [step, ha, lookup_of_not_knows hw, skipUnknown, hs]

/-- A lenient one passes the word over. -/
theorem step_of_unknown_lenient (ha : m.awaiting = false) (hw : m.knows m.fetch = false)
    (hs : m.strict = false) :
    m.step.result = .ok false ∧ m.step.machine =
      { m with regs.pc := (m.regs.pc + 2) % 0x1000, count := m.count + 1 } := by
  have hm : m.step.machine = m.advance.counted := by
    simp [step, ha, lookup_of_not_knows hw, skipUnknown, hs]
  exact ⟨by simp [step, ha, lookup_of_not_knows hw, skipUnknown, hs], hm⟩

/-- A run that fails at one of its steps does nothing more. -/
theorem FailsAt.run {k : Nat} {f : Fault} (h : m.FailsAt k f) {n : Nat} (hk : k < n) :
    (m.run n).result = .error f ∧ (m.run n).machine = (m.run k).machine.step.machine := by
  obtain ⟨drew, hbefore⟩ := h.before
  obtain ⟨j, rfl⟩ := Nat.exists_eq_add_of_lt hk
  rw [Nat.add_assoc, run_add, Outcome.followedBy_of_ok hbefore, run_succ_eq h.running,
    Outcome.followedBy_of_error h.failing]
  simp [h.failing, Except.map]

@[simp] theorem setKey_result (m : Machine) (i : Fin 16) (pressed : Bool) :
    (m.setKey i pressed).result = .ok () := by
  simp only [setKey, keyEdge]
  split <;> rfl

theorem isHost_of_key {i : Int} {pressed : Bool} {f : Fault}
    (h : (m.key i pressed).result = .error f) : f.isHost = true := by
  unfold key at h
  split at h
  · rw [setKey_result] at h
    cases h
  · cases h
    exact Keypad.isHost_of_index ‹_›

theorem isHost_of_withMemory {e : Except Fault Memory} {f : Fault}
    (he : ∀ f, e = .error f → f.isHost = true) (h : (m.withMemory e).result = .error f) :
    f.isHost = true := by
  cases e with
  | ok memory => cases h
  | error f' =>
    cases h
    exact he f rfl

theorem isHost_of_reset {f : Fault} (h : m.reset.result = .error f) : f.isHost = true := by
  unfold reset at h
  split at h
  · cases h
    exact Memory.isHost_of_clear ‹_›
  · split at h
    · cases h
      exact Memory.isHost_of_load ‹_›
    · cases h

/-- An operation fails at one of its steps, or because of what the host asked for. -/
theorem apply_error {op : Operation} {f : Fault} (h : (m.apply op).result = .error f) :
    (∃ k < op.steps, m.FailsAt k f) ∨ f.isHost = true := by
  cases op with
  | step =>
    have hr := Outcome.error_of_answered h
    rw [← run_one_eq] at hr
    obtain ⟨k, hk, hf, -⟩ := run_error hr
    exact .inl ⟨k, hk, hf⟩
  | run n =>
    obtain ⟨k, hk, hf, -⟩ := run_error (Outcome.error_of_answered h)
    exact .inl ⟨k, hk, hf⟩
  | tick | store => cases h
  | keyDown i | keyUp i => exact .inr (isHost_of_key (Outcome.error_of_silent h))
  | press name | release name =>
    have hr := Outcome.error_of_answered h
    unfold namedKey at hr
    split at hr
    · simp [Except.map] at hr
    · cases hr
  | load image start =>
    exact .inr (isHost_of_withMemory (fun _ => Memory.isHost_of_load) (Outcome.error_of_silent h))
  | clearProgram =>
    exact .inr (isHost_of_withMemory (fun _ => Memory.isHost_of_clear) (Outcome.error_of_silent h))
  | reset => exact .inr (isHost_of_reset (Outcome.error_of_silent h))

/-- A lenient machine stops at no word. -/
theorem not_illegal_of_lenient (hs : m.strict = false) (op : Operation) :
    ¬(m.apply op).Illegal := by
  rintro ⟨pc, w, hr⟩
  rcases apply_error hr with ⟨k, -, hf⟩ | hf
  · have hk : (m.run k).machine.strict = m.strict := m.strict_applyAll [.run k]
    have hstrict := step_illegal hf.failing
    rw [hk, hs] at hstrict
    cases hstrict
  · cases hf

/-! ## The first unknown word -/

section

variable {drew : Bool} {k : Nat}

theorem runMoments_succ (ha : m.awaiting = false) (hr : m.step.result = .ok drew) (k : Nat) :
    m.runMoments (k + 1) = .executed m.fetch :: m.step.machine.runMoments k := by
  simp [runMoments, stepMoments, ha, hr]

theorem known_of_step (ha : m.awaiting = false) (hw : m.knows m.fetch = true)
    (hr : m.step.result = .ok drew)
    (h : ∀ w, .executed w ∈ m.step.machine.runMoments k → m.step.machine.knows w = true) :
    ∀ w, .executed w ∈ m.runMoments (k + 1) → m.knows w = true := by
  have hknows : m.step.machine.knows = m.knows := m.knows_applyAll [.step]
  intro w hm
  rw [runMoments_succ ha hr] at hm
  rcases List.mem_cons.mp hm with hm | hm
  · cases hm
    exact hw
  · exact hknows ▸ h w hm

/-- The first unknown word is one step further away from the state before. -/
theorem Puzzled.of_step (ha : m.awaiting = false) (hw : m.knows m.fetch = true)
    (hr : m.step.result = .ok drew) (h : m.step.machine.Puzzled k) : m.Puzzled (k + 1) := by
  have hknows : m.step.machine.knows = m.knows := m.knows_applyAll [.step]
  obtain ⟨hmachine, hresult⟩ := run_succ ha hr k
  obtain ⟨drew', hgoing⟩ := h.going
  refine ⟨known_of_step ha hw hr h.known, ⟨drew || drew', ?_⟩, ?_, ?_⟩
  · rw [hresult, hgoing]
    rfl
  · rw [hmachine]
    exact h.running
  · rw [hmachine, ← hknows]
    exact h.unknown

end

/-- A machine takes known words only, or comes to an unknown one. -/
theorem known_or_puzzled (m : Machine) (n : Nat) :
    (∀ w, .executed w ∈ m.runMoments n → m.knows w = true) ∨ ∃ k < n, m.Puzzled k := by
  induction n generalizing m with
  | zero => exact .inl nofun
  | succ n ih =>
    cases ha : m.awaiting with
    | true =>
      have hstep : m.step = done m := step_of_awaiting ha
      have hmoments : m.runMoments (n + 1) = m.runMoments n := by
        simp [runMoments, stepMoments, ha, hstep]
      rw [hmoments]
      rcases ih m with h | ⟨k, hk, h⟩
      · exact .inl h
      · exact .inr ⟨k, Nat.lt_succ_of_lt hk, h⟩
    | false =>
      cases hw : m.knows m.fetch with
      | false => exact .inr ⟨0, n.succ_pos, nofun, ⟨false, rfl⟩, ha, hw⟩
      | true =>
        cases hr : m.step.result with
        | error f =>
          left
          simp [runMoments, stepMoments, ha, hr]
        | ok drew =>
          rcases ih m.step.machine with h | ⟨k, hk, h⟩
          · exact .inl (known_of_step ha hw hr h)
          · exact .inr ⟨k + 1, Nat.succ_lt_succ hk, h.of_step ha hw hr⟩

/-- A word comes up in an operation that takes steps. -/
theorem moments_executed {op : Operation} {w : Word} (h : .executed w ∈ m.moments op) :
    .executed w ∈ m.runMoments op.steps := by
  cases op with
  | step => exact List.mem_append_left _ h
  | run n => exact h
  | keyDown i =>
    rw [moments] at h
    split at h <;> simp at h
  | press name =>
    rw [moments] at h
    split at h <;> simp at h
  | reset => simp [moments] at h
  | _ => cases h

/-! ## Side by side -/

theorem strict_lockstep (t : Table) :
    Lockstep (fun m => m.table = t ∧ m.strict = false)
      (fun m m' => m' = m.change (.toStrict true)) (fun w => (t.lookup w).isSome)
      (fun _ => true) where
  kept := kept_of_settings fun s => s.table = t ∧ s.strict = false
  awaiting := by
    rintro m m' rfl
    rfl
  step := by
    rintro m m' ⟨rfl, hs⟩ rfl hp
    refine .of_change (step_change ?_ fun i _ _ => ?_) rfl
    · intro ha hl
      -- The lenient machine takes the word, so it is a known one.
      have hw : m.knows m.fetch = false := by simp [knows, hl]
      have hr := (step_of_unknown_lenient ha hw hs).1
      have hk := hp m.fetch (by simp [stepMoments, ha, hr])
      simp [hl] at hk
    · exact ⟨fun _ => rfl, fun _ => rfl, fun _ => rfl, fun _ => rfl, i.op.sensitive_self _ _⟩
  tick := by
    rintro - m m' rfl
    rfl
  reset := by
    rintro - m m' rfl
    exact .of_change (m.reset_change rfl) rfl
  input := by
    rintro m m' op ho rfl
    exact .of_change (apply_change rfl ho) rfl

/-- Where a lenient machine is puzzled, a strict one stops. -/
theorem Puzzled.stops (hs : m.strict = false) {k : Nat} (h : m.Puzzled k) :
    (m.change (.toStrict true)).run k = (m.run k).change (.toStrict true) ∧
      ∀ n, k < n →
        ((m.change (.toStrict true)).run n).result =
          .error (.illegalOpcode (m.run k).machine.regs.pc (m.run k).machine.fetch) ∧
        ((m.change (.toStrict true)).run n).machine =
          (m.run k).machine.change (.toStrict true) := by
  have hm := (strict_lockstep m.table).run ⟨rfl, hs⟩ rfl h.known
  have hrun : (m.change (.toStrict true)).run k = (m.run k).change (.toStrict true) := by
    generalize (m.change (.toStrict true)).run k = o at hm
    obtain ⟨machine, result, events⟩ := o
    obtain ⟨rfl, rfl, rfl⟩ := hm
    rfl
  refine ⟨hrun, fun n hk => ?_⟩
  obtain ⟨drew, hdrew⟩ := h.going
  have hknows : (m.run k).machine.knows = m.knows := m.knows_applyAll [.run k]
  have hunknown : (m.run k).machine.knows (m.run k).machine.fetch = false := by
    rw [hknows]
    exact h.unknown
  have hstep := step_of_unknown (m := (m.run k).machine.change (.toStrict true)) h.running
    hunknown rfl
  have hf : (m.change (.toStrict true)).FailsAt k
      (.illegalOpcode (m.run k).machine.regs.pc (m.run k).machine.fetch) := by
    refine ⟨⟨drew, ?_⟩, ?_, ?_⟩
    · rw [hrun]
      exact hdrew
    · rw [hrun]
      exact h.running
    · rw [hrun]
      exact hstep.1
  obtain ⟨hresult, hmachine⟩ := hf.run hk
  refine ⟨hresult, hmachine.trans ?_⟩
  rw [hrun]
  exact hstep.2

theorem Puzzled.apply (hs : m.strict = false) {k : Nat} (h : m.Puzzled k) {op : Operation}
    (hk : k < op.steps) :
    ((m.change (.toStrict true)).apply op).result =
        .error (.illegalOpcode (m.run k).machine.regs.pc (m.run k).machine.fetch) ∧
      ((m.change (.toStrict true)).apply op).machine =
        (m.run k).machine.change (.toStrict true) := by
  obtain ⟨hresult, hmachine⟩ := (h.stops hs).2 op.steps hk
  have answered {o : Outcome Bool} {f : Fault} (h : o.result = .error f) :
      o.answered.result = .error f := by
    rw [Outcome.answered, h]
    rfl
  cases op with
  | step =>
    rw [show Operation.step.steps = 1 from rfl, run_one_eq] at hresult hmachine
    exact ⟨answered hresult, hmachine⟩
  | run n => exact ⟨answered hresult, hmachine⟩
  | _ => cases hk

/-! ## Sequences of operations -/

theorem outcomes_not_illegal (hs : m.strict = false) (ops : List Operation) :
    ∀ o ∈ m.outcomes ops, ¬o.Illegal := by
  induction ops generalizing m with
  | nil => exact List.forall_mem_nil _
  | cons op ops ih =>
    have hstrict : (m.apply op).machine.strict = m.strict := m.strict_applyAll [op]
    exact List.forall_mem_cons.mpr ⟨not_illegal_of_lenient hs op, ih (hstrict.trans hs)⟩

/-- As long as the lenient machine takes known words only, the strict one does the same. -/
theorem outcomes_of_known (hs : m.strict = false) {ops : List Operation}
    (h : ∀ w, .executed w ∈ m.history ops → m.knows w = true) :
    (m.change (.toStrict true)).outcomes ops =
        (m.outcomes ops).map (·.change (.toStrict true)) ∧
      ∀ o ∈ (m.change (.toStrict true)).outcomes ops, ¬o.Illegal := by
  have heq := Outcome.Matches.eq_map_change <|
    (strict_lockstep m.table).outcomes ⟨rfl, hs⟩ rfl (fun _ _ => rfl) h
  refine ⟨heq, fun o ho => ?_⟩
  rw [heq] at ho
  obtain ⟨o', ho', rfl⟩ := List.mem_map.mp ho
  exact outcomes_not_illegal hs ops o' ho'

/-- A strict machine that does not stop took known words only, and so did the lenient one. -/
theorem known_of_not_illegal (hs : m.strict = false) {ops : List Operation}
    (h : ∀ o ∈ (m.change (.toStrict true)).outcomes ops, ¬o.Illegal) :
    ∀ w, .executed w ∈ m.history ops → m.knows w = true := by
  induction ops generalizing m with
  | nil => exact nofun
  | cons op ops ih =>
    obtain ⟨hop, hops⟩ := List.forall_mem_cons.mp h
    have hknown : ∀ w, .executed w ∈ m.moments op → m.knows w = true := by
      rcases m.known_or_puzzled op.steps with hknown | ⟨k, hk, hpuzzled⟩
      · exact fun w hw => hknown w (moments_executed hw)
      · exact absurd ⟨_, _, (hpuzzled.apply hs hk).1⟩ hop
    have hmachine := ((strict_lockstep m.table).apply ⟨rfl, hs⟩ rfl rfl hknown).machine
    rw [hmachine] at hops
    have hstrict : (m.apply op).machine.strict = m.strict := m.strict_applyAll [op]
    have hknows : (m.apply op).machine.knows = m.knows := m.knows_applyAll [op]
    have hrest := ih (hstrict.trans hs) hops
    rw [hknows] at hrest
    exact fun w hw => (List.mem_append.mp hw).elim (hknown w) (hrest w)

theorem applyAll_of_known (hs : m.strict = false) {ops : List Operation}
    (h : ∀ w, .executed w ∈ m.history ops → m.knows w = true) :
    (m.change (.toStrict true)).applyAll ops = (m.applyAll ops).change (.toStrict true) :=
  (strict_lockstep m.table).applyAll ⟨rfl, hs⟩ rfl (fun _ _ => rfl) h

/-- Where a strict machine stops for the first time, the lenient one comes to a word without an
instruction. -/
theorem exists_meetsUnknown (hs : m.strict = false) {before : List Operation} {op : Operation}
    (hbefore : ∀ o ∈ (m.change (.toStrict true)).outcomes before, ¬o.Illegal)
    (hop : (((m.change (.toStrict true)).applyAll before).apply op).Illegal) :
    ∃ k, m.MeetsUnknown before op k := by
  have hknown := known_of_not_illegal hs hbefore
  have hs' : (m.applyAll before).strict = false := (m.strict_applyAll before).trans hs
  rw [applyAll_of_known hs hknown] at hop
  rcases (m.applyAll before).known_or_puzzled op.steps with h | ⟨k, hk, h⟩
  · -- Then the strict machine does what the lenient one does, which stops at no word.
    have hm := (strict_lockstep _).apply ⟨rfl, hs'⟩ rfl rfl fun w hw => h w (moments_executed hw)
    obtain ⟨pc, w, hr⟩ := hop
    exact absurd ⟨pc, w, hm.result.symm.trans hr⟩ (not_illegal_of_lenient hs' op)
  · exact ⟨k, hknown, hk, h⟩

/-- **Strictness only adds a stop.** A machine that is strict and the same machine that is
lenient leave, answer and report the same until the strict one stops. That is where the
lenient one comes to the first word without an instruction: there both are equal, the strict
one stops with their program counter and that word and changes nothing, and the lenient one
moves its program counter and counts. -/
theorem strict_only_stops {m : Machine} (ht : m.table.Grouped) :
    let lenient := { m with strict := false }
    let strict := { m with strict := true }
    (∀ ops, (∀ o ∈ strict.outcomes ops, ¬o.Illegal) →
      strict.outcomes ops = (lenient.outcomes ops).map fun o =>
        { o with machine := { o.machine with strict := true } }) ∧
    (∀ before op, (∀ o ∈ strict.outcomes before, ¬o.Illegal) →
      ((strict.applyAll before).apply op).Illegal → ∃ k, lenient.MeetsUnknown before op k) ∧
    ∀ before op k, lenient.MeetsUnknown before op k →
      let common := (lenient.applyAll before).run k
      let c := common.machine
      (∀ o ∈ strict.outcomes before, ¬o.Illegal) ∧
      (strict.applyAll before).run k = { common with machine := { c with strict := true } } ∧
      (∀ i ∈ c.table.entries, i.matchesWord c.fetch = false) ∧
      ((strict.applyAll before).apply op).result = .error (.illegalOpcode c.regs.pc c.fetch) ∧
      ((strict.applyAll before).apply op).machine = { c with strict := true } ∧
      c.step.result = .ok false ∧
      c.step.machine = { c with regs.pc := (c.regs.pc + 2) % 0x1000, count := c.count + 1 } := by
  intro lenient strict
  have hs : lenient.strict = false := rfl
  refine ⟨fun ops hops => (outcomes_of_known hs (known_of_not_illegal hs hops)).1,
    fun before op => exists_meetsUnknown hs, ?_⟩
  intro before op k h common c
  have hs' : (lenient.applyAll before).strict = false := lenient.strict_applyAll before
  have hsc : c.strict = false := ((lenient.applyAll before).strict_applyAll [.run k]).trans hs'
  have htc : c.table = m.table :=
    congrArg Settings.table (((lenient.applyAll before).applyAll_settings [.run k]).trans
      (lenient.applyAll_settings before))
  have hunknown : c.knows c.fetch = false := by
    have hknows : c.knows = (lenient.applyAll before).knows :=
      (lenient.applyAll before).knows_applyAll [.run k]
    rw [hknows]
    exact h.puzzled.unknown
  have hbehind : strict.applyAll before = (lenient.applyAll before).change (.toStrict true) :=
    applyAll_of_known hs h.known
  obtain ⟨hresult, hmachine⟩ := h.puzzled.apply hs' h.within
  rw [hbehind]
  refine ⟨(outcomes_of_known hs h.known).2, (h.puzzled.stops hs').1, ?_, hresult, hmachine,
    step_of_unknown_lenient h.puzzled.running hunknown hsc⟩
  have hl := lookup_of_not_knows hunknown
  rw [htc] at hl ⊢
  rw [Table.lookup_eq_find? ht, List.find?_eq_none] at hl
  simpa using hl

/-- A load of a register, then a word without an instruction. -/
theorem strict_only_stops_behind_load :
    ∃ m, create #[0x60, 0x05, 0xFF, 0xFF] .modern false .closed = .ok m ∧
      m.table.Grouped ∧ { m with strict := false }.MeetsUnknown [.tick] (.run 3) 1 ∧
      (({ m with strict := true }.applyAll [.tick]).apply (.run 3)).result =
        .error (.illegalOpcode 0x202 0xFFFF) := by
  have hsize : (#[0x60, 0x05, 0xFF, 0xFF] : Array UInt8).size ≤ programCapacity := by decide
  obtain ⟨memory, hl, hc⟩ := create_eq #[0x60, 0x05, 0xFF, 0xFF] hsize .modern false
    .closed
  have hr := powerOn_inRange hsize hl .modern false .closed
  generalize hm : powerOn memory _ .modern false .closed = m at hc hr
  have hlenient : { m with strict := false } = m := by rw [← hm]; rfl
  have hawaiting : m.awaiting = false := by rw [← hm]; rfl
  have hload : m.fetch = 0x6005 := by
    rw [← hm]
    exact readWord_of_load hl (k := 0) (by decide) hsize
  obtain ⟨hresult, hloaded⟩ := hr.step_of_fits hawaiting .ldVxKk (by decide)
    (by rw [hload]; rfl) rfl
  have hpc : m.step.machine.regs.pc = 0x202 := by
    rw [hloaded, hload, ← hm]
    rfl
  have hunknown : m.step.machine.fetch = 0xFFFF := by
    rw [hloaded, hload, ← hm]
    exact readWord_of_load hl (k := 2) (by decide) hsize
  have hgrouped : m.table.Grouped := by
    rw [hr.table]
    exact Standard.table_grouped
  have htick : m.applyAll [.tick] = m := by rw [← hm]; rfl
  have hrun : m.run 1 = m.step := m.run_one_eq
  have hmeets : m.MeetsUnknown [.tick] (.run 3) 1 := by
    refine ⟨by simp [history, moments], by decide, ?_⟩
    rw [htick]
    refine ⟨?_, ⟨false, hrun ▸ hresult⟩, ?_, ?_⟩
    · intro w hw
      have hw : w = 0x6005 := by
        simpa [runMoments, stepMoments, hawaiting, hresult, hload] using hw
      rw [hw, knows, hr.table]
      decide
    · rw [hrun, hloaded, hload, ← hm]
      rfl
    · rw [hrun, hunknown, knows, hr.table]
      decide
  rw [← hlenient] at hmeets
  have hstop := ((strict_only_stops hgrouped).2.2 [.tick] (.run 3) 1 hmeets).2.2.2.1
  refine ⟨m, hc, hgrouped, hmeets, hstop.trans ?_⟩
  rw [hlenient, htick, hrun, hpc, hunknown]

end Machine

end Chip8
