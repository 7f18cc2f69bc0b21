import Chip8.Proofs.Instruction.Shape
import Chip8.Proofs.Machine.WellFormed

/-!
When a step fails. A well-formed machine stops for three reasons only, each
read off the word under the program counter and the depth of the call stack,
and a step that fails changes nothing at all (`step_faults`).
-/

namespace Chip8

/-- Every draw gives a number or finds the source unavailable. -/
def Entropy.Intact (e : Entropy) : Prop := ∀ k reason, e.stream k ≠ .broken reason

theorem Entropy.closed_intact : closed.Intact := fun _ _ => nofun

namespace Machine

/-- Why a machine stops at the word under its program counter. -/
inductive Stops (m : Machine) : Fault → Prop
  | illegal : m.strict = true → (∀ i ∈ Standard.instructions, i.matchesWord m.fetch = false) →
      Stops m (.illegalOpcode m.regs.pc m.fetch)
  | overflow : m.fetch.group = 2 → m.stack.depth = 16 → Stops m (.stackOverflow 16 16)
  | underflow : m.fetch = 0x00EE → m.stack.depth = 0 → Stops m .stackUnderflow

theorem Executes.count_eq {m m' : Machine} {w : Word} {op : Op} (h : Executes m w op m') :
    m'.count = m.count := by
  cases h with
  | registers h | screen _ _ h | random h | store _ _ h => rw [h.same]
  | call | ret | await => rfl

theorem InRange.lookup_op {m : Machine} (h : m.InRange) :
    (m.table.lookup m.fetch).map Instruction.op = Standard.op? m.fetch := by
  rw [h.table]
  rfl

theorem InRange.op?_eq {m : Machine} (h : m.InRange) {i : Instruction}
    (hl : m.table.lookup m.fetch = some i) : Standard.op? m.fetch = some i.op := by
  rw [← h.lookup_op, hl]
  rfl

theorem InRange.lookup_of_op? {m : Machine} (h : m.InRange) {op : Op}
    (ho : Standard.op? m.fetch = some op) : ∃ i, m.table.lookup m.fetch = some i ∧ i.op = op :=
  Option.map_eq_some_iff.mp (h.lookup_op.trans ho)

/-- A step whose instruction succeeds. -/
theorem InRange.step_of_execute {m : Machine} (h : m.InRange) (ha : m.awaiting = false) (op : Op)
    (ho : Standard.op? m.fetch = some op) {drew : Bool}
    (hx : (m.advance.execute op m.fetch).result = .ok drew) :
    m.step.result = .ok drew ∧
      m.step.machine = (m.advance.execute op m.fetch).machine.counted := by
  obtain ⟨i, hl, rfl⟩ := h.lookup_of_op? ho
  simp [Machine.step, ha, hl, perform, hx]

theorem InRange.step_of_fits {m : Machine} (h : m.InRange) (ha : m.awaiting = false) (op : Op)
    (hs : op ≠ .sys) (hf : op.shape.Fits m.fetch) {drew : Bool}
    (hx : (m.advance.execute op m.fetch).result = .ok drew) :
    m.step.result = .ok drew ∧
      m.step.machine = (m.advance.execute op m.fetch).machine.counted :=
  h.step_of_execute ha op ((Standard.op?_eq_iff_fits hs _).mpr hf) hx

theorem InRange.lookup_eq_none_iff {m : Machine} (h : m.InRange) :
    m.table.lookup m.fetch = none ↔
      ∀ i ∈ Standard.instructions, i.matchesWord m.fetch = false := by
  rw [h.table]
  exact Standard.lookup_eq_none_iff m.fetch

/-- In a well-formed machine only the call stack can fail an instruction. -/
theorem InRange.stops_of_execute {m : Machine} (h : m.InRange) (he : m.entropy.Intact)
    {i : Instruction} (hl : m.table.lookup m.fetch = some i) {f : Fault}
    (hr : (m.advance.execute i.op m.fetch).result = .error f) : m.Stops f ∧ f.isStack = true := by
  have ho := h.op?_eq hl
  have hcap := h.capacity
  have hdepth : m.stack.depth ≤ 16 := h.depth
  have hdelay := h.regs.delay
  rcases (execute_error_iff _ _ _ _).mp hr with ⟨e, hp⟩ | ⟨e, hp⟩ | ⟨_, _, hb, _⟩ | ⟨_, hd, _⟩
  · rw [e] at ho
    obtain ⟨hc, rfl⟩ := (CallStack.push_error_iff _ _ _).mp hp
    replace hc : m.stack.capacity ≤ m.stack.depth := hc
    have hd : m.stack.depth = 16 := by omega
    refine ⟨?_, rfl⟩
    show m.Stops (.stackOverflow m.stack.depth m.stack.capacity)
    rw [hd, hcap]
    exact .overflow ((Standard.op?_eq_call_iff _).mp ho) hd
  · rw [e] at ho
    obtain ⟨hn, rfl⟩ := (CallStack.pop_error_iff _ _).mp hp
    refine ⟨.underflow ((Standard.op?_eq_ret_iff _).mp ho) ?_, rfl⟩
    exact List.length_eq_zero_iff.mpr hn
  · exact absurd hb (he _ _)
  · refine absurd ?_ hd
    show 0 ≤ m.regs.dt ∧ m.regs.dt < 0x100
    omega

theorem InRange.stops_of_step {m : Machine} (h : m.InRange) (he : m.entropy.Intact) {f : Fault}
    (hr : m.step.result = .error f) : m.awaiting = false ∧ m.Stops f ∧ m.step.machine = m := by
  have hs := step_steps m
  rw [hr] at hs
  generalize m.step.machine = m' at hs
  cases hs with
  | illegal ha hl hstrict => exact ⟨ha, .illegal hstrict (h.lookup_eq_none_iff.mp hl), rfl⟩
  | undone ha hl hx _ => exact ⟨ha, (h.stops_of_execute he hl hx).1, rfl⟩
  | broken ha hl hx hf =>
    rw [(h.stops_of_execute he hl hx).2] at hf
    cases hf

theorem step_error_of_execute {m : Machine} (ha : m.awaiting = false) {i : Instruction}
    (hl : m.table.lookup m.fetch = some i) {f : Fault}
    (hr : (m.advance.execute i.op m.fetch).result = .error f) : m.step.result = .error f := by
  simp [step, ha, hl, perform, hr]

theorem InRange.step_result_of_stops {m : Machine} (h : m.InRange) (ha : m.awaiting = false)
    {f : Fault} (hf : m.Stops f) : m.step.result = .error f := by
  cases hf with
  | illegal hs hn => simp [Machine.step, ha, h.lookup_eq_none_iff.mpr hn, skipUnknown, hs]
  | overflow hw hd =>
    obtain ⟨i, hl, ho⟩ := h.lookup_of_op? ((Standard.op?_eq_call_iff _).mpr hw)
    apply step_error_of_execute ha hl
    refine (execute_error_iff _ _ _ _).mpr (Or.inl ⟨ho, ?_⟩)
    rw [CallStack.push_error_iff]
    show m.stack.capacity ≤ m.stack.depth ∧ _ = Fault.stackOverflow m.stack.depth m.stack.capacity
    rw [hd, h.capacity]
    exact ⟨Nat.le_refl _, rfl⟩
  | underflow hw hd =>
    obtain ⟨i, hl, ho⟩ := h.lookup_of_op? ((Standard.op?_eq_ret_iff _).mpr hw)
    apply step_error_of_execute ha hl
    refine (execute_error_iff _ _ _ _).mpr (Or.inr (Or.inl ⟨ho, ?_⟩))
    exact (CallStack.pop_error_iff _ _).mpr ⟨List.length_eq_zero_iff.mp hd, rfl⟩

theorem count_of_step {m : Machine} {drew : Bool} (hr : m.step.result = .ok drew) :
    m.step.machine.count = m.count + if m.awaiting then 0 else 1 := by
  have hs := step_steps m
  rw [hr] at hs
  generalize m.step.machine = m' at hs
  cases hs with
  | waiting ha => simp [ha]
  | skipped ha => simp [ha]
  | executed ha => simp [ha, (execute_executes _ _ _).count_eq]

/-- **Faults are exact and atomic.** A step fails for the three reasons and for
no other, it then leaves the whole machine as it was, and else it counts one
instruction unless a key is awaited. -/
theorem step_faults {m : Machine} (h : m.WellFormed) (he : m.entropy.Intact) :
    (∀ f, m.step.result = .error f ↔ m.awaiting = false ∧ m.Stops f) ∧
    (∀ f, m.step.result = .error f → m.step.machine = m) ∧
    (∀ drew, m.step.result = .ok drew →
      m.step.machine.count = m.count + if m.awaiting then 0 else 1) := by
  have hm := (wellFormed_iff m).mp h
  refine ⟨?_, ?_, fun _ => count_of_step⟩
  · intro f
    constructor
    · intro hr
      obtain ⟨ha, hs, _⟩ := hm.stops_of_step he hr
      exact ⟨ha, hs⟩
    · rintro ⟨ha, hs⟩
      exact hm.step_result_of_stops ha hs
  · intro f hr
    exact (hm.stops_of_step he hr).2.2

/-- A program that begins with a return. -/
theorem step_faults_lone_return :
    ∃ m, create #[0x00, 0xEE] .modern true .closed = .ok m ∧
      m.WellFormed ∧ m.entropy.Intact ∧
      m.step.result = .error .stackUnderflow ∧ m.step.machine = m := by
  obtain ⟨m, hc, hm, he, ha, _, hst, hf⟩ := create_start #[0x00, 0xEE] (by decide) (by decide)
    .modern true .closed
  have hw := (wellFormed_iff m).mpr hm
  have hi : m.entropy.Intact := he ▸ Entropy.closed_intact
  have hs := step_faults hw hi
  have hd : m.stack.depth = 0 := by rw [hst]; rfl
  have hr := (hs.1 .stackUnderflow).mpr ⟨ha, .underflow hf hd⟩
  exact ⟨m, hc, hw, hi, hr, hs.2.1 _ hr⟩

end Machine

end Chip8
