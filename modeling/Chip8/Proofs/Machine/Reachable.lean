import Chip8.Proofs.Machine.Fault

/-!
The machines that operations lead to. Each is well-formed, whatever its program,
settings and random source, and its next step fails on the call stack only, or
on a word without an instruction if it is strict (`applyAll_wellFormed`).
-/

namespace Chip8

namespace Machine

/-- A machine that was created and then operated. -/
inductive Reachable : Machine → Prop
  | create {program dialect strict entropy m} :
      Machine.create program dialect strict entropy = .ok m → Reachable m
  | apply {m} (op : Operation) : Reachable m → Reachable (m.apply op).machine

theorem size_of_create {program : Array UInt8} {dialect : Dialect} {strict : Bool}
    {entropy : Entropy} {m : Machine} (h : create program dialect strict entropy = .ok m) :
    program.size ≤ programCapacity := by
  unfold create at h
  split at h
  · cases h
  · omega

/-- What a machine that was created looks like. -/
theorem create_ok {program : Array UInt8} {dialect : Dialect} {strict : Bool}
    {entropy : Entropy} {m : Machine} (h : create program dialect strict entropy = .ok m) :
    ∃ memory, Memory.initial.load program programStart = .ok memory ∧
      m = powerOn memory program dialect strict entropy := by
  obtain ⟨memory, hl, hc⟩ := create_eq program (size_of_create h) dialect strict entropy
  rw [hc] at h
  exact ⟨memory, hl, (Except.ok.inj h).symm⟩

theorem Reachable.inRange {m : Machine} (h : Reachable m) : m.InRange := by
  induction h with
  | create hc =>
    obtain ⟨memory, hl, rfl⟩ := create_ok hc
    exact powerOn_inRange (size_of_create hc) hl _ _ _
  | apply op _ ih => exact inRange_kept.apply ih op

theorem Reachable.applyAll {m : Machine} (h : Reachable m) (ops : List Operation) :
    Reachable (m.applyAll ops) := by
  induction ops generalizing m with
  | nil => exact h
  | cons op ops ih => exact ih (h.apply op)

/-- **Reachable machines are well-formed and stop for known reasons.** -/
theorem applyAll_wellFormed (program : Array UInt8) (hp : program.size ≤ programCapacity)
    (dialect : Dialect) (strict : Bool) {entropy : Entropy} (he : entropy.Intact)
    (ops : List Operation) :
    ∃ m, create program dialect strict entropy = .ok m ∧
      (m.applyAll ops).WellFormed ∧
      ∀ f, (m.applyAll ops).step.result = .error f →
        strict = true ∧ (∃ pc word, f = .illegalOpcode pc word) ∨
        (∃ depth capacity, f = .stackOverflow depth capacity) ∨
        f = .stackUnderflow := by
  obtain ⟨memory, _, hc⟩ := create_eq program hp dialect strict entropy
  refine ⟨_, hc, ?_⟩
  have hm := ((Reachable.create hc).applyAll ops).inRange
  have hs := applyAll_settings (powerOn memory program dialect strict entropy) ops
  generalize applyAll _ ops = m at hm hs
  have hstream : m.entropy.stream = entropy.stream := congrArg Settings.stream hs
  have hstrict : m.strict = strict := congrArg Settings.strict hs
  refine ⟨(wellFormed_iff m).mpr hm, ?_⟩
  intro f hf
  have hi : m.entropy.Intact := fun k => hstream ▸ he k
  cases (hm.stops_of_step hi hf).2.1 with
  | illegal h _ => exact Or.inl ⟨hstrict ▸ h, _, _, rfl⟩
  | overflow => exact Or.inr (Or.inl ⟨_, _, rfl⟩)
  | underflow => exact Or.inr (Or.inr rfl)

/-- A program that calls itself, in a strict machine that is also given keys
out of range, negative runs and a reset. -/
theorem applyAll_wellFormed_endless_call :
    (2 ≤ programCapacity ∧
      Entropy.Intact ⟨fun k => if k % 2 = 0 then .value k else .unavailable "late", 0⟩) ∧
    ∃ m, create #[0x22, 0x00] .modern true
        ⟨fun k => if k % 2 = 0 then .value k else .unavailable "late", 0⟩ = .ok m ∧
      (m.applyAll
        [.run 40, .keyDown 99, .run (-3), .tick, .keyUp (-1), .reset, .step]).WellFormed := by
  have he : Entropy.Intact ⟨fun k => if k % 2 = 0 then .value k else .unavailable "late", 0⟩ := by
    intro k reason
    by_cases h : k % 2 = 0 <;> simp [h]
  refine ⟨⟨by decide, he⟩, ?_⟩
  obtain ⟨m, hc, hw, _⟩ := applyAll_wellFormed #[0x22, 0x00] (by decide) .modern true he
    [.run 40, .keyDown 99, .run (-3), .tick, .keyUp (-1), .reset, .step]
  exact ⟨m, hc, hw⟩

end Machine

end Chip8
