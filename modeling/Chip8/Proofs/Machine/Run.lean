import Chip8.Proofs.Machine.Step

/-!
Runs. One that fails does so at one of its steps, behind a run that succeeded
(`run_error`); and if the processor failed, the machine still stands at the
instruction that did (`step_machine_of_isProcessor`).
-/

namespace Chip8

namespace Machine

/-- A fault of the processor changes nothing. -/
theorem step_machine_of_isProcessor {m : Machine} {f : Fault} (h : m.step.result = .error f)
    (hf : f.isProcessor = true) : m.step.machine = m := by
  have hs := step_steps m
  rw [h] at hs
  generalize m.step.machine = m' at hs
  cases hs with
  | illegal | undone => rfl
  | broken _ _ hx hn =>
    -- What is left are an empty source and a timer out of range.
    rcases (execute_error_iff _ _ _ _).mp hx with ⟨_, hp⟩ | ⟨_, hp⟩ | ⟨_, _, _, rfl⟩ | ⟨_, _, rfl⟩
    · rw [((CallStack.push_error_iff _ _ _).mp hp).2] at hn
      cases hn
    · rw [((CallStack.pop_error_iff _ _).mp hp).2] at hn
      cases hn
    · cases hf
    · cases hf

/-- The `k`th step of a run from `m` fails. -/
structure FailsAt (m : Machine) (k : Nat) (f : Fault) : Prop where
  before : ∃ drew, (m.run k).result = .ok drew
  running : (m.run k).machine.awaiting = false
  failing : (m.run k).machine.step.result = .error f

theorem run_succ {m : Machine} (ha : m.awaiting = false) {drew : Bool}
    (hr : m.step.result = .ok drew) (n : Nat) :
    (m.run (n + 1)).machine = (m.step.machine.run n).machine ∧
      (m.run (n + 1)).result = (m.step.machine.run n).result.map (drew || ·) := by
  simp [run, ha, hr]

theorem run_one {m : Machine} (ha : m.awaiting = false) {drew : Bool}
    (hr : m.step.result = .ok drew) :
    (m.run 1).result = .ok drew ∧ (m.run 1).machine = m.step.machine := by
  obtain ⟨hmachine, hresult⟩ := run_succ ha hr 0
  exact ⟨by simpa [run, Except.map] using hresult, hmachine⟩

theorem run_error {m : Machine} {n : Nat} {f : Fault} (h : (m.run n).result = .error f) :
    ∃ k, k < n ∧ m.FailsAt k f ∧ (m.run n).machine = (m.run k).machine.step.machine := by
  induction n generalizing m with
  | zero => cases h
  | succ n ih =>
    cases ha : m.awaiting with
    | true => simp [run, ha] at h
    | false =>
      cases hr : m.step.result with
      | error e =>
        simp only [run, ha, hr, Bool.false_eq_true, ↓reduceIte, Except.error.injEq] at h ⊢
        exact ⟨0, Nat.succ_pos n, ⟨⟨false, rfl⟩, ha, h ▸ hr⟩, rfl⟩
      | ok drew =>
        rw [(run_succ ha hr n).2] at h
        cases hx : (m.step.machine.run n).result with
        | ok b =>
          rw [hx] at h
          cases h
        | error e =>
          rw [hx] at h
          cases h
          obtain ⟨k, hk, ⟨⟨b, hb⟩, hrun, hfail⟩, hlast⟩ := ih hx
          obtain ⟨hmachine, hresult⟩ := run_succ ha hr k
          refine ⟨k + 1, Nat.succ_lt_succ hk, ⟨⟨drew || b, ?_⟩, ?_, ?_⟩, ?_⟩
          · rw [hresult, hb]
            rfl
          · rw [hmachine]
            exact hrun
          · rw [hmachine]
            exact hfail
          · rw [(run_succ ha hr n).1, hmachine]
            exact hlast

end Machine

end Chip8
