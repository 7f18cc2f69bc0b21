import Chip8.Proofs.Machine.Fault
import Chip8.Proofs.Machine.Run

/-!
The steps of a run, one by one. Each is a step of the machine it started from
(`of_mem_executed`). A run says whether one of them drew (`run_drew`), and one that drew nothing
leaves the screen as it was, unless one of its steps cleared it (`run_screen`).
-/

namespace Chip8

namespace Machine

/-- A step that executed an instruction: the machine before and behind it, and whether the
step drew. -/
structure Executed where
  before : Machine
  after : Machine
  drew : Bool

/-- The steps of a run in order, up to one that fails. -/
def executed (m : Machine) : Nat → List Executed
  | 0 => []
  | n + 1 =>
    if m.awaiting then []
    else match m.step.result with
      | .error _ => []
      | .ok drew => ⟨m, m.step.machine, drew⟩ :: m.step.machine.executed n

theorem executed_succ {m : Machine} (ha : m.awaiting = false) {drew : Bool}
    (hr : m.step.result = .ok drew) (n : Nat) :
    m.executed (n + 1) = ⟨m, m.step.machine, drew⟩ :: m.step.machine.executed n := by
  simp [executed, ha, hr]

/-- What a step from `s.before` says and leaves is what `s` tells. -/
structure Executed.Genuine (s : Executed) : Prop where
  running : s.before.awaiting = false
  result : s.before.step.result = .ok s.drew
  after : s.after = s.before.step.machine

theorem of_mem_executed {P : Machine → Prop} (hstep : ∀ m, P m → P m.step.machine)
    {m : Machine} (h : P m) {n : Nat} {s : Executed} (hs : s ∈ m.executed n) :
    s.Genuine ∧ P s.before := by
  induction n generalizing m with
  | zero => cases hs
  | succ n ih =>
    unfold executed at hs
    cases ha : m.awaiting with
    | true => simp [ha] at hs
    | false =>
      cases hr : m.step.result with
      | error e => simp [ha, hr] at hs
      | ok drew =>
        simp only [ha, hr, Bool.false_eq_true, ↓reduceIte] at hs
        rcases List.mem_cons.mp hs with rfl | hs
        · exact ⟨⟨ha, hr, rfl⟩, h⟩
        · exact ih (hstep m h) hs

/-- The step took the word under its program counter, also where it then wrote over it. -/
theorem Executed.Genuine.fetched {s : Executed} (h : s.Genuine) :
    s.before.step.events.head? = some (.fetched s.before.regs.pc s.before.fetch
      (s.before.table.lookup s.before.fetch)) := by
  simp [step, h.running]

/-- A run says whether one of its steps drew. -/
theorem run_drew {m : Machine} {n : Nat} {drew : Bool} (hr : (m.run n).result = .ok drew) :
    drew = (m.executed n).any (·.drew) := by
  induction n generalizing m drew with
  | zero =>
    cases hr
    rfl
  | succ n ih =>
    cases ha : m.awaiting with
    | true =>
      simp only [run, ha, ↓reduceIte, done_result] at hr
      cases hr
      simp [executed, ha]
    | false =>
      cases hstep : m.step.result with
      | error e => simp [run, ha, hstep] at hr
      | ok d =>
        rw [(run_succ ha hstep n).2] at hr
        cases hx : (m.step.machine.run n).result with
        | error e =>
          rw [hx] at hr
          cases hr
        | ok b =>
          rw [hx] at hr
          cases hr
          rw [executed_succ ha hstep, List.any_cons, ← ih hx]

/-! ## The screen -/

/-- A word that clears the screen. -/
def clearWord : Word := 0x00E0

/-- An instruction that does not draw leaves the screen alone or clears it. -/
theorem execute_screen {m : Machine} {op : Op} {w : Word}
    (hr : (m.execute op w).result = .ok false) :
    (m.execute op w).machine.screen = m.screen ∨
      op = .cls ∧ (m.execute op w).machine.screen = .blank := by
  have hx := execute_executes m op w
  generalize hm : (m.execute op w).machine = m' at hx
  cases hx with
  | registers h | random h | store _ _ h => exact .inl (by rw [h.same])
  | call | ret | await => exact .inl rfl
  | screen s ho h =>
    rcases ho with rfl | rfl
    · exact .inr ⟨rfl, hm ▸ rfl⟩
    · cases hr

theorem InRange.step_screen {m : Machine} (h : m.InRange) (hr : m.step.result = .ok false) :
    m.step.machine.screen = m.screen ∨
      m.awaiting = false ∧ m.fetch = clearWord ∧ m.step.machine.screen = .blank := by
  have hs := step_steps m
  rw [hr] at hs
  generalize m.step.machine = m' at hs
  cases hs with
  | waiting | skipped => exact .inl rfl
  | executed ha hl hx =>
    rcases execute_screen hx with hsame | ⟨hcls, hblank⟩
    · exact .inl hsame
    · have ho := h.op?_eq hl
      rw [hcls] at ho
      exact .inr ⟨ha, (Standard.op?_eq_iff_fits (by decide) _).mp ho, hblank⟩

/-- **A run that drew nothing leaves the screen as it was, or blank if it cleared it.** -/
theorem InRange.run_screen {m : Machine} (h : m.InRange) {n : Nat}
    (hr : (m.run n).result = .ok false) :
    (m.run n).machine.screen = m.screen ∨
      (∃ s ∈ m.executed n, s.before.fetch = clearWord) ∧ (m.run n).machine.screen = .blank := by
  induction n generalizing m with
  | zero => exact .inl rfl
  | succ n ih =>
    cases ha : m.awaiting with
    | true => exact .inl (by simp [run, ha])
    | false =>
      cases hstep : m.step.result with
      | error e => simp [run, ha, hstep] at hr
      | ok drew =>
        obtain ⟨hmachine, hresult⟩ := run_succ ha hstep n
        rw [hresult] at hr
        cases hx : (m.step.machine.run n).result with
        | error e =>
          rw [hx] at hr
          cases hr
        | ok b =>
          rw [hx] at hr
          obtain ⟨rfl, rfl⟩ : drew = false ∧ b = false := by
            simpa using (Except.ok.inj hr : (drew || b) = false)
          rw [hmachine, executed_succ ha hstep]
          rcases ih h.step hx with hrest | ⟨⟨s, hs, hw⟩, hblank⟩
          · rw [hrest]
            rcases h.step_screen hstep with hsame | ⟨-, hw, hblank⟩
            · exact .inl hsame
            · exact .inr ⟨⟨_, List.mem_cons_self, hw⟩, hblank⟩
          · exact .inr ⟨⟨s, List.mem_cons_of_mem _ hs, hw⟩, hblank⟩

end Machine

end Chip8
