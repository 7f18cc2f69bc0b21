import Mathlib.Algebra.Ring.Nat
import Chip8.Proofs.Machine.History
import Chip8.Proofs.Machine.KeyWait

/-!
Runs in pieces. A run of `a + b` instructions is a run of `a` and, unless that failed,
one of `b` behind it (`run_add`); so it makes no difference how a number of
instructions is cut into frames (`runEach_eq`). A run says whether one of its steps was
a `Dxyn` (`InRange.run_drew_iff`), and has fewer steps than it was asked for only where a
key is awaited (`awaiting_of_length_lt`).
-/

namespace Chip8

namespace Outcome

/-- What is done next comes behind `o`, unless `o` failed; the answer is whether either of
the two drew. -/
def followedBy (o : Outcome Bool) (next : Machine → Outcome Bool) : Outcome Bool :=
  match o.result with
  | .error _ => o
  | .ok drew =>
    let rest := next o.machine
    ⟨rest.machine, rest.result.map (drew || ·), o.events ++ rest.events⟩

variable {o : Outcome Bool}

theorem followedBy_of_error {f : Fault} (h : o.result = .error f)
    (next : Machine → Outcome Bool) : o.followedBy next = o := by
  simp only [followedBy, h]

theorem followedBy_of_ok {drew : Bool} (h : o.result = .ok drew)
    (next : Machine → Outcome Bool) :
    o.followedBy next =
      ⟨(next o.machine).machine, (next o.machine).result.map (drew || ·),
        o.events ++ (next o.machine).events⟩ := by
  simp only [followedBy, h]

theorem followedBy_assoc (o : Outcome Bool) (next next' : Machine → Outcome Bool) :
    (o.followedBy next).followedBy next' =
      o.followedBy fun m => (next m).followedBy next' := by
  cases h : o.result with
  | error f => rw [followedBy_of_error h, followedBy_of_error h, followedBy_of_error h]
  | ok drew =>
    rw [followedBy_of_ok h, followedBy_of_ok h]
    cases hn : (next o.machine).result with
    | error f =>
      rw [followedBy_of_error hn, hn]
      rfl
    | ok drew' =>
      rw [followedBy_of_ok hn]
      cases hn' : (next' (next o.machine).machine).result <;>
        simp [followedBy, Except.map, hn', Bool.or_assoc, List.append_assoc]

end Outcome

namespace Machine

@[simp] theorem done_followedBy (m : Machine) (next : Machine → Outcome Bool) :
    (done m).followedBy next = next m := by
  have hr : (next m).result.map (false || ·) = (next m).result := by
    cases (next m).result <;> rfl
  have hd : (done m).result = .ok false := rfl
  rw [Outcome.followedBy_of_ok hd]
  simp only [done, hr, List.nil_append]

/-! ## Runs -/

theorem run_succ_eq {m : Machine} (ha : m.awaiting = false) (n : Nat) :
    m.run (n + 1) = m.step.followedBy (·.run n) := by
  cases hr : m.step.result with
  | error f =>
    rw [Outcome.followedBy_of_error hr]
    simp only [run, ha, hr, Bool.false_eq_true, ↓reduceIte]
    rw [← hr]
  | ok drew =>
    rw [Outcome.followedBy_of_ok hr]
    simp [run, ha, hr]

theorem run_one_eq (m : Machine) : m.run 1 = m.step := by
  cases ha : m.awaiting with
  | true => rw [run_of_awaiting ha, step_of_awaiting ha]
  | false =>
    rw [run_succ_eq ha]
    cases hr : m.step.result with
    | error f => exact Outcome.followedBy_of_error hr _
    | ok drew =>
      rw [Outcome.followedBy_of_ok hr]
      simp [run, done, Except.map, ← hr]

/-- **A run goes on where a shorter one stopped.** -/
theorem run_add (m : Machine) (a b : Nat) : m.run (a + b) = (m.run a).followedBy (·.run b) := by
  induction a generalizing m with
  | zero =>
    rw [Nat.zero_add]
    exact (done_followedBy m (·.run b)).symm
  | succ a ih =>
    cases ha : m.awaiting with
    | true =>
      rw [run_of_awaiting ha, run_of_awaiting ha, done_followedBy, run_of_awaiting ha]
    | false =>
      rw [Nat.add_right_comm, run_succ_eq ha, run_succ_eq ha, Outcome.followedBy_assoc]
      congr 1
      funext next
      exact ih next

/-- Runs one behind the other, up to one that fails. -/
def runEach (m : Machine) : List Nat → Outcome Bool
  | [] => done m
  | n :: frames => (m.run n).followedBy fun next => next.runEach frames

/-- **Frames add up to one run.** -/
theorem runEach_eq (m : Machine) (frames : List Nat) : m.runEach frames = m.run frames.sum := by
  induction frames generalizing m with
  | nil => rfl
  | cons n frames ih =>
    rw [List.sum_cons, run_add, runEach]
    congr 1
    funext next
    exact ih next

/-! ## The steps of a run -/

theorem count_of_step_error {m : Machine} {f : Fault} (hr : m.step.result = .error f) :
    m.step.machine.count = m.count := by
  have hs := step_steps m
  rw [hr] at hs
  generalize m.step.machine = m' at hs
  cases hs with
  | illegal | undone => rfl
  | broken => exact (execute_executes ..).count_eq

/-- Each step of a run counts one instruction; the one that fails counts none. -/
theorem count_run (m : Machine) (n : Nat) :
    (m.run n).machine.count = m.count + (m.executed n).length := by
  induction n generalizing m with
  | zero => rfl
  | succ n ih =>
    cases ha : m.awaiting with
    | true => simp [run_of_awaiting ha, executed, ha]
    | false =>
      cases hr : m.step.result with
      | error f =>
        have hc := count_of_step_error hr
        simp [run, executed, ha, hr, hc]
      | ok drew =>
        have hc := count_of_step hr
        rw [(run_succ ha hr n).1, executed_succ ha hr, ih, hc, List.length_cons]
        simp only [ha, Bool.false_eq_true, ↓reduceIte]
        omega

/-- A run stops early only to wait for a key. -/
theorem awaiting_of_length_lt {m : Machine} {n : Nat} {drew : Bool}
    (hr : (m.run n).result = .ok drew) (hn : (m.executed n).length < n) :
    (m.run n).machine.awaiting = true := by
  induction n generalizing m drew with
  | zero => cases hn
  | succ n ih =>
    cases ha : m.awaiting with
    | true =>
      rw [run_of_awaiting ha]
      exact ha
    | false =>
      cases hstep : m.step.result with
      | error f => simp [run, ha, hstep] at hr
      | ok d =>
        obtain ⟨hmachine, hresult⟩ := run_succ ha hstep n
        rw [hresult] at hr
        rw [hmachine]
        rw [executed_succ ha hstep, List.length_cons] at hn
        cases hx : (m.step.machine.run n).result with
        | error f =>
          rw [hx] at hr
          cases hr
        | ok b => exact ih hx (Nat.lt_of_succ_lt_succ hn)

/-- Only `Dxyn` says that it drew. -/
theorem execute_drew {m : Machine} {op : Op} {w : Word} {drew : Bool}
    (hr : (m.execute op w).result = .ok drew) : drew = decide (op = .drw) := by
  cases op with
  | drw =>
    cases hr
    rfl
  | ret =>
    replace hr : m.ret.result = .ok drew := hr
    unfold ret at hr
    split at hr <;> cases hr
    rfl
  | call =>
    replace hr : (m.call w).result = .ok drew := hr
    unfold call at hr
    split at hr <;> cases hr
    rfl
  | rnd =>
    replace hr : (m.drawRandom w).result = .ok drew := hr
    unfold drawRandom at hr
    split at hr <;> cases hr <;> rfl
  | ldVxDt =>
    replace hr : (m.readDelay w).result = .ok drew := hr
    unfold readDelay at hr
    split at hr <;> cases hr
    rfl
  | _ =>
    cases hr
    rfl

theorem InRange.step_drew {m : Machine} (h : m.InRange) (ha : m.awaiting = false) {drew : Bool}
    (hr : m.step.result = .ok drew) : drew = true ↔ m.fetch.group = 0xD := by
  have hd : Standard.op? m.fetch = some .drw ↔ m.fetch.group = 0xD :=
    Standard.op?_eq_iff_fits (by decide) _
  rw [← hd]
  have hs := step_steps m
  rw [hr] at hs
  generalize m.step.machine = m' at hs
  cases hs with
  | waiting hw =>
    rw [ha] at hw
    cases hw
  | skipped _ hl _ => simp [← h.lookup_op, hl]
  | executed _ hl hx => simp [h.op?_eq hl, execute_drew hx]

/-- **A run draws by `Dxyn` only.** -/
theorem InRange.run_drew_iff {m : Machine} (h : m.InRange) {n : Nat} {drew : Bool}
    (hr : (m.run n).result = .ok drew) :
    drew = true ↔ ∃ s ∈ m.executed n, s.before.fetch.group = 0xD := by
  rw [run_drew hr, List.any_eq_true]
  constructor
  · rintro ⟨s, hs, hd⟩
    obtain ⟨hg, hb⟩ := of_mem_executed (fun _ h => InRange.step h) h hs
    exact ⟨s, hs, (hb.step_drew hg.running hg.result).mp hd⟩
  · rintro ⟨s, hs, hw⟩
    obtain ⟨hg, hb⟩ := of_mem_executed (fun _ h => InRange.step h) h hs
    exact ⟨s, hs, (hb.step_drew hg.running hg.result).mpr hw⟩

/-- **Running is additive.** A run of `a` instructions that fails is all that comes of a
longer one; one that succeeds is followed by a run of the others, to whose answer its own
is added. It drew exactly if one of its steps was a `Dxyn`, and it has fewer steps than it
was asked for only if it ends waiting for a key; its steps are what it adds to the count of
instructions. So frames of any lengths come to the run of as many instructions. -/
theorem run_additive {m : Machine} (h : Reachable m) (a b : Nat) :
    (∀ f, (m.run a).result = .error f →
      (m.run (a + b)).result = .error f ∧ (m.run (a + b)).machine = (m.run a).machine) ∧
    (∀ drew, (m.run a).result = .ok drew →
      (m.run (a + b)).machine = ((m.run a).machine.run b).machine ∧
      (m.run (a + b)).result = ((m.run a).machine.run b).result.map (drew || ·) ∧
      (drew = true ↔ ∃ s ∈ m.executed a, s.before.fetch.group = 0xD) ∧
      ((m.executed a).length < a → (m.run a).machine.awaiting = true)) ∧
    (m.run a).machine.count = m.count + (m.executed a).length ∧
    ∀ frames : List Nat, m.runEach frames = m.run frames.sum := by
  refine ⟨?_, ?_, count_run m a, m.runEach_eq⟩
  · intro f hf
    rw [run_add, Outcome.followedBy_of_error hf]
    exact ⟨hf, rfl⟩
  · intro drew hd
    rw [run_add, Outcome.followedBy_of_ok hd]
    exact ⟨rfl, rfl, h.inRange.run_drew_iff hd, awaiting_of_length_lt hd⟩

/-- A program that draws and then waits for a key. -/
theorem run_additive_draw_and_wait :
    ∃ m, create #[0xD0, 0x05, 0xF0, 0x0A] .modern false .closed = .ok m ∧
      Reachable m ∧ (m.run 2).result = .ok true ∧ (m.run 2).machine.awaiting = true ∧
      (∃ s ∈ m.executed 2, s.before.fetch.group = 0xD) ∧
      (m.run (2 + 5)).result = .ok true ∧ (m.run (2 + 5)).machine = (m.run 2).machine ∧
      m.runEach [1, 0, 4, 2] = m.run 7 := by
  have hsize : (#[0xD0, 0x05, 0xF0, 0x0A] : Array UInt8).size ≤ programCapacity := by decide
  obtain ⟨memory, hl, hc⟩ := create_eq #[0xD0, 0x05, 0xF0, 0x0A] hsize .modern false
    .closed
  have hr := powerOn_inRange hsize hl .modern false .closed
  generalize hm : powerOn memory _ .modern false .closed = m at hc hr
  have hreach := Reachable.create hc
  have hawaiting : m.awaiting = false := by rw [← hm]; rfl
  have hfetch : m.fetch = 0xD005 := by
    rw [← hm]
    exact readWord_of_load hl (k := 0) (by decide) hsize
  obtain ⟨hdraw, hdrawn⟩ := hr.step_of_fits hawaiting .drw (by decide)
    (by rw [hfetch]; rfl) rfl
  have hawaiting' : m.step.machine.awaiting = false := by
    rw [hdrawn, ← hm]
    rfl
  have hfetch' : m.step.machine.fetch = 0xF00A := by
    rw [hdrawn, ← hm]
    exact readWord_of_load hl (k := 2) (by decide) hsize
  obtain ⟨hwait, hwaiting⟩ := hr.step.step_of_isKeyWait hawaiting' (by rw [hfetch']; decide)
  obtain ⟨hrest, hrestMachine⟩ := run_one hawaiting' hwait
  obtain ⟨hmachine, hresult⟩ := run_succ hawaiting hdraw 1
  have hrun : (m.run 2).result = .ok true := by
    rw [hresult, hrest]
    rfl
  have hend : (m.run 2).machine.awaiting = true := by
    rw [hmachine, hrestMachine, hwaiting]
  obtain ⟨-, hadd, -, hframes⟩ := run_additive hreach 2 5
  obtain ⟨hsame, hanswer, hiff, -⟩ := hadd true hrun
  rw [run_of_awaiting hend] at hsame hanswer
  exact ⟨m, hc, hreach, hrun, hend, hiff.mp rfl, hanswer, hsame, hframes [1, 0, 4, 2]⟩

end Machine

end Chip8
