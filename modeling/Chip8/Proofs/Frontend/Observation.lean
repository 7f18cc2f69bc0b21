import Chip8.Frontend.Desk
import Chip8.Proofs.Frontend.Frame

/-!
The trace observes and does not interfere. Every command answers alike to
frontends that differ in the trace and the printed text alone, and leaves them
so (`Desk.Alike.perform`); hence a frame is the run of the machine that it is due,
whatever trace is kept (`frame_observes_run`).
-/

namespace Chip8

namespace Frontend

/-- Alike frontends with the same answer. -/
def Agree {α : Type} (r r' : Frontend × α) : Prop := Alike r.1 r'.1 ∧ r.2 = r'.2

/-- What is made of two answers that agree is compared at one answer. -/
@[elab_as_elim]
theorem Agree.elim {α : Type} {P : Frontend × α → Frontend × α → Prop} {r r' : Frontend × α}
    (h : Agree r r') (hP : ∀ f g a, Alike f g → P (f, a) (g, a)) : P r r' := by
  obtain ⟨f, a⟩ := r
  obtain ⟨g, _⟩ := r'
  obtain ⟨halike, rfl⟩ := h
  exact hP f g a halike

/-- All but the trace and the printed text. -/
def bare (f : Frontend) : Frontend := { f with trace := none, output := "" }

theorem sayLatest_alike (f : Frontend) (limit : Option Int) : Alike f (f.sayLatest limit) := by
  unfold sayLatest
  split
  · exact f.say_alike _
  · dsimp only
    split <;> exact f.say_alike _

theorem sayMemory_alike (f : Frontend) (argument : String) :
    Alike f (f.sayMemory argument).1 := by
  unfold sayMemory
  split
  · exact .refl f
  · exact f.say_alike _
  · split <;> exact f.say_alike _

namespace Alike

variable {f g : Frontend}

theorem bare (h : Alike f g) : f.bare = g.bare := by
  obtain ⟨_, _, rfl⟩ := h
  rfl

theorem machine (h : Alike f g) : f.machine = g.machine :=
  (congrArg Frontend.machine h.bare :)

theorem running (h : Alike f g) : f.running = g.running :=
  (congrArg Frontend.running h.bare :)

theorem host (h : Alike f g) : f.host = g.host :=
  (congrArg Frontend.host h.bare :)

theorem plainFrame (h : Alike f g) : Agree f.plainFrame g.plainFrame := by
  obtain ⟨trace, output, rfl⟩ := h
  have hdue : ({ f with trace, output } : Frontend).stepsDue.2 = f.stepsDue.2 := rfl
  unfold Frontend.plainFrame
  rw [hdue]
  cases f.stepsDue.2 with
  | error e => exact ⟨⟨_, _, rfl⟩, rfl⟩
  | ok n =>
    dsimp only
    cases (f.machine.run n).result with
    | ok drew => exact ⟨⟨_, _, rfl⟩, rfl⟩
    | error e =>
      dsimp only
      cases e.isProcessor <;> exact ⟨⟨_, _, rfl⟩, rfl⟩

theorem stepFrame (h : Alike f g) : Agree f.stepFrame g.stepFrame := by
  obtain ⟨hf, ef⟩ := f.stepFrame_plainFrame
  obtain ⟨hg, eg⟩ := g.stepFrame_plainFrame
  obtain ⟨hplain, eplain⟩ := h.plainFrame
  exact ⟨(hf.symm.trans hplain).trans hg, by rw [ef, eg, eplain]⟩

theorem stepsDue (h : Alike f g) : Agree f.stepsDue g.stepsDue := by
  obtain ⟨_, _, rfl⟩ := h
  exact ⟨⟨_, _, rfl⟩, rfl⟩

theorem ticksDue (h : Alike f g) : Agree f.ticksDue g.ticksDue := by
  obtain ⟨_, _, rfl⟩ := h
  exact ⟨⟨_, _, rfl⟩, rfl⟩

theorem tickFrame (h : Alike f g) : Agree f.tickFrame g.tickFrame := by
  unfold Frontend.tickFrame
  refine h.ticksDue.elim fun f g n h => ?_
  obtain ⟨_, _, rfl⟩ := h
  cases n <;> exact ⟨⟨_, _, rfl⟩, rfl⟩

theorem key (h : Alike f g) (name : String) (pressed : Bool) :
    Agree (f.key name pressed) (g.key name pressed) := by
  obtain ⟨_, _, rfl⟩ := h
  exact ⟨⟨_, _, rfl⟩, rfl⟩

theorem say (h : Alike f g) (s t : String) : Alike (f.say s) (g.say t) :=
  ((f.say_alike s).symm.trans h).trans (g.say_alike t)

theorem sayLatest (h : Alike f g) (limit : Option Int) :
    Alike (f.sayLatest limit) (g.sayLatest limit) :=
  ((f.sayLatest_alike limit).symm.trans h).trans (g.sayLatest_alike limit)

theorem sayMemory (h : Alike f g) (argument : String) :
    Agree (f.sayMemory argument) (g.sayMemory argument) := by
  refine ⟨((f.sayMemory_alike argument).symm.trans h).trans (g.sayMemory_alike argument), ?_⟩
  obtain ⟨trace, output, rfl⟩ := h
  unfold Frontend.sayMemory
  dsimp only
  cases DumpRange.read f.machine.regs.pc argument with
  | blank | unreadable => rfl
  | range start length =>
    dsimp only
    split <;> rfl

theorem resetMachine (h : Alike f g) : Alike f.resetMachine g.resetMachine := by
  obtain ⟨_, _, rfl⟩ := h
  exact ⟨_, _, rfl⟩

theorem shellCommand (h : Alike f g) (c : ShellCommand) :
    Agree (f.shellCommand c) (g.shellCommand c) := by
  cases c with
  | resume => exact ⟨h, rfl⟩
  | cpu => exact ⟨h.say _ _, rfl⟩
  | screen => exact ⟨h.say _ _, rfl⟩
  | trace => exact ⟨h.sayLatest _, rfl⟩
  | reset => exact ⟨h.resetMachine, rfl⟩
  | memory argument => exact ⟨(h.sayMemory argument).1, rfl⟩
  | quit =>
    obtain ⟨_, _, rfl⟩ := h
    exact ⟨⟨_, _, rfl⟩, rfl⟩
  | unknown => exact ⟨h.say _ _, rfl⟩

theorem leaveShell (h : Alike f g) : Alike f.leaveShell g.leaveShell :=
  (h.say _ _).say _ _

theorem shellLines (h : Alike f g) (typed : List Typed) :
    Agree (f.shellLines typed) (g.shellLines typed) := by
  induction typed generalizing f g with
  | nil =>
    unfold Frontend.shellLines
    rw [← h.running]
    split
    · exact ⟨h.leaveShell, rfl⟩
    · exact ⟨h, rfl⟩
  | cons t rest ih =>
    cases t with
    | broken =>
      unfold Frontend.shellLines
      rw [← h.running]
      split
      · exact ⟨h.leaveShell, rfl⟩
      · exact ⟨h, rfl⟩
    | line s =>
      unfold Frontend.shellLines
      rw [← h.running]
      split
      · unfold prompt
        -- Named first, or the comparison of the two results unfolds them.
        have hnext := (h.say promptText promptText).shellCommand (.read s)
        generalize (f.say promptText).shellCommand (.read s) = r at hnext ⊢
        generalize (g.say promptText).shellCommand (.read s) = r' at hnext ⊢
        refine hnext.elim fun f g stays h => ?_
        cases stays with
        | true => exact ih h
        | false => exact ⟨h, rfl⟩
      · exact ⟨h, rfl⟩

theorem shell (h : Alike f g) : Alike f.shell g.shell := by
  unfold Frontend.shell openShell closeShell sayLines
  dsimp only
  generalize String.join _ = heading
  have hsaid := h.say heading heading
  rw [← h.host]
  have hread := hsaid.shellLines f.host.typed
  generalize (f.say heading).shellLines _ = r at hread ⊢
  generalize (g.say heading).shellLines _ = r' at hread ⊢
  refine hread.elim fun f g typed h => ?_
  obtain ⟨_, _, rfl⟩ := h
  dsimp only
  split <;> exact ⟨_, _, rfl⟩

end Alike

end Frontend

namespace Desk

structure Alike (d d' : Desk) : Prop where
  frontend : Frontend.Alike d.frontend d'.frontend
  saved : d.saved = d'.saved

/-- Alike desks with the same reply. -/
def Agree (r r' : Desk × Except DeskError DeskReply) : Prop := r.1.Alike r'.1 ∧ r.2 = r'.2

theorem fromFrontend_agree {α : Type} {f g : Frontend} {saved : List Registers}
    {r r' : Frontend × Except FrontendError α} (h : Frontend.Agree r r') (reply : α → DeskReply) :
    Agree ((Desk.mk f saved).fromFrontend r reply) ((Desk.mk g saved).fromFrontend r' reply) :=
  ⟨⟨h.1, rfl⟩, by simp only [fromFrontend, h.2]⟩

theorem Alike.perform {d d' : Desk} (h : d.Alike d') (c : DeskCommand) :
    Agree (d.perform c) (d'.perform c) := by
  obtain ⟨f, saved⟩ := d
  obtain ⟨g, _⟩ := d'
  obtain ⟨h, rfl⟩ := h
  dsimp only at h
  cases c with
  | machine c =>
    obtain ⟨_, _, rfl⟩ := h
    exact ⟨⟨⟨_, _, rfl⟩, rfl⟩, rfl⟩
  | frame => exact fromFrontend_agree h.stepFrame _
  | timers => exact fromFrontend_agree h.tickFrame _
  | budget =>
    unfold Desk.perform
    dsimp only
    refine h.stepsDue.elim fun f g n h => ?_
    cases n <;> exact ⟨⟨h, rfl⟩, rfl⟩
  | key name pressed =>
    unfold Desk.perform
    dsimp only
    refine (h.key name pressed).elim fun f g b h => ?_
    cases b <;> exact ⟨⟨h, rfl⟩, rfl⟩
  | shell typed =>
    obtain ⟨trace, output, rfl⟩ := h
    have hshell : Frontend.Alike { f with host := { f.host with typed } }.shell
        { f with host := { f.host with typed }, trace, output }.shell :=
      Frontend.Alike.shell ⟨trace, output, rfl⟩
    refine ⟨⟨hshell, rfl⟩, ?_⟩
    exact congrArg (fun host : Host => Except.ok
      (DeskReply.shell host.typed.length (host.callsSince f.host))) hshell.host
  | showCpu => exact ⟨⟨h.say _ _, rfl⟩, rfl⟩
  | showTrace limit => exact ⟨⟨h.sayLatest limit, rfl⟩, rfl⟩
  | showMemory argument => exact fromFrontend_agree (h.sayMemory argument) _

/-- The replies to commands, each with the frontend behind it. -/
def transcript (d : Desk) : List DeskCommand → List (Except DeskError DeskReply × Frontend)
  | [] => []
  | c :: cs =>
    let r := d.perform c
    (r.2, r.1.frontend.bare) :: r.1.transcript cs

theorem Alike.transcript {d d' : Desk} (h : d.Alike d') (cs : List DeskCommand) :
    d.transcript cs = d'.transcript cs := by
  induction cs generalizing d d' with
  | nil => rfl
  | cons c cs ih =>
    obtain ⟨hnext, hreply⟩ := h.perform c
    simp only [Desk.transcript, hreply, hnext.frontend.bare, ih hnext]

end Desk

namespace Frontend

/-- **A frame is the run of the machine that is due, whatever trace is kept.** It leaves the
machine where the run does and says whether the run drew. Where the run fails, at a step of
its own behind steps that succeeded, a fault of the processor stops the frontend, under the
address of the instruction that failed, and any other fault is passed on. And no command
tells a trace from another or from none. -/
theorem frame_observes_run (f : Frontend) :
    (match f.stepsDue.2 with
      | .error e => f.stepFrame.2 = .error (.number e) ∧ f.stepFrame.1.machine = f.machine
      | .ok n =>
        f.stepFrame.1.machine = (f.machine.run n).machine ∧
        match (f.machine.run n).result with
        | .ok drew => f.stepFrame.2 = .ok drew ∧ f.stepFrame.1.running = f.running
        | .error e => ∃ k < n, f.machine.FailsAt k e ∧
          let pc := (f.machine.run k).machine.regs.pc
          if e.isProcessor then
            f.stepFrame.2 = .error (.stopped pc e) ∧ f.stepFrame.1.running = false ∧
            (FrontendError.stopped pc e).message =
              "CHIP-8 fault at " ++ Text.hex 3 pc ++ ": " ++ e.message
          else f.stepFrame.2 = .error (.fault e) ∧ f.stepFrame.1.running = f.running) ∧
    ∀ trace saved commands,
      (Desk.mk { f with trace } saved).transcript commands =
        (Desk.mk f saved).transcript commands := by
  have htrace (trace saved) : (Desk.mk { f with trace } saved).Alike (Desk.mk f saved) :=
    ⟨⟨f.trace, f.output, rfl⟩, rfl⟩
  refine ⟨?_, fun trace saved => (htrace trace saved).transcript⟩
  obtain ⟨halike, hresult⟩ := f.stepFrame_plainFrame
  rw [← halike.machine, ← halike.running, hresult]
  unfold plainFrame
  cases f.stepsDue.2 with
  | error e => exact ⟨rfl, rfl⟩
  | ok n =>
    dsimp only
    cases hrun : (f.machine.run n).result with
    | ok drew => exact ⟨rfl, rfl, rfl⟩
    | error e =>
      obtain ⟨k, hk, hfails, hlast⟩ := Machine.run_error hrun
      dsimp only
      cases hp : e.isProcessor with
      | false => exact ⟨rfl, k, hk, hfails, rfl, rfl⟩
      | true =>
        rw [Machine.step_machine_of_isProcessor hfails.failing hp] at hlast
        refine ⟨rfl, k, hk, hfails, ?_, rfl, rfl⟩
        rw [hlast]
        rfl

end Frontend

end Chip8
