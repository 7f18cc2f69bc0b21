import Chip8.Frontend.Frame
import Chip8.Proofs.Machine.Run

/-!
The instructions of a frame. They are those of a run of the machine, whether or
not a trace is kept (`stepMachine_run`), and a frame does what is told by that
run (`stepFrame_plainFrame`).
-/

namespace Chip8

namespace Frontend

/-- Nothing but the trace and the printed text differs. -/
def Alike (f g : Frontend) : Prop := ∃ trace output, g = { f with trace, output }

namespace Alike

variable {f g h : Frontend}

theorem refl (f : Frontend) : Alike f f := ⟨_, _, rfl⟩

theorem symm (e : Alike f g) : Alike g f := by
  obtain ⟨_, _, rfl⟩ := e
  exact ⟨_, _, rfl⟩

theorem trans (e : Alike f g) (e' : Alike g h) : Alike f h := by
  obtain ⟨_, _, rfl⟩ := e
  obtain ⟨_, _, rfl⟩ := e'
  exact ⟨_, _, rfl⟩

end Alike

theorem say_alike (f : Frontend) (s : String) : Alike f (f.say s) := ⟨_, _, rfl⟩

theorem sayTrace_alike (f : Frontend) : Alike f f.sayTrace := by
  unfold sayTrace
  split
  · exact f.say_alike _
  · exact .refl f

/-- **The instructions of a frame are a run of the machine**, and nothing else but the
trace and the text comes of them. -/
theorem stepMachine_run (f : Frontend) (n : Nat) :
    Alike { f with machine := (f.machine.run n).machine } (f.stepMachine n).1 ∧
      (f.stepMachine n).2 = (f.machine.run n).result := by
  induction n generalizing f with
  | zero => exact ⟨.refl f, rfl⟩
  | succ n ih =>
    unfold stepMachine Machine.run
    cases f.machine.awaiting with
    | true => exact ⟨.refl f, rfl⟩
    | false =>
      cases hr : f.machine.step.result with
      | error e =>
        simp only [hr, Bool.false_eq_true, ↓reduceIte]
        exact ⟨⟨_, _, rfl⟩, trivial⟩
      | ok drew =>
        simp only [hr, Bool.false_eq_true, ↓reduceIte]
        obtain ⟨halike, hresult⟩ := ih ((f.adopt f.machine.step).remember f.machine drew)
        refine ⟨.trans ⟨_, _, rfl⟩ halike, ?_⟩
        rw [hresult]
        rfl

/-- A frame as it is told by a run of the machine. -/
def plainFrame (f : Frontend) : Frontend × Except FrontendError Bool :=
  let g := f.stepsDue.1
  match f.stepsDue.2 with
  | .error e => (g, .error (.number e))
  | .ok n =>
    let o := f.machine.run n
    match o.result with
    | .ok drew => ({ g with machine := o.machine }, .ok drew)
    | .error e =>
      if e.isProcessor then
        ({ g with machine := o.machine, running := false },
          .error (.stopped o.machine.regs.pc e))
      else ({ g with machine := o.machine }, .error (.fault e))

theorem stepFrame_plainFrame (f : Frontend) :
    Alike f.plainFrame.1 f.stepFrame.1 ∧ f.stepFrame.2 = f.plainFrame.2 := by
  unfold stepFrame plainFrame
  have hm : f.stepsDue.1.machine = f.machine := rfl
  generalize f.stepsDue = due at hm ⊢
  rcases due with ⟨g, e | n⟩
  · exact ⟨.refl g, rfl⟩
  · obtain ⟨halike, hresult⟩ := g.stepMachine_run n
    dsimp only at hm ⊢
    rw [hm] at halike hresult
    generalize g.stepMachine n = r at halike hresult ⊢
    obtain ⟨h, r⟩ := r
    dsimp only at halike hresult ⊢
    subst hresult
    obtain ⟨trace, output, rfl⟩ := halike
    cases (f.machine.run n).result with
    | ok drew => exact ⟨⟨_, _, rfl⟩, rfl⟩
    | error e =>
      dsimp only
      cases e.isProcessor with
      | false => exact ⟨⟨_, _, rfl⟩, rfl⟩
      | true => exact ⟨.trans ⟨_, _, rfl⟩ (sayTrace_alike _), rfl⟩

end Frontend

end Chip8
