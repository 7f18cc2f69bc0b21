import Chip8.Proofs.Frontend.Play

/-!
Why a session fails. Where a number of instructions is due in each frame, it breaks off where the
processor stops, or for want of a picture or a tone, and for the same reasons in every frame
(`Plays.broken`); where none is due, in its first frame (`loop_of_stepsDue`).
-/

namespace Chip8

namespace Frontend

variable {f g last : Frontend} {es : List HostEvent} {mixer : List (Option Quantity)}

/-- A whole frame leaves the tone of the beeper as it was. -/
theorem Completes.standard {n t : Nat} {drew : Bool} (h : f.Completes es n t drew g)
    (hb : ∀ b, f.beeper = some b → b.Standard mixer) :
    ∀ b, g.beeper = some b → b.Standard mixer := by
  intro b hbeeper
  obtain ⟨host, hbeeps, -⟩ := h.tone
  obtain ⟨b', hold, hrate, hfrequency⟩ := hbeeps.tone hbeeper
  obtain ⟨hfrequency', rate, hmem, hrate'⟩ := hb b' hold
  exact ⟨hfrequency.trans hfrequency', rate, hmem, hrate.trans hrate'⟩

/-- Why a session breaks off: the processor stopped, or a picture or the tone of a mixer was not to
be had. -/
inductive Broken (f : Frontend) (mixer : List (Option Quantity)) : FrontendError → Prop
  | stopped {pc : Int} {fault : Fault} : fault.isProcessor = true →
      Broken f mixer (.stopped pc fault)
  | picture {screen : Screen 64 32} {e : Invalid} :
      Picture.renderAt f.host.room f.palette f.config.scale screen = .error e →
      Broken f mixer (.invalid e)
  | tone {rate : Quantity} {e : ToneError} : some rate ∈ mixer →
      Tone.squareWave rate.atLeastOne Tone.defaultFrequency Tone.defaultAmplitude = .error e →
      Broken f mixer (.tone e)

theorem Breaks.broken {e : FrontendError} (h : f.Breaks es g e)
    (hb : ∀ b, f.beeper = some b → b.Standard mixer) : Broken f mixer e := by
  cases h with
  | stopped _ _ hp _ => exact .stopped hp
  | picture _ _ _ _ he => exact .picture he
  | tone _ hbeeper he =>
    obtain ⟨hfrequency, rate, hmem, hrate⟩ := hb _ hbeeper
    have hwave := (Beeper.set_unseen _ _ _).2 _ he
    rw [hrate, hfrequency] at hwave
    exact .tone hmem hwave

/-- **A session breaks off for the reasons of a frame**, which are the same from first to last. -/
theorem Plays.broken {script : List (List HostEvent)} {e : FrontendError}
    (h : f.Plays script last (.error e)) (hb : ∀ b, f.beeper = some b → b.Standard mixer) :
    Broken f mixer e := by
  generalize hr : Except.error e = r at h
  induction h with
  | quits => cases hr
  | breaks hbreaks =>
    cases hr
    exact hbreaks.broken hb
  | next hc _ _ ih =>
    cases ih (hc.standard hb) hr with
    | stopped hp => exact .stopped hp
    | picture he =>
      rw [hc.palette, hc.config, hc.room] at he
      exact .picture he
    | tone hmem he => exact .tone hmem he

/-- Without a number of instructions there is no frame. -/
theorem frame_of_stepsDue {e : NumberError} {t : Nat} (hn : f.stepsDue.2 = .error e)
    (ht : f.ticksDue.2 = .ok t) (es : List HostEvent) :
    ∃ g, f.frame es = (g, .error (.number e)) := by
  have hnone {n : Nat} : f.stepsDue.2 ≠ .ok n := by
    rw [hn]
    exact nofun
  rcases hframe : f.frame es with ⟨g, e' | ⟨⟩⟩
  · cases frame_error hframe with
    | steps he =>
      cases hn.symm.trans he
      exact ⟨g, rfl⟩
    | ticks he => cases ht.symm.trans he
    | fault hn' => exact absurd hn' hnone
    | breaks h =>
      cases h with
      | stopped hn' => exact absurd hn' hnone
      | picture hn' => exact absurd hn' hnone
      | tone hr => exact absurd hr.steps hnone
  · obtain ⟨_, hredrawn, -⟩ := frame_ok hframe
    obtain ⟨_, _, _, hr⟩ := redrawn_ok hredrawn
    exact absurd hr.steps hnone

theorem loop_of_stepsDue {e : NumberError} {t : Nat} (hn : f.stepsDue.2 = .error e)
    (ht : f.ticksDue.2 = .ok t) (script : List (List HostEvent)) :
    ∃ g, f.loop script = (g, .error (.number e)) := by
  cases script with
  | nil => exact frame_of_stepsDue hn ht [.quit]
  | cons es rest =>
    obtain ⟨g, hframe⟩ := frame_of_stepsDue hn ht es
    exact ⟨g, by rw [loop, hframe]⟩

end Frontend

namespace Config

variable {c : Config} {palette : Palette} {categories : Categories} {entropy : Entropy}
  {files : Files} {h : Host} {path : Path}

/-- Without a machine there is no session. -/
theorem result_of_machineFrom {e : FrontendError} (hlib : h.missing = false)
    (hpath : c.romPath = some path)
    (hm : Frontend.machineFrom c h.room entropy path (files.read path) = .error e) :
    (c.run palette categories entropy files h).result = .error e := by
  unfold run
  simp only [hlib, hpath, hm, Bool.false_eq_true, ↓reduceIte]
  rfl

/-- A run ends as its loop does. -/
theorem result_of_loop {m : Machine} {last : Frontend} {result : Except FrontendError Unit}
    (hlib : h.missing = false) (hpath : c.romPath = some path)
    (hm : Frontend.machineFrom c h.room entropy path (files.read path) = .ok m)
    (hloop : (c.opened palette categories h path (files.read path) m).loop h.frames =
      (last, result)) :
    (c.run palette categories entropy files h).result = result := by
  rw [run_loop hlib hpath hm, hloop]
  cases result <;> rfl

end Config

end Chip8
