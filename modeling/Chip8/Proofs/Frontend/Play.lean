import Chip8.Proofs.Frontend.Due
import Chip8.Proofs.Frontend.Session
import Chip8.Proofs.Machine.Reachable
import Chip8.Proofs.Machine.Run

/-!
A session as a fold over the machine. Frame by frame nothing happens to it but what the events
of the host ask for, and the instructions and ticks that are due (`Frontend.Playable.plays`); a
run of an accepted configuration is such a session (`Config.run_plays`).
-/

namespace Chip8

namespace Machine

/-- Well-formed, with a random source that does not break. -/
structure Steady (m : Machine) : Prop where
  inRange : m.InRange
  intact : m.entropy.Intact

variable {m : Machine}

theorem Steady.applyAll (h : m.Steady) (ops : List Operation) : (m.applyAll ops).Steady := by
  have hstream : (m.applyAll ops).entropy.stream = m.entropy.stream :=
    congrArg Settings.stream (m.applyAll_settings ops)
  exact ⟨inRange_kept.applyAll h.inRange ops, fun k => hstream ▸ h.intact k⟩

theorem Stops.isProcessor {fault : Fault} (h : m.Stops fault) : fault.isProcessor = true := by
  cases h <;> rfl

/-- A run of a steady machine fails only where the processor stops. -/
theorem Steady.isProcessor_of_run (h : m.Steady) {n : Nat} {fault : Fault}
    (hr : (m.run n).result = .error fault) : fault.isProcessor = true := by
  obtain ⟨k, _, hfails, _⟩ := run_error hr
  have hk : (m.run k).machine.Steady := h.applyAll [.run k]
  exact (hk.inRange.stops_of_step hk.intact hfails.failing).2.1.isProcessor

end Machine

namespace Frontend

/-- What comes of a script: frames are completed up to the first that stops the frontend, or
until one breaks off. -/
inductive Plays :
    Frontend → List (List HostEvent) → Frontend → Except FrontendError Unit → Prop
  | quits {f g : Frontend} {es : List HostEvent} {rest : List (List HostEvent)} {n t : Nat}
      {drew : Bool} :
      f.Completes es n t drew g → f.inbox.quitsOn es = true → Plays f (es :: rest) g (.ok ())
  | next {f g last : Frontend} {es : List HostEvent} {rest : List (List HostEvent)} {n t : Nat}
      {drew : Bool} {r : Except FrontendError Unit} :
      f.Completes es n t drew g → f.inbox.quitsOn es = false → Plays g rest last r →
        Plays f (es :: rest) last r
  | breaks {f g : Frontend} {es : List HostEvent} {rest : List (List HostEvent)}
      {e : FrontendError} : f.Breaks es g e → Plays f (es :: rest) g (.error e)

/-- Between two frames of a session whose rates make sense. -/
structure Playable (f : Frontend) : Prop where
  running : f.running = true
  machine : f.machine.Steady
  rates : ∃ palette, f.config.check = .ok palette
  clock : f.config.clockHz.Fits f.config.frameRate
  timer : f.config.timerHz.Fits f.config.frameRate
  steps : Leftover f.stepBudget
  ticks : Leftover f.timerBudget

end Frontend

/-- The rates of a configuration that was accepted. -/
theorem Config.rates_of_check {c : Config} {palette : Palette} (h : c.check = .ok palette) :
    c.clockHz.isPositive = true ∧ c.timerHz.isPositive = true ∧ c.frameRate.isPositive = true := by
  unfold check at h
  split at h
  · next hrates => simpa [and_assoc] using hrates
  · cases h

namespace Frontend

namespace Playable

variable {f g : Frontend} {es : List HostEvent}

theorem stepsDue (h : f.Playable) :
    ∃ n, f.stepsDue.2 = .ok n ∧ Leftover f.stepsDue.1.stepBudget := by
  obtain ⟨palette, hcheck⟩ := h.rates
  obtain ⟨hclock, _, hframe⟩ := Config.rates_of_check hcheck
  exact due_ok h.steps hclock hframe h.clock

theorem ticksDue (h : f.Playable) :
    ∃ t, f.ticksDue.2 = .ok t ∧ Leftover f.ticksDue.1.timerBudget := by
  obtain ⟨palette, hcheck⟩ := h.rates
  obtain ⟨_, htimer, hframe⟩ := Config.rates_of_check hcheck
  exact due_ok h.ticks htimer hframe h.timer

/-- **A frame of such a session is completed or breaks off**, and never for want of a number. -/
theorem frame (h : f.Playable) (es : List HostEvent) :
    (∃ n t drew g, f.frame es = (g, .ok ()) ∧ f.Completes es n t drew g) ∨
      ∃ g e, f.frame es = (g, .error e) ∧ f.Breaks es g e := by
  rcases hframe : f.frame es with ⟨g, e | ⟨⟩⟩
  · refine .inr ⟨g, e, rfl, ?_⟩
    cases frame_error hframe with
    | breaks hb => exact hb
    | steps he =>
      obtain ⟨n, hn, _⟩ := h.stepsDue
      cases hn.symm.trans he
    | ticks he =>
      obtain ⟨t, ht, _⟩ := h.ticksDue
      cases ht.symm.trans he
    | fault _ hrun hp =>
      cases hp.symm.trans ((h.machine.applyAll _).isProcessor_of_run hrun)
  · obtain ⟨g', hredrawn, hfinishes⟩ := frame_ok hframe
    obtain ⟨n, t, drew, hredraws⟩ := redrawn_ok hredrawn
    exact .inl ⟨n, t, drew, g, rfl, hredraws.completes hfinishes⟩

/-- A frame in which an instruction fails is stopped there. -/
theorem frame_stopped (h : f.Playable) (es : List HostEvent) {n : Nat} {fault : Fault}
    (hn : f.stepsDue.2 = .ok n)
    (hrun : ((f.machine.applyAll (f.inbox.operationsOf es)).run n).result = .error fault) :
    ∃ g, f.frame es = (g, .error (.stopped g.machine.regs.pc fault)) := by
  have failing {n' : Nat} {drew : Bool} (hn' : f.stepsDue.2 = .ok n') : ¬
      ((f.machine.applyAll (f.inbox.operationsOf es)).run n').result = .ok drew := by
    cases hn.symm.trans hn'
    rw [hrun]
    exact nofun
  rcases h.frame es with ⟨_, _, _, _, _, hc⟩ | ⟨g, e, hframe, hb⟩
  · exact absurd hc.runs (failing hc.steps)
  · cases hb with
    | stopped hn' hrun' =>
      cases hn.symm.trans hn'
      cases hrun.symm.trans hrun'
      exact ⟨g, hframe⟩
    | picture hn' hrun' => exact absurd hrun' (failing hn')
    | tone hr => exact absurd hr.runs (failing hr.steps)

/-- A frame that does not stop the frontend leaves a session that goes on. -/
theorem next (h : f.Playable) {n t : Nat} {drew : Bool} (hc : f.Completes es n t drew g)
    (hquit : f.inbox.quitsOn es = false) : g.Playable := by
  obtain ⟨_, _, hsteps⟩ := h.stepsDue
  obtain ⟨_, _, hticks⟩ := h.ticksDue
  have hmachine : g.machine.Steady := by
    rw [hc.machine, Machine.run_eq, Machine.ticks_eq]
    exact ((h.machine.applyAll _).applyAll _).applyAll _
  exact {
    running := by rw [hc.running, h.running, hquit]; rfl
    machine := hmachine
    rates := hc.config ▸ h.rates
    clock := hc.config ▸ h.clock
    timer := hc.config ▸ h.timer
    steps := hc.stepBudget ▸ hsteps
    ticks := hc.timerBudget ▸ hticks }

/-- **The loop plays its script.** -/
theorem plays (h : f.Playable) (script : List (List HostEvent)) :
    ∃ last r, Plays f (script ++ [[.quit]]) last r ∧ f.loop script = (last, r) := by
  -- Each frame goes on from the state that the one before it left, which is again playable.
  induction script generalizing f with
  | nil =>
    rcases h.frame [.quit] with ⟨n, t, drew, g, hframe, hc⟩ | ⟨g, e, hframe, hb⟩
    · exact ⟨g, _, .quits hc rfl, hframe⟩
    · exact ⟨g, _, .breaks hb, hframe⟩
  | cons es rest ih =>
    unfold loop
    rcases h.frame es with ⟨n, t, drew, g, hframe, hc⟩ | ⟨g, e, hframe, hb⟩
    · rw [hframe]
      dsimp only
      have hrunning := hc.running
      rw [h.running] at hrunning
      cases hquit : f.inbox.quitsOn es with
      | true =>
        rw [hquit] at hrunning
        rw [hrunning]
        exact ⟨g, _, .quits hc hquit, rfl⟩
      | false =>
        rw [hquit] at hrunning
        rw [hrunning]
        obtain ⟨last, r, hplays, hloop⟩ := ih (h.next hc hquit)
        exact ⟨last, r, .next hc hquit hplays, hloop⟩
    · rw [hframe]
      exact ⟨g, _, .breaks hb, rfl⟩

end Playable

end Frontend

namespace Config

variable {c : Config} {palette : Palette} {entropy : Entropy} {files : Files} {h : Host}
  {path : Path} {m : Machine}

/-- A session of an accepted configuration can be played. -/
theorem Fresh.playable {f : Frontend} (hf : Fresh c palette h m f) (hcheck : c.check = .ok palette)
    (hclock : c.clockHz.Fits c.frameRate) (htimer : c.timerHz.Fits c.frameRate)
    (hm : m.Steady) : f.Playable where
  running := congrArg Inbox.running hf.inbox
  machine := hf.machine ▸ hm
  rates := ⟨palette, hf.config ▸ hcheck⟩
  clock := hf.config ▸ hclock
  timer := hf.config ▸ htimer
  steps := hf.stepBudget ▸ Frontend.leftover_zero
  ticks := hf.timerBudget ▸ Frontend.leftover_zero

theorem steady_of_machineFrom (he : entropy.Intact)
    (hm : Frontend.machineFrom c h.room entropy path (files.read path) = .ok m) : m.Steady := by
  obtain ⟨program, hcreate⟩ := machineFrom_ok hm
  obtain ⟨memory, _, hpower⟩ := Machine.create_ok hcreate
  refine ⟨(Machine.Reachable.create hcreate).inRange, ?_⟩
  rw [hpower]
  exact he

/-- **A run is a session.** Whatever the program, the scale and the script: each completed frame
takes the machine from its events to `n` instructions and `t` ticks, and sets the tone once to
what the machine then asks for. The run ends behind the first completed frame that stops the
frontend, or in the first that breaks off. -/
theorem run_plays (categories : Categories) (hcheck : c.check = .ok palette)
    (hclock : c.clockHz.Fits c.frameRate) (htimer : c.timerHz.Fits c.frameRate)
    (hlib : h.missing = false) (hpath : c.romPath = some path) (he : entropy.Intact)
    (hm : Frontend.machineFrom c h.room entropy path (files.read path) = .ok m) :
    let start := c.opened palette categories h path (files.read path) m
    Fresh c palette h m start ∧
      ∃ last r, start.Plays (h.frames ++ [[.quit]]) last r ∧
        c.run palette categories entropy files h =
          .ofFrontend (Frontend.andThen (last, r) fun f () => (f.close, .ok ())) := by
  intro start
  have hstart := opened_fresh c palette categories h path (files.read path) m
  have hplayable := hstart.playable hcheck hclock htimer (steady_of_machineFrom he hm)
  obtain ⟨last, r, hplays, hloop⟩ := hplayable.plays h.frames
  exact ⟨hstart, last, r, hplays, by rw [run_loop hlib hpath hm, hloop]⟩

theorem fits_sixty : Quantity.Fits (.whole 60) (.whole 60) := ⟨_, rfl, rfl⟩

theorem digitEntropy_intact : digitEntropy.Intact := Entropy.closed_intact

/-- A session of two frames, and one to quit. -/
theorem run_plays_digit :
    (digitConfig.check = .ok .phosphor ∧ digitConfig.clockHz.Fits digitConfig.frameRate ∧
      digitConfig.timerHz.Fits digitConfig.frameRate ∧ digitHost.missing = false ∧
      digitConfig.romPath = some digitPath ∧ digitEntropy.Intact) ∧
    ∃ m, Frontend.machineFrom digitConfig digitHost.room digitEntropy digitPath
        (digitFiles.read digitPath) = .ok m ∧
      ∃ last r,
        (digitConfig.opened .phosphor ⟨[]⟩ digitHost digitPath
          (digitFiles.read digitPath) m).Plays [[], [], [.quit]] last r ∧
        digitConfig.run .phosphor ⟨[]⟩ digitEntropy digitFiles digitHost =
          .ofFrontend (Frontend.andThen (last, r) fun f () => (f.close, .ok ())) := by
  obtain ⟨m, hm⟩ := digit_machine
  have hcheck : digitConfig.check = .ok .phosphor := by rfl
  have hfits : digitConfig.clockHz.Fits digitConfig.frameRate := fits_sixty
  have hlib : digitHost.missing = false := rfl
  obtain ⟨-, hplays⟩ := run_plays ⟨[]⟩ hcheck hfits fits_sixty hlib rfl digitEntropy_intact hm
  exact ⟨⟨hcheck, fits_sixty, fits_sixty, rfl, rfl, digitEntropy_intact⟩, m, hm, hplays⟩

/-! ### A window that cannot be drawn -/

/-- Sixty frames to an instruction, and squares wider than any row of bytes. -/
def vastConfig : Config :=
  { digitConfig with scale := .whole 0x8000000000000000, clockHz := .whole 1 }

/-- **A run that ends without being stopped.** Where the scale is beyond the sizes that there are,
the first frame breaks off at its picture: no instruction fails, none is even due, and nothing
stops the frontend. -/
theorem vast_run :
    vastConfig.check = .ok .phosphor ∧ vastConfig.clockHz.Fits vastConfig.frameRate ∧
    vastConfig.timerHz.Fits vastConfig.frameRate ∧ digitHost.missing = false ∧
    vastConfig.romPath = some digitPath ∧ digitEntropy.Intact ∧
    ∃ m, Frontend.machineFrom vastConfig digitHost.room digitEntropy digitPath
        (digitFiles.read digitPath) = .ok m ∧
      (vastConfig.opened .phosphor ⟨[]⟩ digitHost digitPath
        (digitFiles.read digitPath) m).stepsDue.2 = .ok 0 ∧
      (m.run 0).result = .ok false ∧
      (vastConfig.run .phosphor ⟨[]⟩ digitEntropy digitFiles digitHost).result =
        .error (.invalid (.size .index)) := by
  obtain ⟨m, hm⟩ := digit_machine
  have hm : Frontend.machineFrom vastConfig digitHost.room digitEntropy digitPath
      (digitFiles.read digitPath) = .ok m := hm
  have hstart :=
    opened_fresh vastConfig .phosphor ⟨[]⟩ digitHost digitPath (digitFiles.read digitPath) m
  have hrun : vastConfig.run .phosphor ⟨[]⟩ digitEntropy digitFiles digitHost = _ :=
    run_loop rfl rfl hm
  have hbeeper : (vastConfig.opened .phosphor ⟨[]⟩ digitHost digitPath
    (digitFiles.read digitPath) m).beeper = none := rfl
  have hcheck : vastConfig.check = .ok .phosphor := by rfl
  have hfits : vastConfig.clockHz.Fits vastConfig.frameRate := ⟨_, rfl, rfl⟩
  have hplayable := hstart.playable hcheck hfits fits_sixty
    (steady_of_machineFrom digitEntropy_intact hm)
  refine ⟨hcheck, hfits, fits_sixty, rfl, rfl, digitEntropy_intact, m, hm, ?_⟩
  rw [hrun]
  generalize vastConfig.opened .phosphor ⟨[]⟩ digitHost digitPath
    (digitFiles.read digitPath) m = f at hstart hbeeper hplayable ⊢
  have hdue : f.stepsDue.2 = .ok 0 := by
    show (Frontend.due f.stepBudget f.config.clockHz f.config.frameRate).2 = _
    rw [hstart.stepBudget, hstart.config]
    rfl
  have hrefused (screen : Screen 64 32) :
      Picture.renderAt f.host.room f.palette f.config.scale screen = .error (.size .index) := by
    rw [hstart.config]
    rfl
  refine ⟨hdue, rfl, ?_⟩
  obtain ⟨g, hframe⟩ : ∃ g, f.frame [] = (g, .error (.invalid (.size .index))) := by
    rcases hplayable.frame [] with ⟨_, _, _, g, hframe, _⟩ | ⟨g, e, hframe, hbreaks⟩
    · obtain ⟨_, hredrawn, _⟩ := Frontend.frame_ok hframe
      obtain ⟨_, _, _, hredraws⟩ := Frontend.redrawn_ok hredrawn
      obtain ⟨p, hp⟩ := hredraws.picture (by rw [hstart.dirty, Bool.true_or])
      cases (hrefused _).symm.trans hp
    · cases hbreaks with
      | stopped hn hfails =>
        cases hdue.symm.trans hn
        cases hfails
      | picture _ _ _ _ he =>
        cases (hrefused _).symm.trans he
        exact ⟨g, hframe⟩
      | tone _ hb _ => cases hbeeper.symm.trans hb
  show (Frontend.andThen (f.loop ([] :: [[]])) fun f () => (f.close, .ok ())).2 = _
  rw [Frontend.loop, hframe]
  rfl

end Config

end Chip8
