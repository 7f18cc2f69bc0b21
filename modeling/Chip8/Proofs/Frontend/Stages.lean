import Chip8.Proofs.Beeper
import Chip8.Proofs.Frontend.Observation
import Chip8.Proofs.Frontend.Shell
import Chip8.Proofs.Machine.WellFormed

/-!
The stages of a frame, each with what it leaves where it succeeds and why it fails where it
does not. A frame that goes as far as its picture is told from the run of the machine and the
ticks that are due (`redrawn_ok`); what comes behind the picture touches neither machine nor
window (`finished_ok`).
-/

namespace Chip8

namespace Frontend

theorem andThen_assoc {α β γ : Type} (r : Frontend × Except FrontendError α)
    (next : Frontend → α → Frontend × Except FrontendError β)
    (last : Frontend → β → Frontend × Except FrontendError γ) :
    andThen (andThen r next) last = andThen r fun f a => andThen (next f a) last := by
  obtain ⟨f, e | a⟩ := r <;> rfl

/-- A stage behind another succeeds where both do. -/
theorem andThen_ok {α β : Type} {r : Frontend × Except FrontendError α}
    {next : Frontend → α → Frontend × Except FrontendError β} {g : Frontend} {b : β}
    (h : andThen r next = (g, .ok b)) : ∃ f a, r = (f, .ok a) ∧ next f a = (g, .ok b) := by
  obtain ⟨f, e | a⟩ := r
  · cases h
  · exact ⟨f, a, rfl, h⟩

theorem andThen_error {α β : Type} {r : Frontend × Except FrontendError α}
    {next : Frontend → α → Frontend × Except FrontendError β} {g : Frontend} {e : FrontendError}
    (h : andThen r next = (g, .error e)) :
    r = (g, .error e) ∨ ∃ f a, r = (f, .ok a) ∧ next f a = (g, .error e) := by
  obtain ⟨f, e' | a⟩ := r
  · cases h
    exact .inl rfl
  · exact .inr ⟨f, a, rfl, h⟩

/-- What holds behind a stage, whatever comes of it, and is kept by the next holds behind both. -/
theorem andThen_kept {α β : Type} {P : Frontend → Prop} {r : Frontend × Except FrontendError α}
    {next : Frontend → α → Frontend × Except FrontendError β} (hr : P r.1)
    (hn : ∀ f a, P f → P (next f a).1) : P (andThen r next).1 := by
  obtain ⟨f, e | a⟩ := r
  · exact hr
  · exact hn f a hr

variable {f g : Frontend}

/-! ## Instructions and timers -/

theorem stepFrame_ok {drew : Bool} (h : f.stepFrame = (g, .ok drew)) :
    ∃ n trace output, f.stepsDue.2 = .ok n ∧ (f.machine.run n).result = .ok drew ∧
      g = { f with
        stepBudget := f.stepsDue.1.stepBudget, machine := (f.machine.run n).machine
        trace, output } := by
  obtain ⟨halike, hresult⟩ := f.stepFrame_plainFrame
  rw [h] at halike hresult
  unfold plainFrame at halike hresult
  cases hdue : f.stepsDue.2 with
  | error e =>
    rw [hdue] at hresult
    cases hresult
  | ok n =>
    simp only [hdue] at halike hresult
    cases hrun : (f.machine.run n).result with
    | error e =>
      rw [hrun] at hresult
      dsimp only at hresult
      split at hresult <;> cases hresult
    | ok b =>
      rw [hrun] at halike hresult
      obtain ⟨trace, output, rfl⟩ := halike
      cases hresult
      exact ⟨n, trace, output, rfl, hrun, rfl⟩

theorem stepFrame_error {e : FrontendError} (h : f.stepFrame = (g, .error e)) :
    (∃ e', f.stepsDue.2 = .error e' ∧ e = .number e') ∨
    ∃ n fault, f.stepsDue.2 = .ok n ∧ (f.machine.run n).result = .error fault ∧
      g.machine = (f.machine.run n).machine ∧
      e = if fault.isProcessor then .stopped g.machine.regs.pc fault else .fault fault := by
  obtain ⟨halike, hresult⟩ := f.stepFrame_plainFrame
  rw [h] at halike hresult
  unfold plainFrame at halike hresult
  cases hdue : f.stepsDue.2 with
  | error e' =>
    rw [hdue] at hresult
    exact .inl ⟨e', rfl, Except.error.inj hresult⟩
  | ok n =>
    simp only [hdue] at halike hresult
    cases hrun : (f.machine.run n).result with
    | ok b =>
      rw [hrun] at hresult
      cases hresult
    | error fault =>
      refine .inr ⟨n, fault, rfl, hrun, ?_⟩
      rw [hrun] at halike hresult
      obtain ⟨trace, output, rfl⟩ := halike
      dsimp only at hresult ⊢
      cases hp : fault.isProcessor with
      | true =>
        rw [hp] at hresult
        exact ⟨rfl, Except.error.inj hresult⟩
      | false =>
        rw [hp] at hresult
        exact ⟨rfl, Except.error.inj hresult⟩

theorem tickFrame_ok {n : Nat} (h : f.tickFrame = (g, .ok n)) :
    f.ticksDue.2 = .ok n ∧
      g = { f with
        timerBudget := f.ticksDue.1.timerBudget, machine := f.machine.ticks n } := by
  have hf : f.ticksDue.1 = { f with timerBudget := f.ticksDue.1.timerBudget } := rfl
  unfold tickFrame at h
  generalize f.ticksDue = due at h hf ⊢
  obtain ⟨k, e | t⟩ := due
  · cases h
  · cases h
    exact ⟨rfl, by rw [show k = _ from hf]⟩

theorem tickFrame_error {e : FrontendError} (h : f.tickFrame = (g, .error e)) :
    ∃ e', f.ticksDue.2 = .error e' ∧ e = .number e' := by
  unfold tickFrame at h
  generalize f.ticksDue = due at h ⊢
  obtain ⟨k, e' | t⟩ := due
  · cases h
    exact ⟨e', rfl, rfl⟩
  · cases h

/-! ## The picture -/

/-- The calls by which a picture of the screen is shown, where one is asked for. -/
def redraw (dirty : Bool) (room : Room) (palette : Palette) (scale : Quantity)
    (screen : Screen 64 32) : List HostCall :=
  if !dirty then []
  else match Picture.renderAt room palette scale screen with
    | .error _ => []
    | .ok picture => [.flip, .blit picture]

theorem present_ok (h : f.present = (g, .ok ())) :
    (f.dirty = true →
      ∃ p, Picture.renderAt f.host.room f.palette f.config.scale f.machine.screen = .ok p) ∧
      g = { f with
        dirty := false
        host := { f.host with
          calls :=
            redraw f.dirty f.host.room f.palette f.config.scale f.machine.screen ++
              f.host.calls } } := by
  unfold present at h
  unfold redraw
  cases hd : f.dirty with
  | false =>
    simp only [hd] at h
    cases h
    have hclean : f = { f with dirty := false } := by rw [← hd]
    exact ⟨(nomatch ·), hclean⟩
  | true =>
    simp only [hd] at h
    cases hp : Picture.renderAt f.host.room f.palette f.config.scale f.machine.screen with
    | error e => simp [hp] at h
    | ok p =>
      rw [hp] at h
      cases h
      exact ⟨fun _ => ⟨p, rfl⟩, rfl⟩

theorem present_error {e : FrontendError} (h : f.present = (g, .error e)) :
    f.dirty = true ∧
      ∃ e', Picture.renderAt f.host.room f.palette f.config.scale f.machine.screen = .error e' ∧
        e = .invalid e' := by
  unfold present at h
  split at h
  · cases h
  · next hdirty =>
    split at h
    · cases h
      exact ⟨by simpa using hdirty, _, ‹_›, rfl⟩
    · cases h

/-! ## The tone and the rest -/

theorem sound_ok (h : f.sound = (g, .ok ())) :
    ∃ beeper host, g = { f with beeper, host } ∧
      Beeper.Beeps (0 < f.machine.regs.st) f.beeper f.host beeper host := by
  unfold sound at h
  cases hb : f.beeper with
  | none =>
    rw [hb] at h
    cases h
    exact ⟨none, f.host, by rw [← hb], .silent⟩
  | some b =>
    simp only [hb] at h
    obtain ⟨hstate, hresult⟩ := Prod.mk.inj h
    split at hresult
    · next hset =>
      exact ⟨_, _, hstate.symm, .set (Prod.ext hset rfl)⟩
    · cases hresult

theorem sound_error {e : FrontendError} (h : f.sound = (g, .error e)) :
    ∃ b e', f.beeper = some b ∧ e = .tone e' ∧
      (b.set (0 < f.machine.regs.st) f.host).1 = .error e' := by
  unfold sound at h
  split at h
  · cases h
  · have hresult := congrArg Prod.snd h
    dsimp only at hresult
    split at hresult
    · cases hresult
    · cases hresult
      exact ⟨_, _, ‹_›, rfl, ‹_›⟩

theorem logFrame_eq (f : Frontend) (began before : Nat) :
    ∃ clock output, f.logFrame began before = { f with host := { f.host with clock }, output } := by
  unfold logFrame logText
  split
  · dsimp only
    split <;> exact ⟨_, _, rfl⟩
  · exact ⟨_, _, rfl⟩

/-- A frame behind its picture. -/
def finished (f : Frontend) (began before : Nat) : Frontend × Except FrontendError Unit :=
  andThen f.sound fun f () => ((f.logFrame began before).rest, .ok ())

/-- Behind the picture the tone is set, and the frame is over. -/
def Finishes (f g : Frontend) : Prop :=
  ∃ beeper host clock output,
    Beeper.Beeps (0 < f.machine.regs.st) f.beeper f.host beeper host ∧
      g = { f with
        beeper
        frames := f.frames + 1
        host := { host with clock, calls := .tick f.config.frameRate :: host.calls }
        output }

theorem Finishes.room (h : f.Finishes g) : g.host.room = f.host.room := by
  obtain ⟨beeper, host, clock, output, hbeeps, rfl⟩ := h
  obtain ⟨_, _, _, rfl, _⟩ := hbeeps.unseen
  rfl

theorem finished_ok {began before : Nat} (h : f.finished began before = (g, .ok ())) :
    f.Finishes g := by
  obtain ⟨f₁, ⟨⟩, hsound, h⟩ := andThen_ok h
  obtain ⟨clock, output, hlog⟩ := f₁.logFrame_eq began before
  obtain ⟨beeper, host, rfl, hbeeps⟩ := sound_ok hsound
  rw [hlog] at h
  cases h
  exact ⟨beeper, host, clock, output, hbeeps, rfl⟩

theorem finished_error {began before : Nat} {e : FrontendError}
    (h : f.finished began before = (g, .error e)) :
    ∃ b e', f.beeper = some b ∧ e = .tone e' ∧
      (b.set (0 < f.machine.regs.st) f.host).1 = .error e' := by
  rcases andThen_error h with hsound | ⟨_, _, _, hrest⟩
  · exact sound_error hsound
  · cases hrest

/-! ## The whole frame -/

/-- A frame up to its picture. -/
def redrawn (f : Frontend) (es : List HostEvent) : Frontend × Except FrontendError Unit :=
  let (_, f) := (f.events es).readClock
  andThen f.stepFrame fun f drew =>
    andThen { f with dirty := f.dirty || drew }.tickFrame fun f _ => f.present

/-- The host behind the picture: shells dropped events and took lines, the clock was read, and
the picture was shown if there was one to show. -/
def pictured (f : Frontend) (es : List HostEvent) (drew : Bool) (screen : Screen 64 32) : Host :=
  { f.host with
    typed := (f.inbox.after es).typed
    clock := f.host.clock + 1
    calls := redraw (f.dirty || drew) f.host.room f.palette f.config.scale screen ++
      (clears f.window es ++ f.host.calls) }

/-- What a frame is made of, as far as its picture: `n` instructions, whether one of them drew,
`t` ticks, and the frontend behind the picture. -/
structure Redraws (f : Frontend) (es : List HostEvent) (n t : Nat) (drew : Bool)
    (g : Frontend) : Prop where
  steps : f.stepsDue.2 = .ok n
  runs : ((f.machine.applyAll (f.inbox.operationsOf es)).run n).result = .ok drew
  ticks : f.ticksDue.2 = .ok t
  machine : g.machine = ((f.machine.applyAll (f.inbox.operationsOf es)).run n).machine.ticks t
  picture : (f.dirty || drew) = true →
    ∃ p, Picture.renderAt f.host.room f.palette f.config.scale g.machine.screen = .ok p
  state : ∃ trace output, g = { f with
    machine := g.machine
    running := (f.inbox.after es).running
    stepBudget := f.stepsDue.1.stepBudget
    timerBudget := f.ticksDue.1.timerBudget
    dirty := false
    trace, output
    host := f.pictured es drew g.machine.screen }

theorem redrawn_ok {es : List HostEvent} (h : f.redrawn es = (g, .ok ())) :
    ∃ n t drew, f.Redraws es n t drew g := by
  obtain ⟨output, hevents⟩ := f.events_eq es
  unfold redrawn at h
  rw [hevents] at h
  obtain ⟨f₁, drew, hsteps, h⟩ := andThen_ok h
  obtain ⟨n, trace, output, hn, hrun, rfl⟩ := stepFrame_ok hsteps
  obtain ⟨f₂, t, hticks, h⟩ := andThen_ok h
  obtain ⟨ht, rfl⟩ := tickFrame_ok hticks
  obtain ⟨hpicture, rfl⟩ := present_ok h
  exact ⟨n, t, drew, hn, hrun, ht, rfl, hpicture, trace, output, rfl⟩

/-- A frame is its picture and what comes behind it. -/
theorem frame_eq (f : Frontend) (es : List HostEvent) :
    ∃ began before,
      f.frame es = andThen (f.redrawn es) fun g () => g.finished began before := by
  refine ⟨(f.events es).readClock.1, (f.events es).readClock.2.machine.count, ?_⟩
  unfold redrawn
  simp only [andThen_assoc]
  rfl

theorem frame_ok {es : List HostEvent} (h : f.frame es = (g, .ok ())) :
    ∃ g', f.redrawn es = (g', .ok ()) ∧ g'.Finishes g := by
  obtain ⟨began, before, heq⟩ := f.frame_eq es
  rw [heq] at h
  obtain ⟨g', ⟨⟩, hredrawn, hfinished⟩ := andThen_ok h
  exact ⟨g', hredrawn, finished_ok hfinished⟩

/-- What a whole frame does: `n` instructions behind the events, `t` ticks, the picture if it is
asked for, and the tone set once to what the machine asks for then. -/
structure Completes (f : Frontend) (es : List HostEvent) (n t : Nat) (drew : Bool)
    (g : Frontend) : Prop where
  steps : f.stepsDue.2 = .ok n
  runs : ((f.machine.applyAll (f.inbox.operationsOf es)).run n).result = .ok drew
  ticks : f.ticksDue.2 = .ok t
  machine : g.machine = ((f.machine.applyAll (f.inbox.operationsOf es)).run n).machine.ticks t
  stepBudget : g.stepBudget = f.stepsDue.1.stepBudget
  timerBudget : g.timerBudget = f.ticksDue.1.timerBudget
  inbox : g.inbox = f.inbox.after es
  config : g.config = f.config
  palette : g.palette = f.palette
  room : g.host.room = f.host.room
  dirty : g.dirty = false
  tone : ∃ host, Beeper.Beeps (0 < g.machine.regs.st) f.beeper
    (f.pictured es drew g.machine.screen) g.beeper host ∧
    g.host = { host with
      clock := g.host.clock, calls := .tick f.config.frameRate :: host.calls }

theorem Redraws.beeper {es : List HostEvent} {n t : Nat} {drew : Bool}
    (h : f.Redraws es n t drew g) : g.beeper = f.beeper := by
  obtain ⟨trace, output, hg⟩ := h.state
  rw [hg]

theorem Redraws.completes {es : List HostEvent} {n t : Nat} {drew : Bool} {k : Frontend}
    (h : f.Redraws es n t drew g) (hk : g.Finishes k) : f.Completes es n t drew k := by
  have hroom := hk.room
  obtain ⟨trace, output, hg⟩ := h.state
  obtain ⟨beeper, host, clock, output', hbeeps, rfl⟩ := hk
  have hhost : g.host = f.pictured es drew g.machine.screen := by rw [hg]
  have hconfig : g.config = f.config := by rw [hg]
  rw [h.beeper, hhost] at hbeeps
  obtain ⟨_, _, _, htyped, _⟩ := hbeeps.unseen
  have hinbox : (⟨g.running, host.typed⟩ : Inbox) = f.inbox.after es := by
    rw [htyped, hg]
    rfl
  exact {
    steps := h.steps
    runs := h.runs
    ticks := h.ticks
    machine := h.machine
    stepBudget := by rw [hg]
    timerBudget := by rw [hg]
    inbox := hinbox
    config := hconfig
    palette := by rw [hg]
    room := hroom.trans (by rw [hhost]; rfl)
    dirty := by rw [hg]
    tone := ⟨host, hbeeps, by rw [hconfig]⟩ }

theorem Completes.running {es : List HostEvent} {n t : Nat} {drew : Bool}
    (h : f.Completes es n t drew g) : g.running = (f.running && !f.inbox.quitsOn es) :=
  (congrArg Inbox.running h.inbox).trans (f.inbox.after_running es)

theorem Completes.inRange {es : List HostEvent} {n t : Nat} {drew : Bool}
    (h : f.Completes es n t drew g) (hr : f.machine.InRange) : g.machine.InRange := by
  rw [h.machine, Machine.run_eq, Machine.ticks_eq]
  exact Machine.inRange_kept.applyAll
    (Machine.inRange_kept.applyAll (Machine.inRange_kept.applyAll hr _) _) _

/-- Why a frame breaks off: the processor stopped, and the machine stands where it did, or the
picture or the tone was not to be had. -/
inductive Breaks (f : Frontend) (es : List HostEvent) : Frontend → FrontendError → Prop
  | stopped {g : Frontend} {n : Nat} {fault : Fault} : f.stepsDue.2 = .ok n →
      ((f.machine.applyAll (f.inbox.operationsOf es)).run n).result = .error fault →
      fault.isProcessor = true →
      g.machine = ((f.machine.applyAll (f.inbox.operationsOf es)).run n).machine →
      f.Breaks es g (.stopped g.machine.regs.pc fault)
  | picture {g : Frontend} {n t : Nat} {drew : Bool} {e : Invalid} : f.stepsDue.2 = .ok n →
      ((f.machine.applyAll (f.inbox.operationsOf es)).run n).result = .ok drew →
      f.ticksDue.2 = .ok t → (f.dirty || drew) = true →
      Picture.renderAt f.host.room f.palette f.config.scale
        (((f.machine.applyAll (f.inbox.operationsOf es)).run n).machine.ticks t).screen = .error e →
      f.Breaks es g (.invalid e)
  | tone {g g' : Frontend} {n t : Nat} {drew : Bool} {b : Beeper} {e : ToneError} :
      f.Redraws es n t drew g' → f.beeper = some b →
      (b.set (0 < g'.machine.regs.st) g'.host).1 = .error e → f.Breaks es g (.tone e)

/-- Why a frame fails: it breaks off, or a number is not to be had, or an instruction failed that
is not the processor's to answer for. -/
inductive Fails (f : Frontend) (es : List HostEvent) : Frontend → FrontendError → Prop
  | breaks {g : Frontend} {e : FrontendError} : f.Breaks es g e → f.Fails es g e
  | steps {g : Frontend} {e : NumberError} : f.stepsDue.2 = .error e → f.Fails es g (.number e)
  | ticks {g : Frontend} {e : NumberError} : f.ticksDue.2 = .error e → f.Fails es g (.number e)
  | fault {g : Frontend} {n : Nat} {fault : Fault} : f.stepsDue.2 = .ok n →
      ((f.machine.applyAll (f.inbox.operationsOf es)).run n).result = .error fault →
      fault.isProcessor = false → f.Fails es g (.fault fault)

theorem redrawn_error {es : List HostEvent} {e : FrontendError}
    (h : f.redrawn es = (g, .error e)) : f.Fails es g e := by
  obtain ⟨output, hevents⟩ := f.events_eq es
  unfold redrawn at h
  rw [hevents] at h
  rcases andThen_error h with hsteps | ⟨f₁, drew, hsteps, h⟩
  · rcases stepFrame_error hsteps with ⟨e', he, rfl⟩ | ⟨n, fault, hn, hrun, hm, rfl⟩
    · exact .steps he
    · cases hp : fault.isProcessor with
      | true => exact .breaks (.stopped hn hrun hp hm)
      | false => exact .fault hn hrun hp
  · obtain ⟨n, trace, output, hn, hrun, rfl⟩ := stepFrame_ok hsteps
    rcases andThen_error h with hticks | ⟨f₂, t, hticks, h⟩
    · obtain ⟨e', he, rfl⟩ := tickFrame_error hticks
      exact .ticks he
    · obtain ⟨ht, rfl⟩ := tickFrame_ok hticks
      obtain ⟨hdirty, e', he, rfl⟩ := present_error h
      exact .breaks (.picture hn hrun ht hdirty he)

theorem frame_error {es : List HostEvent} {e : FrontendError}
    (h : f.frame es = (g, .error e)) : f.Fails es g e := by
  obtain ⟨began, before, heq⟩ := f.frame_eq es
  rw [heq] at h
  rcases andThen_error h with hredrawn | ⟨g', ⟨⟩, hredrawn, hfinished⟩
  · exact redrawn_error hredrawn
  · obtain ⟨n, t, drew, hg⟩ := redrawn_ok hredrawn
    obtain ⟨b, e', hb, rfl, he⟩ := finished_error hfinished
    exact .breaks (.tone hg (hg.beeper.symm.trans hb) he)

/-- A frame succeeds where its instructions do, and what is due, the picture and the tone are
to be had. -/
theorem frame_succeeds (es : List HostEvent) {n t : Nat} {drew : Bool}
    (hn : f.stepsDue.2 = .ok n) (ht : f.ticksDue.2 = .ok t)
    (hrun : ((f.machine.applyAll (f.inbox.operationsOf es)).run n).result = .ok drew)
    (hpicture : ∀ screen : Screen 64 32,
      ∃ p, Picture.renderAt f.host.room f.palette f.config.scale screen = .ok p)
    (htone : ∀ b, f.beeper = some b →
      ∃ samples, Tone.squareWave b.sampleRate b.frequency Tone.defaultAmplitude = .ok samples) :
    ∃ g k, f.frame es = (k, .ok ()) ∧ f.redrawn es = (g, .ok ()) ∧ f.Redraws es n t drew g ∧
      g.Finishes k := by
  rcases hframe : f.frame es with ⟨k, e | ⟨⟩⟩
  · exfalso
    have failing {n' : Nat} {fault : Fault} (hn' : f.stepsDue.2 = .ok n') : ¬
        ((f.machine.applyAll (f.inbox.operationsOf es)).run n').result = .error fault := by
      cases hn.symm.trans hn'
      rw [hrun]
      exact nofun
    cases frame_error hframe with
    | steps he => cases hn.symm.trans he
    | ticks he => cases ht.symm.trans he
    | fault hn' he _ => exact failing hn' he
    | breaks h =>
      cases h with
      | stopped hn' he => exact failing hn' he
      | picture _ _ _ _ he =>
        obtain ⟨p, hp⟩ := hpicture _
        cases hp.symm.trans he
      | tone _ hb he =>
        obtain ⟨samples, hs⟩ := htone _ hb
        cases hs.symm.trans ((Beeper.set_unseen _ _ _).2 _ he)
  · obtain ⟨g, hredrawn, hfinishes⟩ := frame_ok hframe
    obtain ⟨n', t', drew', h⟩ := redrawn_ok hredrawn
    cases hn.symm.trans h.steps
    cases ht.symm.trans h.ticks
    cases hrun.symm.trans h.runs
    exact ⟨g, k, rfl, hredrawn, h, hfinishes⟩

end Frontend

end Chip8
