import Chip8.Proofs.Frontend.Stages
import Mathlib.Data.List.Chain
import Mathlib.Data.List.DropRight

/-!
Sessions of the frontend. What is open when the loop begins (`opened_fresh`), and the turns of
the loop: one frame after the other from there, as long as they succeed and the frontend runs
(`loop_turns`).
-/

namespace Chip8

/-- Between two states of a host: calls that leave the tone alone, and answers of the mixer that
were used up. -/
def Host.Asked (h h' : Host) : Prop :=
  ∃ mixer calls, h' = { h with mixer, calls } ∧ mixer ⊆ h.mixer ∧ h.Aside h'

namespace Host.Asked

theorem refl (h : Host) : h.Asked h := ⟨h.mixer, h.calls, rfl, List.Subset.refl _, .refl h⟩

theorem trans {h h' h'' : Host} (e : h.Asked h') (e' : h'.Asked h'') : h.Asked h'' := by
  obtain ⟨_, _, rfl, hm, ha⟩ := e
  obtain ⟨mixer, calls, rfl, hm', ha'⟩ := e'
  exact ⟨mixer, calls, rfl, List.Subset.trans hm' hm, ha.trans ha'⟩

theorem call (h : Host) {c : HostCall} (hc : c.isAside = true) : h.Asked (h.call c) :=
  ⟨h.mixer, c :: h.calls, rfl, List.Subset.refl _, .call h hc⟩

theorem askMixer (h : Host) : h.Asked h.askMixer.2 := by
  unfold Host.askMixer
  split
  · exact .refl h
  · exact .refl h
  · next answer rest _ hm =>
    exact ⟨rest, h.calls, rfl, hm ▸ List.subset_cons_self answer rest, .of_calls rfl⟩

end Host.Asked

theorem Host.askMixer_mem {h : Host} {rate : Quantity} (hr : h.askMixer.1 = some rate) :
    some rate ∈ h.mixer := by
  unfold askMixer at hr
  split at hr <;> simp_all

theorem Beeper.create_asked (rate frequency volume : Quantity) (h : Host) :
    h.Asked (create rate frequency volume h).2 ∧
      ∀ b, (create rate frequency volume h).1 = .ok b →
        b.frequency = frequency ∧ b.sampleRate = rate.atLeastOne ∧ b.playing = false := by
  have hask := Host.Asked.askMixer h
  unfold create
  split
  · exact ⟨.refl h, fun _ hb => by cases hb⟩
  · generalize h.askMixer = r at hask ⊢
    obtain ⟨_ | answer, h'⟩ := r
    · exact ⟨hask, fun _ hb => by cases hb⟩
    · refine ⟨hask, fun b hb => ?_⟩
      cases hb
      exact ⟨rfl, rfl, rfl⟩

/-- A beeper with the standard tone, at one of the rates that a mixer gives. -/
def Beeper.Standard (mixer : List (Option Quantity)) (b : Beeper) : Prop :=
  b.frequency = Tone.defaultFrequency ∧ ∃ rate, some rate ∈ mixer ∧ b.sampleRate = rate.atLeastOne

namespace Frontend

/-- Nothing but the sound is set up, and nothing is heard of it. -/
def Tuned (f g : Frontend) : Prop :=
  ∃ beeper host output, g = { f with beeper, host, output } ∧ f.host.Asked host ∧
    ∀ b, beeper = some b → f.beeper = some b ∨ b.Standard f.host.mixer ∧ b.playing = false

namespace Tuned

variable {f g h : Frontend}

theorem refl (f : Frontend) : Tuned f f :=
  ⟨f.beeper, f.host, f.output, rfl, .refl _, fun _ => .inl⟩

theorem trans (e : Tuned f g) (e' : Tuned g h) : Tuned f h := by
  obtain ⟨_, _, _, rfl, ha, hb⟩ := e
  obtain ⟨beeper, host, output, rfl, ha', hb'⟩ := e'
  refine ⟨beeper, host, output, rfl, ha.trans ha', fun b hbeeper => ?_⟩
  rcases hb' b hbeeper with hold | ⟨⟨hfreq, rate, hmem, hrate⟩, hsilent⟩
  · exact hb b hold
  · obtain ⟨mixer, _, rfl, hsub, -⟩ := ha
    exact .inr ⟨⟨hfreq, rate, hsub hmem, hrate⟩, hsilent⟩

theorem call (f : Frontend) {c : HostCall} (hc : c.isAside = true) : Tuned f (f.call c) :=
  ⟨f.beeper, f.host.call c, f.output, rfl, .call _ hc, fun _ => .inl⟩

theorem askMixer (f : Frontend) : Tuned f f.askMixer.2 :=
  ⟨f.beeper, f.host.askMixer.2, f.output, rfl, .askMixer _, fun _ => .inl⟩

theorem logText (f : Frontend) (category text : String) : Tuned f (f.logText category text) := by
  unfold Frontend.logText
  split
  · exact ⟨f.beeper, f.host, _, rfl, .refl _, fun _ => .inl⟩
  · exact .refl f

end Tuned

theorem askMixer_mem {f : Frontend} {rate : Quantity} (hr : f.askMixer.1 = some rate) :
    some rate ∈ f.host.mixer := Host.askMixer_mem hr

theorem makeBeeper_tuned (f : Frontend) : Tuned f f.makeBeeper := by
  have hask := Tuned.askMixer f
  have hmem := @askMixer_mem f
  unfold makeBeeper
  generalize f.askMixer = r at hask hmem ⊢
  obtain ⟨_ | rate, g⟩ := r
  · exact hask.trans (.logText _ _ _)
  · dsimp only at hask hmem ⊢
    obtain ⟨beeper, host, output, rfl, ha, hb⟩ := hask
    have hcreate := Beeper.create_asked rate Tone.defaultFrequency Beeper.defaultVolume host
    dsimp only
    generalize Beeper.create rate Tone.defaultFrequency Beeper.defaultVolume host = r at hcreate ⊢
    obtain ⟨e | b₁, host'⟩ := r
    · exact .trans ⟨beeper, host', output, rfl, ha.trans hcreate.1, hb⟩ (.logText _ _ _)
    · refine ⟨some b₁, host', output, rfl, ha.trans hcreate.1, fun b h => ?_⟩
      cases h
      obtain ⟨hfreq, hrate, hsilent⟩ := hcreate.2 b₁ rfl
      exact .inr ⟨⟨hfreq, rate, hmem rfl, hrate⟩, hsilent⟩

theorem openSound_tuned (f : Frontend) : Tuned f f.openSound := by
  have hask := Tuned.askMixer f
  unfold openSound
  generalize f.askMixer = r at hask ⊢
  obtain ⟨_ | rate, g⟩ := r
  · dsimp only at hask ⊢
    have hcall : Tuned f (g.call .mixerInit) := hask.trans (.call g rfl)
    split
    · exact hcall.trans (.logText _ _ _)
    · exact hcall.trans (makeBeeper_tuned _)
  · exact hask.trans (makeBeeper_tuned _)

theorem whenSound_tuned (f : Frontend) {g : Frontend → Frontend} (hg : ∀ f, Tuned f (g f)) :
    Tuned f (f.whenSound g) := by
  unfold whenSound
  split
  · exact hg f
  · exact .refl f

/-- The frontend with which the loop begins. -/
def begun (f : Frontend) (title : String) : Frontend := { f.openWindow title with running := true }

/-- **When the loop begins there is a window, and nothing else but the sound was set up.** -/
theorem begun_opens (f : Frontend) (title : String) :
    Tuned { f with window := true, running := true } (f.begun title) := by
  have hpre : Tuned f (f.whenSound (·.call .preInit)) :=
    f.whenSound_tuned fun f => .call f rfl
  unfold begun openWindow
  dsimp only
  generalize f.whenSound (·.call .preInit) = f₁ at hpre ⊢
  have hsound := Frontend.whenSound_tuned
    { (f₁.call .init).call (.caption title) with window := true } openSound_tuned
  generalize whenSound _ openSound = f₂ at hsound ⊢
  have hwindow : Tuned { f with window := true }
      { (f₁.call .init).call (.caption title) with window := true } := by
    obtain ⟨beeper, host, output, rfl, ha, hb⟩ := hpre
    exact ⟨beeper, _, output, rfl, (ha.trans (.call _ rfl)).trans (.call _ rfl), hb⟩
  obtain ⟨beeper, host, output, rfl, ha, hb⟩ := hwindow.trans hsound
  exact ⟨beeper, _, output, rfl, ha.trans (.call _ rfl), hb⟩

/-! ## Turns of the loop -/

/-- A frame of the loop: the frontend before it and the events it is given. -/
structure Turn where
  before : Frontend
  events : List HostEvent

namespace Turn

/-- What comes of the frame. -/
def outcome (t : Turn) : Frontend × Except FrontendError Unit := t.before.frame t.events

end Turn

/-- The turns of a loop, up to one that fails or stops the frontend. -/
def turns (f : Frontend) : List (List HostEvent) → List Turn
  | [] => [⟨f, [.quit]⟩]
  | es :: rest =>
    ⟨f, es⟩ :: match f.frame es with
      | (_, .error _) => []
      | (g, .ok ()) => if g.running then g.turns rest else []

/-- The loop goes on from `t` to `t'`. -/
def Turn.Next (t t' : Turn) : Prop :=
  t.outcome = (t'.before, .ok ()) ∧ t'.before.running = true

theorem turns_head (f : Frontend) (script : List (List HostEvent)) :
    ∃ es rest, f.turns script = ⟨f, es⟩ :: rest := by
  cases script <;> exact ⟨_, _, rfl⟩

theorem turns_cons {f g : Frontend} {es : List HostEvent} (h : f.frame es = (g, .ok ()))
    (hg : g.running = true) (script : List (List HostEvent)) :
    f.turns (es :: script) = ⟨f, es⟩ :: g.turns script := by
  rw [turns, h]
  simp [hg]

/-- **The loop is its turns**: each goes on from where the one before it ended, and what comes
of the last comes of the loop. -/
theorem loop_turns (f : Frontend) (script : List (List HostEvent)) :
    (f.turns script).IsChain Turn.Next ∧
      ∃ t, (f.turns script).getLast? = some t ∧ f.loop script = t.outcome := by
  induction script generalizing f with
  | nil => exact ⟨.singleton _, _, rfl, rfl⟩
  | cons es rest ih =>
    unfold turns loop
    rcases hframe : f.frame es with ⟨g, e | ⟨⟩⟩
    · exact ⟨.singleton _, ⟨f, es⟩, rfl, hframe.symm⟩
    · dsimp only
      cases hg : g.running with
      | false =>
        exact ⟨.singleton _, ⟨f, es⟩, rfl, hframe.symm⟩
      | true =>
        obtain ⟨hchain, t, hlast, hloop⟩ := ih g
        obtain ⟨es', rest', hturns⟩ := g.turns_head rest
        rw [if_pos rfl, if_pos rfl]
        rw [hturns] at hchain hlast ⊢
        exact ⟨.cons_cons ⟨hframe, hg⟩ hchain, t, hlast, hloop⟩

end Frontend

namespace Config

variable {c : Config} {palette : Palette} {categories : Categories} {entropy : Entropy}
  {files : Files} {h : Host} {path : Path} {m : Machine}

/-- The frontend of a run at the start of its loop. -/
def opened (c : Config) (palette : Palette) (categories : Categories) (h : Host) (path : Path)
    (data : Except PathFault Contents) (m : Machine) : Frontend :=
  ((Frontend.start c categories palette m h).say
    (categories.print (Frontend.readEvents h.room data))).begun (title path)

/-- What a frontend is like at the start of its loop. -/
structure Fresh (c : Config) (palette : Palette) (h : Host) (m : Machine) (f : Frontend) :
    Prop where
  config : f.config = c
  palette : f.palette = palette
  room : f.host.room = h.room
  machine : f.machine = m
  dirty : f.dirty = true
  stepBudget : f.stepBudget = 0.0
  timerBudget : f.timerBudget = 0.0
  inbox : f.inbox = ⟨true, h.typed⟩
  frames : f.host.frames = h.frames
  beeper : ∀ b, f.beeper = some b → b.Standard h.mixer

theorem opened_fresh (c : Config) (palette : Palette) (categories : Categories) (h : Host)
    (path : Path) (data : Except PathFault Contents) (m : Machine) :
    Fresh c palette h m (c.opened palette categories h path data m) := by
  obtain ⟨beeper, host, output, heq, ⟨mixer, calls, rfl, _, _⟩, hbeeper⟩ := Frontend.begun_opens
    ((Frontend.start c categories palette m h).say
      (categories.print (Frontend.readEvents h.room data))) (title path)
  rw [opened, heq]
  exact ⟨rfl, rfl, rfl, rfl, rfl, rfl, rfl, rfl, rfl,
    fun b hb => ((hbeeper b hb).resolve_left nofun).1⟩

/-- Nothing is heard before the loop. -/
theorem opened_heard (c : Config) (palette : Palette) (categories : Categories) (h : Host)
    (path : Path) (data : Except PathFault Contents) (m : Machine) :
    let f := c.opened palette categories h path data m
    Beeper.Heard h.calls f.beeper f.host := by
  intro f
  obtain ⟨beeper, host, output, heq, ⟨_, _, _, _, haside⟩, hbeeper⟩ := Frontend.begun_opens
    ((Frontend.start c categories palette m h).say
      (categories.print (Frontend.readEvents h.room data))) (title path)
  have hf : f = _ := heq
  have hsilent (b : Beeper) (hb : f.beeper = some b) : b.playing = false := by
    rw [hf] at hb
    exact ((hbeeper b hb).resolve_left nofun).2
  rw [hf] at hsilent ⊢
  exact (Beeper.Heard.of_silent rfl hsilent).aside haside

/-- A run that has a library and a machine is a loop, behind which everything is closed. -/
theorem run_loop (hlib : h.missing = false) (hpath : c.romPath = some path)
    (hm : Frontend.machineFrom c h.room entropy path (files.read path) = .ok m) :
    c.run palette categories entropy files h = .ofFrontend
      (Frontend.andThen ((c.opened palette categories h path (files.read path) m).loop h.frames)
        fun f () => (f.close, .ok ())) := by
  have hframes := (opened_fresh c palette categories h path (files.read path) m).frames
  unfold run
  simp only [hlib, hpath, hm, Bool.false_eq_true, ↓reduceIte]
  rw [← hframes]
  rfl

/-- A machine that a frontend accepts was created from the program of its file. -/
theorem machineFrom_ok {room : Room} {data : Except PathFault Contents}
    (hm : Frontend.machineFrom c room entropy path data = .ok m) :
    ∃ program, Machine.create program c.dialect c.strict entropy = .ok m := by
  unfold Frontend.machineFrom at hm
  split at hm
  · cases hm
  · cases hm
  · split at hm
    · cases hm
    · split at hm
      · cases hm
      · cases hm
        exact ⟨_, ‹_›⟩

end Config

/-! ## A short session -/

/-- A program that draws a digit and then clears the screen. -/
def Machine.digitThenClear : Array UInt8 := #[0xD0, 0x05, 0x00, 0xE0]

namespace Config

def digitPath : Path := ⟨"", ["digit.ch8"]⟩

/-- One instruction to a frame. -/
def digitConfig : Config :=
  { Config.standard with
    romPath := some digitPath, scale := .whole 1, clockHz := .whole 60, sound := false }

def digitFiles : Files := .only digitPath (.file (.bytes Machine.digitThenClear))

/-- Two frames without events. -/
def digitHost : Host := { Host.quiet with frames := [[], []] }

def digitEntropy : Entropy := .closed

theorem digit_machineFrom {m : Machine}
    (hc : Machine.create Machine.digitThenClear .modern false digitEntropy = .ok m) :
    Frontend.machineFrom digitConfig digitHost.room digitEntropy digitPath
      (digitFiles.read digitPath) = .ok m := by
  show (Machine.create Machine.digitThenClear .modern false digitEntropy).mapError
    (FrontendError.machineRejected digitPath) = _
  rw [hc]
  rfl

theorem digit_machine : ∃ m, Frontend.machineFrom digitConfig digitHost.room digitEntropy digitPath
    (digitFiles.read digitPath) = .ok m := by
  obtain ⟨memory, _, hc⟩ := Machine.create_eq Machine.digitThenClear (by decide) .modern false
    digitEntropy
  exact ⟨_, digit_machineFrom hc⟩

end Config

end Chip8
