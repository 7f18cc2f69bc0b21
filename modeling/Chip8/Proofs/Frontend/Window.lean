import Chip8.Proofs.Frontend.History
import Chip8.Proofs.Frontend.Session
import Chip8.Proofs.Screen.Picture

/-!
What the window shows. A frame in which an instruction draws is shown; a frame in which none
does leaves the window as it is, whatever else it does to the screen. So the window shows what the
screen was in the last frame that was shown, and that is what it is now, unless it was cleared since
then and is blank (`window_current`).
-/

namespace Chip8

/-! ## Pictures among the calls of a host -/

/-- The picture handed over last. -/
def blitted : List HostCall → Option Picture
  | [] => none
  | .blit p :: _ => some p
  | _ :: calls => blitted calls

/-- The picture that a window shows: the one handed over last before the last flip. -/
def shown : List HostCall → Option Picture
  | [] => none
  | .flip :: calls => blitted calls
  | _ :: calls => shown calls

theorem shown_append {calls : List HostCall} (h : ∀ c ∈ calls, c.isPicture = false)
    (before : List HostCall) : shown (calls ++ before) = shown before := by
  induction calls with
  | nil => rfl
  | cons c calls ih =>
    obtain ⟨hc, hcalls⟩ := List.forall_mem_cons.mp h
    rw [← ih hcalls]
    cases c with
    | blit | flip => cases hc
    | _ => rfl

theorem isPicture_of_mem_clears {window : Bool} {es : List HostEvent} {c : HostCall}
    (h : c ∈ Frontend.clears window es) : c.isPicture = false := by
  rw [Frontend.eq_of_mem_clears h]
  rfl

/-! ## The screen between two pictures -/

/-- The events of a frame are keys, and resets. -/
theorem Inbox.mem_operationsOf {b : Inbox} {es : List HostEvent} {op : Operation}
    (h : op ∈ b.operationsOf es) : (∃ i, op = .keyDown i ∨ op = .keyUp i) ∨ op = .reset := by
  have edge {name : String} {pressed : Bool} (h : op ∈ Keypad.edges name pressed) :
      ∃ i, op = .keyDown i ∨ op = .keyUp i := by
    obtain ⟨i, _, rfl⟩ := List.mem_map.mp h
    cases pressed
    · exact ⟨_, .inr rfl⟩
    · exact ⟨_, .inl rfl⟩
  induction es generalizing b with
  | nil => cases h
  | cons e es ih =>
    rcases List.mem_append.mp h with h | h
    · cases e with
      | up name => exact .inl (edge h)
      | quit | other => cases h
      | down name =>
        unfold operations at h
        dsimp only at h
        split at h
        · obtain ⟨c, _, hc⟩ := List.mem_flatMap.mp h
          cases c with
          | reset => exact .inr (by simpa [ShellCommand.operations] using hc)
          | _ => cases hc
        · exact .inl (edge h)
    · exact ih h

namespace Machine

@[simp] theorem setKey_screen (m : Machine) (i : Fin 16) (pressed : Bool) :
    (m.setKey i pressed).machine.screen = m.screen := by
  simp only [setKey, keyEdge]
  split <;> rfl

@[simp] theorem key_screen (m : Machine) (i : Int) (pressed : Bool) :
    (m.key i pressed).machine.screen = m.screen := by
  unfold key
  split
  · exact m.setKey_screen _ pressed
  · rfl

theorem reset_screen (m : Machine) :
    m.reset.machine.screen = m.screen ∨ m.reset.machine.screen = .blank := by
  unfold reset
  split
  · exact .inl rfl
  · split
    · exact .inl rfl
    · exact .inr rfl

/-- Keys leave the screen alone, and a reset clears it. -/
theorem applyAll_screen {ops : List Operation}
    (h : ∀ op ∈ ops, (∃ i, op = .keyDown i ∨ op = .keyUp i) ∨ op = .reset) (m : Machine) :
    (m.applyAll ops).screen = m.screen ∨
      Operation.reset ∈ ops ∧ (m.applyAll ops).screen = .blank := by
  induction ops generalizing m with
  | nil => exact .inl rfl
  | cons op ops ih =>
    obtain ⟨hop, hops⟩ := List.forall_mem_cons.mp h
    rcases ih hops (m.apply op).machine with hsame | ⟨hreset, hblank⟩
    · rw [applyAll, hsame]
      rcases hop with ⟨i, rfl | rfl⟩ | rfl
      · exact .inl (m.key_screen i true)
      · exact .inl (m.key_screen i false)
      · rcases m.reset_screen with hm | hm
        · exact .inl hm
        · exact .inr ⟨List.mem_cons_self, hm⟩
    · exact .inr ⟨List.mem_cons_of_mem _ hreset, hblank⟩

@[simp] theorem ticks_screen (m : Machine) (n : Nat) : (m.ticks n).screen = m.screen := by
  induction n generalizing m with
  | zero => rfl
  | succ n ih => exact ih m.tick

end Machine

namespace Frontend

open Machine (Executed clearWord)

namespace Turn

/-- The steps that the frame executes. -/
def steps (t : Turn) : List Executed := (t.before.events t.events).frameSteps

/-- Whether the window is drawn again. -/
def redraws (t : Turn) : Bool := t.before.dirty || t.steps.any (·.drew)

/-- The last turn that drew the window again. -/
def latest (ts : List Turn) : Option Turn := (ts.filter (·.redraws)).getLast?

/-- The frame clears the screen: a debug shell resets the machine, or an instruction does. -/
def Clears (t : Turn) : Prop :=
  .reset ∈ t.before.inbox.operationsOf t.events ∨
    ∃ s ∈ t.steps, s.before.fetch = clearWord

/-- Since the window was drawn last, the screen was cleared. -/
def Cleared (ts : List Turn) : Prop := ∃ t ∈ ts.rtakeWhile (!·.redraws), t.Clears

variable {ts : List Turn} {t : Turn}

theorem latest_push_of_redraws (ht : t.redraws = true) : latest (ts ++ [t]) = some t := by
  simp [latest, ht]

theorem latest_push (ht : t.redraws = false) : latest (ts ++ [t]) = latest ts := by
  simp [latest, ht]

theorem Cleared.push (h : Cleared ts) (ht : t.redraws = false) : Cleared (ts ++ [t]) := by
  obtain ⟨u, hu, hclears⟩ := h
  refine ⟨u, ?_, hclears⟩
  rw [List.rtakeWhile_concat_pos _ _ _ (by simp [ht])]
  exact List.mem_append_left _ hu

theorem Cleared.redraws_eq_false (h : Cleared (ts ++ [t])) : t.redraws = false := by
  obtain ⟨u, hu, -⟩ := h
  cases ht : t.redraws with
  | false => rfl
  | true =>
    rw [List.rtakeWhile_concat_neg _ _ _ (by simp [ht])] at hu
    cases hu

theorem cleared_of_clears (h : t.Clears) (ht : t.redraws = false) : Cleared (ts ++ [t]) := by
  refine ⟨t, ?_, h⟩
  rw [List.rtakeWhile_concat_pos _ _ _ (by simp [ht])]
  exact List.mem_append_right _ List.mem_cons_self

end Turn

/-- The window shows what the screen was when the last turn that drew it had drawn it. The screen
is the same now, or it was cleared since then and is blank. -/
def UpToDate (f : Frontend) (past : List Turn) : Prop :=
  ∃ t d picture, Turn.latest past = some t ∧ t.before.redrawn t.events = (d, .ok ()) ∧
    Picture.renderAt f.host.room f.palette f.config.scale d.machine.screen = .ok picture ∧
    shown f.host.calls = some picture ∧
    (f.machine.screen = d.machine.screen ∨ Turn.Cleared past ∧ f.machine.screen = .blank)

variable {f g : Frontend} {es : List HostEvent} {n t : Nat} {drew : Bool}

theorem events_frameSteps (hn : f.stepsDue.2 = .ok n) :
    (f.events es).frameSteps = (f.machine.applyAll (f.inbox.operationsOf es)).executed n := by
  obtain ⟨output, h⟩ := f.events_eq es
  have hdue : (f.events es).stepsDue.2 = .ok n := by
    rw [h]
    exact hn
  unfold frameSteps
  rw [hdue, h]

theorem Redraws.redraws (h : f.Redraws es n t drew g) :
    Turn.redraws ⟨f, es⟩ = (f.dirty || drew) := by
  rw [Machine.run_drew h.runs]
  exact congrArg (fun steps : List Executed => f.dirty || steps.any (·.drew))
    (events_frameSteps h.steps)

/-- The calls by which a frame as far as its picture comes to show what it shows. -/
theorem Redraws.shown (h : f.Redraws es n t drew g) :
    shown g.host.calls =
      if f.dirty || drew then
        (Picture.renderAt f.host.room f.palette f.config.scale g.machine.screen).toOption
      else Chip8.shown f.host.calls := by
  obtain ⟨trace, output, hg⟩ := h.state
  have hcalls : g.host.calls =
      redraw (f.dirty || drew) f.host.room f.palette f.config.scale g.machine.screen ++
        (clears f.window es ++ f.host.calls) := by
    conv_lhs => rw [hg]
    rfl
  rw [hcalls]
  unfold redraw
  cases hdrew : f.dirty || drew with
  | false => exact shown_append (fun _ => isPicture_of_mem_clears) _
  | true =>
    obtain ⟨p, hp⟩ := h.picture hdrew
    simp only [hp]
    rfl

theorem Redraws.screen (hr : f.machine.InRange) (h : f.Redraws es n t false g) :
    g.machine.screen = f.machine.screen ∨
      Turn.Clears ⟨f, es⟩ ∧ g.machine.screen = .blank := by
  rw [h.machine, Machine.ticks_screen]
  have hops := Machine.applyAll_screen
    (fun op (hop : op ∈ f.inbox.operationsOf es) => Inbox.mem_operationsOf hop) f.machine
  rcases (Machine.inRange_kept.applyAll hr _).run_screen h.runs with hsame | ⟨hcleared, hblank⟩
  · rw [hsame]
    exact hops.imp id fun ⟨hreset, hblank⟩ => ⟨.inl hreset, hblank⟩
  · rw [← events_frameSteps h.steps] at hcleared
    exact .inr ⟨.inr hcleared, hblank⟩

theorem Redraws.kept (h : f.Redraws es n t drew g) :
    g.palette = f.palette ∧ g.config = f.config ∧ g.host.room = f.host.room := by
  obtain ⟨trace, output, hg⟩ := h.state
  rw [hg]
  exact ⟨rfl, rfl, rfl⟩

/-- **A frame keeps the window up to date**, as far as its picture. -/
theorem Redraws.upToDate (hr : f.machine.InRange) {past : List Turn}
    (hf : f.dirty = true ∨ f.UpToDate past) (hg : f.redrawn es = (g, .ok ()))
    (h : f.Redraws es n t drew g) : g.UpToDate (past ++ [⟨f, es⟩]) := by
  obtain ⟨hpalette, hconfig, hroom⟩ := h.kept
  have hshown := h.shown
  have hredraws := h.redraws
  unfold UpToDate
  rw [hpalette, hconfig, hroom]
  cases hdrew : f.dirty || drew with
  | true =>
    obtain ⟨p, hp⟩ := h.picture hdrew
    rw [if_pos hdrew, hp] at hshown
    exact ⟨⟨f, es⟩, g, p, Turn.latest_push_of_redraws (hredraws.trans hdrew), hg, hp, hshown,
      .inl rfl⟩
  | false =>
    rw [hdrew] at hredraws hshown
    obtain ⟨hdirty, rfl⟩ := Bool.or_eq_false_iff.mp hdrew
    obtain ⟨t, d, p, ht, hd, hp, hold, hscreen⟩ := hf.resolve_left (by simp [hdirty])
    refine ⟨t, d, p, (Turn.latest_push hredraws).trans ht, hd, hp, hshown.trans hold, ?_⟩
    rcases h.screen hr with hsame | ⟨hclears, hblank⟩
    · rw [hsame]
      exact hscreen.imp id fun ⟨hcleared, hblank⟩ => ⟨hcleared.push hredraws, hblank⟩
    · exact .inr ⟨Turn.cleared_of_clears hclears hredraws, hblank⟩

/-- What comes behind the picture shows nothing. -/
theorem Finishes.shown (h : f.Finishes g) :
    Chip8.shown g.host.calls = Chip8.shown f.host.calls := by
  obtain ⟨beeper, host, clock, output, hbeeps, rfl⟩ := h
  obtain ⟨_, _, calls, rfl, hcalls⟩ := hbeeps.unseen
  exact shown_append hcalls _

theorem Finishes.upToDate (h : f.Finishes g) {past : List Turn} (hf : f.UpToDate past) :
    g.UpToDate past := by
  obtain ⟨t, d, p, ht, hd, hp, hold, hscreen⟩ := hf
  have hshown := h.shown.trans hold
  rw [← h.room] at hp
  obtain ⟨beeper, host, clock, output, -, rfl⟩ := h
  exact ⟨t, d, p, ht, hd, hp, hshown, hscreen⟩

namespace Turn

/-- Before a turn, behind those of the `past`: the window is to be drawn, or up to date. -/
structure Ready (room : Room) (palette : Palette) (c : Config) (past : List Turn) (t : Turn) :
    Prop where
  room : t.before.host.room = room
  palette : t.before.palette = palette
  config : t.before.config = c
  inRange : t.before.machine.InRange
  window : t.before.dirty = true ∨ t.before.UpToDate past

variable {room : Room} {palette : Palette} {c : Config} {past : List Turn} {t t' : Turn}

theorem Ready.upToDate (h : t.Ready room palette c past) {g : Frontend}
    (hg : t.before.redrawn t.events = (g, .ok ())) :
    g.host.room = room ∧ g.palette = palette ∧ g.config = c ∧ g.UpToDate (past ++ [t]) := by
  obtain ⟨n, ticks, drew, hr⟩ := redrawn_ok hg
  obtain ⟨hpalette, hconfig, hroom⟩ := hr.kept
  exact ⟨hroom.trans h.room, hpalette.trans h.palette, hconfig.trans h.config,
    hr.upToDate h.inRange h.window hg⟩

theorem Ready.next (h : t.Ready room palette c past) (hn : t.Next t') :
    t'.Ready room palette c (past ++ [t]) := by
  obtain ⟨g, hredrawn, hfinishes⟩ := frame_ok hn.1
  obtain ⟨n, ticks, drew, hr⟩ := redrawn_ok hredrawn
  have hc := hr.completes hfinishes
  exact {
    room := hc.room.trans h.room
    palette := hc.palette.trans h.palette
    config := hc.config.trans h.config
    inRange := hc.inRange h.inRange
    window := .inr (hfinishes.upToDate (h.upToDate hredrawn).2.2.2) }

/-- The turns of a loop are ready one after the other. -/
theorem ready_of_isChain {done rest : List Turn} (hc : (done ++ t :: rest).IsChain Next)
    (h : ∀ u ∈ (done ++ t :: rest).head?, u.Ready room palette c past) :
    t.Ready room palette c (past ++ done) := by
  induction done generalizing past with
  | nil =>
    rw [List.append_nil]
    exact h t rfl
  | cons d done ih =>
    obtain ⟨hnext, hc⟩ := List.isChain_cons.mp hc
    have hd : d.Ready room palette c past := h d rfl
    have ht := ih hc fun u hu => hd.next (hnext u hu)
    rwa [List.append_assoc, List.singleton_append] at ht

end Turn

end Frontend

namespace Machine

/-- A screen with a zero in its corner. -/
def digitScreen : Screen 64 32 := (Screen.blank.draw 0 0 [0xF0, 0x90, 0x90, 0x90, 0xF0]).1

theorem digitThenClear_run (dialect : Dialect) (strict : Bool) (entropy : Entropy) :
    ∃ m, create digitThenClear dialect strict entropy = .ok m ∧
      (m.run 1).result = .ok true ∧ (m.run 1).machine.screen = digitScreen ∧
      ((m.run 1).machine.tick.run 1).result = .ok false ∧
      ((m.run 1).machine.tick.run 1).machine.screen = .blank := by
  have hsize : digitThenClear.size ≤ programCapacity := by decide
  obtain ⟨memory, hl, hc⟩ := create_eq digitThenClear hsize dialect strict entropy
  have hguard := Memory.guarded_load hl
  have hr := powerOn_inRange hsize hl dialect strict entropy
  generalize hm : powerOn memory digitThenClear dialect strict entropy = m at hc hr
  have hfetch : m.fetch = 0xD005 := by
    rw [← hm]
    exact readWord_of_load hl (k := 0) (by decide) hsize
  have hsprite : m.memory.block 0 5 = [0xF0, 0x90, 0x90, 0x90, 0xF0] := by
    rw [← hm]
    exact hguard.glyph_eq 0
  have hdraw : (m.advance.execute .drw m.fetch).machine.screen = digitScreen := by
    rw [hfetch]
    show (m.screen.draw (m.vx 0xD005).toNat (m.vy 0xD005).toNat
      ((m.memory.block m.regs.i 5).map fun b => (b.toNat : Int))).1 = _
    have hi : m.regs.i = 0 := by rw [← hm]; rfl
    rw [hi, hsprite, ← hm]
    rfl
  obtain ⟨hresult, hmachine⟩ := hr.step_of_execute (by rw [← hm]; rfl) .drw
    (by rw [hfetch]; exact (Standard.op?_eq_iff_fits (by decide) _).mpr rfl) rfl
  obtain ⟨hrun, hrunMachine⟩ := run_one (by rw [← hm]; rfl) hresult
  have hr' : (m.run 1).machine.tick.InRange := by
    rw [hrunMachine]
    exact hr.step.tick
  have hfetch' : (m.run 1).machine.tick.fetch = 0x00E0 := by
    rw [hrunMachine, hmachine, hfetch, ← hm]
    exact readWord_of_load hl (k := 2) (by decide) hsize
  have hawaiting' : (m.run 1).machine.tick.awaiting = false := by
    rw [hrunMachine, hmachine, ← hm]
    rfl
  obtain ⟨hresult', hmachine'⟩ := hr'.step_of_execute hawaiting' .cls
    (by rw [hfetch']; exact (Standard.op?_eq_iff_fits (by decide) _).mpr rfl) rfl
  obtain ⟨hrun', hrunMachine'⟩ := run_one hawaiting' hresult'
  refine ⟨m, hc, hrun, ?_, hrun', ?_⟩
  · rw [hrunMachine, hmachine]
    exact hdraw
  · rw [hrunMachine', hmachine']
    rfl

end Machine

namespace Config

open Frontend (Turn)

/-- **The window shows the screen, or what the screen was before it was cleared.** In a run that
has a machine, every frame that gets as far as its picture leaves in the window a picture of what
the screen was when the last frame that drew the window had drawn it. That is what the screen is
now, unless the frame itself did not draw the window, the screen was cleared since the last one that
did, and it is blank. -/
theorem window_current {c : Config} {entropy : Entropy} {files : Files} {h : Host} {path : Path}
    {m : Machine} (palette : Palette) (categories : Categories) (hlib : h.missing = false)
    (hpath : c.romPath = some path)
    (hm : Frontend.machineFrom c h.room entropy path (files.read path) = .ok m) :
    let start := c.opened palette categories h path (files.read path) m
    c.run palette categories entropy files h =
        .ofFrontend (Frontend.andThen (start.loop h.frames) fun f () => (f.close, .ok ())) ∧
      (start.turns h.frames).IsChain Turn.Next ∧
      (∃ t, (start.turns h.frames).getLast? = some t ∧ start.loop h.frames = t.outcome) ∧
      ∀ done turn rest g, start.turns h.frames = done ++ turn :: rest →
        turn.before.redrawn turn.events = (g, .ok ()) →
        ∃ drawn d picture, Turn.latest (done ++ [turn]) = some drawn ∧
          drawn.before.redrawn drawn.events = (d, .ok ()) ∧
          Picture.renderAt h.room palette c.scale d.machine.screen = .ok picture ∧
          shown g.host.calls = some picture ∧
          (g.machine.screen = d.machine.screen ∨
            turn.redraws = false ∧ Turn.Cleared (done ++ [turn]) ∧
              g.machine.screen = .blank) := by
  intro start
  have hstart := opened_fresh c palette categories h path (files.read path) m
  obtain ⟨hchain, hlast⟩ := Frontend.loop_turns start h.frames
  refine ⟨run_loop hlib hpath hm, hchain, hlast, fun done turn rest g hturns hg => ?_⟩
  have hready : turn.Ready h.room palette c ([] ++ done) := by
    rw [hturns] at hchain
    refine Turn.ready_of_isChain hchain fun u hu => ?_
    obtain ⟨es, rest', hhead⟩ := start.turns_head h.frames
    rw [← hturns, hhead] at hu
    cases hu
    obtain ⟨program, hcreate⟩ := machineFrom_ok hm
    have hrange : start.machine.InRange := by
      rw [hstart.machine]
      exact (Machine.Reachable.create hcreate).inRange
    exact ⟨hstart.room, hstart.palette, hstart.config, hrange, .inl hstart.dirty⟩
  obtain ⟨hroom, hpalette, hconfig, drawn, d, picture, hdrawn, hd, hp, hshown, hscreen⟩ :=
    hready.upToDate hg
  rw [hroom, hpalette, hconfig] at hp
  refine ⟨drawn, d, picture, hdrawn, hd, hp, hshown,
    hscreen.imp id fun ⟨hcleared, hblank⟩ => ?_⟩
  exact ⟨hcleared.redraws_eq_false, hcleared, hblank⟩

/-! ### A window that is behind -/

theorem digit_picture {f : Frontend} (hf : f.config = digitConfig) (screen : Screen 64 32) :
    Picture.renderAt f.host.room f.palette f.config.scale screen =
      .ok (Picture.draw f.palette 1 screen) := by
  rw [hf]
  exact Picture.renderAt_one f.palette screen

/-- What stays over of a budget when its frame is done. -/
def afterFrame (budget : Float) : Float := (Frontend.due budget (.whole 60) (.whole 60)).1

/-- A frame without events and sound in which one instruction is due. -/
theorem digit_frame {f : Frontend} {drew : Bool} (hconfig : f.config = digitConfig)
    (hbeeper : f.beeper = none)
    (hsteps : (Frontend.due f.stepBudget (.whole 60) (.whole 60)).2 = .ok 1)
    (hticks : (Frontend.due f.timerBudget (.whole 60) (.whole 60)).2 = .ok 1)
    (hrun : (f.machine.run 1).result = .ok drew) :
    ∃ g k, f.frame [] = (k, .ok ()) ∧ f.redrawn [] = (g, .ok ()) ∧ f.Redraws [] 1 1 drew g ∧
      g.Finishes k ∧ k.config = digitConfig ∧ k.beeper = none ∧
      k.stepBudget = afterFrame f.stepBudget ∧ k.timerBudget = afterFrame f.timerBudget := by
  have hn : f.stepsDue.2 = .ok 1 := by
    show (Frontend.due f.stepBudget f.config.clockHz f.config.frameRate).2 = _
    rw [hconfig]
    exact hsteps
  have ht : f.ticksDue.2 = .ok 1 := by
    show (Frontend.due f.timerBudget f.config.timerHz f.config.frameRate).2 = _
    rw [hconfig]
    exact hticks
  obtain ⟨g, k, hframe, hredrawn, hg, hk⟩ := Frontend.frame_succeeds [] hn ht hrun
    (fun _ => ⟨_, digit_picture hconfig _⟩) (by simp [hbeeper])
  have hdone := hg.completes hk
  refine ⟨g, k, hframe, hredrawn, hg, hk, hdone.config.trans hconfig, ?_, ?_, ?_⟩
  · obtain ⟨host, hbeeps, -⟩ := hdone.tone
    rw [hbeeper] at hbeeps
    generalize k.beeper = beeper at hbeeps
    cases hbeeps
    rfl
  · rw [hdone.stepBudget]
    show (Frontend.due f.stepBudget f.config.clockHz f.config.frameRate).1 = _
    rw [hconfig]
    rfl
  · rw [hdone.timerBudget]
    show (Frontend.due f.timerBudget f.config.timerHz f.config.frameRate).1 = _
    rw [hconfig]
    rfl

/-- The frontend of the digit session at the start of its loop. -/
def digitStart (m : Machine) : Frontend :=
  digitConfig.opened .phosphor ⟨[]⟩ digitHost digitPath (digitFiles.read digitPath) m

/-- Two frames: one that draws a digit, which the window shows, and one that clears the screen and
draws nothing. -/
theorem digit_frames :
    ∃ m g k g' k', Frontend.machineFrom digitConfig digitHost.room digitEntropy digitPath
        (digitFiles.read digitPath) = .ok m ∧
      (digitStart m).turns digitHost.frames =
        [⟨digitStart m, []⟩] ++ ⟨k, []⟩ :: (k.turns [[]]).tail ∧
      (digitStart m).redrawn [] = (g, .ok ()) ∧ Turn.redraws ⟨digitStart m, []⟩ = true ∧
      g.machine.screen = Machine.digitScreen ∧
      k.frame [] = (k', .ok ()) ∧ k.redrawn [] = (g', .ok ()) ∧ Turn.redraws ⟨k, []⟩ = false ∧
      g'.machine.screen = .blank ∧
      shown g'.host.calls = some (Picture.draw .phosphor 1 Machine.digitScreen) := by
  obtain ⟨m, hc, hrun, hscreen, hrun', hscreen'⟩ :=
    Machine.digitThenClear_run .modern false digitEntropy
  refine ⟨m, ?_⟩
  have hm := digit_machineFrom hc
  have hstart :=
    opened_fresh digitConfig .phosphor ⟨[]⟩ digitHost digitPath (digitFiles.read digitPath) m
  have hbeeper : (digitStart m).beeper = none := rfl
  rw [← digitStart] at hstart
  generalize digitStart m = f at hstart hbeeper ⊢
  -- The first frame draws, and the window shows it.
  obtain ⟨g, k, hframe, hredrawn, hg, hk, hconfig, hbeeper, hsteps, hticks⟩ :=
    digit_frame hstart.config hbeeper (hstart.stepBudget ▸ rfl) (hstart.timerBudget ▸ rfl)
      (hstart.machine ▸ hrun)
  have hdone := hg.completes hk
  have hgscreen : g.machine.screen = Machine.digitScreen := by
    rw [hg.machine, Machine.ticks_screen, ← hscreen, hstart.machine]
    rfl
  have hshown : shown k.host.calls = some (Picture.draw .phosphor 1 Machine.digitScreen) := by
    rw [hk.shown, hg.shown, hstart.dirty, Bool.true_or, if_pos rfl, digit_picture hstart.config,
      hgscreen, hstart.palette]
    rfl
  have hmachine : k.machine = (m.run 1).machine.tick := by
    rw [hdone.machine, hstart.machine]
    rfl
  have hrunning : k.running = true := by
    have hf : f.running = true := congrArg Inbox.running hstart.inbox
    rw [hdone.running, hf]
    rfl
  -- The second frame clears the screen and draws nothing.
  obtain ⟨g', k', hframe', hredrawn', hg', -⟩ :=
    digit_frame hconfig hbeeper (by rw [hsteps, hstart.stepBudget]; rfl)
      (by rw [hticks, hstart.timerBudget]; rfl) (hmachine ▸ hrun')
  have hgscreen' : g'.machine.screen = .blank := by
    rw [hg'.machine, Machine.ticks_screen, ← hscreen', hmachine]
    rfl
  refine ⟨g, k, g', k', hm, Frontend.turns_cons hframe hrunning [[]], hredrawn,
    hg.redraws.trans (Bool.or_true _), hgscreen, hframe', hredrawn', ?_, hgscreen', ?_⟩
  · rw [hg'.redraws, hdone.dirty, Bool.false_or]
  · rw [hg'.shown, hdone.dirty]
    exact hshown

theorem digitScreen_ne_blank : Machine.digitScreen ≠ .blank := by decide +kernel

/-- The second frame of the digit session draws nothing: the window shows the digit of the first,
and the screen, which was cleared since, is blank. -/
theorem window_current_digit :
    (digitHost.missing = false ∧ digitConfig.romPath = some digitPath) ∧
    ∃ m g k g' picture, Frontend.machineFrom digitConfig digitHost.room digitEntropy digitPath
        (digitFiles.read digitPath) = .ok m ∧
      (digitStart m).turns digitHost.frames =
        [⟨digitStart m, []⟩] ++ ⟨k, []⟩ :: (k.turns [[]]).tail ∧
      k.redrawn [] = (g', .ok ()) ∧
      Turn.latest ([⟨digitStart m, []⟩] ++ [⟨k, []⟩]) = some ⟨digitStart m, []⟩ ∧
      (digitStart m).redrawn [] = (g, .ok ()) ∧ g.machine.screen = Machine.digitScreen ∧
      Picture.renderAt digitHost.room .phosphor digitConfig.scale g.machine.screen =
        .ok picture ∧
      shown g'.host.calls = some picture ∧ Turn.redraws ⟨k, []⟩ = false ∧
      Turn.Cleared ([⟨digitStart m, []⟩] ++ [⟨k, []⟩]) ∧ g'.machine.screen = .blank := by
  obtain ⟨m, g, k, g', _, hm, hturns, hredrawn, hfirst, hscreen, -, hredrawn', hsecond, hblank,
    -⟩ := digit_frames
  have hlib : digitHost.missing = false := rfl
  obtain ⟨-, -, -, hwindow⟩ := window_current .phosphor ⟨[]⟩ hlib rfl hm
  obtain ⟨drawn, d, picture, hdrawn, hd, hpicture, hshown, hcase⟩ :=
    hwindow [⟨digitStart m, []⟩] ⟨k, []⟩ (k.turns [[]]).tail g' hturns hredrawn'
  have hone : Turn.latest ([] ++ [⟨digitStart m, []⟩]) = some ⟨digitStart m, []⟩ :=
    Turn.latest_push_of_redraws hfirst
  have hlatest : Turn.latest ([⟨digitStart m, []⟩] ++ [⟨k, []⟩]) = some ⟨digitStart m, []⟩ :=
    (Turn.latest_push hsecond).trans hone
  cases hlatest.symm.trans hdrawn
  cases hredrawn.symm.trans hd
  obtain ⟨-, hcleared, -⟩ := hcase.resolve_left fun hsame =>
    digitScreen_ne_blank (hscreen.symm.trans (hsame.symm.trans hblank))
  exact ⟨⟨rfl, rfl⟩, m, g, k, g', picture, hm, hturns, hredrawn', hlatest, hredrawn, hscreen,
    hpicture, hshown, hsecond, hcleared, hblank⟩

/-- **A window that is behind.** A program that draws a digit and then clears the screen: in the
second frame the screen is blank, and the window shows the digit. -/
theorem window_stale :
    digitConfig.check = .ok .phosphor ∧ digitHost.missing = false ∧
    digitConfig.romPath = some digitPath ∧
    ∃ m done turn rest k g picture,
      Frontend.machineFrom digitConfig digitHost.room digitEntropy digitPath
        (digitFiles.read digitPath) = .ok m ∧
      (digitConfig.opened .phosphor ⟨[]⟩ digitHost digitPath (digitFiles.read digitPath) m).turns
        digitHost.frames = done ++ turn :: rest ∧
      turn.outcome = (k, .ok ()) ∧ turn.before.redrawn turn.events = (g, .ok ()) ∧
      shown g.host.calls = some picture ∧
      Picture.renderAt digitHost.room .phosphor digitConfig.scale g.machine.screen ≠
        .ok picture := by
  obtain ⟨m, g, k, g', k', hm, hturns, -, -, -, hframe', hredrawn', -, hblank, hshown⟩ :=
    digit_frames
  refine ⟨by rfl, rfl, rfl, m, [⟨digitStart m, []⟩], ⟨k, []⟩, (k.turns [[]]).tail, k', g',
    Picture.draw .phosphor 1 Machine.digitScreen, hm, hturns, hframe', hredrawn', hshown, ?_⟩
  rw [hblank, show digitConfig.scale = .whole 1 from rfl, Picture.renderAt_one]
  intro h
  exact absurd (Except.ok.inj h) (by decide +kernel)

end Config

end Chip8
