import Chip8.Proofs.Frontend.Loading
import Chip8.Proofs.Frontend.Play
import Chip8.Proofs.Machine.Additive
import Chip8.Proofs.Screen.Picture

/-!
What a run gives back. No stage of a frame but the last touches the tone, and none closes what
is open (`redrawn_aside`); so what is heard at any point of a session is what its beeper says
(`loop_heard`), and a run that ends of itself leaves neither a tone nor a window, one that fails
both as they were (`Config.run_releases`). A fault while the tone sounds leaves it on
(`Config.tone_left_on`).
-/

namespace Chip8

namespace Frontend

/-! ## What is heard of a frame -/

/-- Whether there is a beeper that plays. -/
def plays (f : Frontend) : Bool := f.beeper.any (·.playing)

/-- From one frontend to another the tone is left alone, and all that is open. -/
structure Aside (f g : Frontend) : Prop where
  beeper : g.beeper = f.beeper
  host : f.host.Aside g.host

variable {f g : Frontend} {old : List HostCall}

namespace Aside

theorem refl (f : Frontend) : Aside f f := ⟨rfl, .refl _⟩

theorem trans {k : Frontend} (e : Aside f g) (e' : Aside g k) : Aside f k :=
  ⟨e'.beeper.trans e.beeper, e.host.trans e'.host⟩

theorem of_eq (hb : g.beeper = f.beeper) (hh : g.host = f.host) : Aside f g :=
  ⟨hb, hh ▸ .refl _⟩

theorem of_calls (hb : g.beeper = f.beeper) (hc : g.host.calls = f.host.calls) : Aside f g :=
  ⟨hb, .of_calls hc⟩

theorem plays (e : Aside f g) : g.plays = f.plays := congrArg (Option.any _) e.beeper

end Aside

theorem events_aside (f : Frontend) (es : List HostEvent) : Aside f (f.events es) := by
  obtain ⟨output, heq⟩ := f.events_eq es
  rw [heq]
  refine ⟨rfl, clears f.window es, rfl, fun c hc => ?_⟩
  rw [eq_of_mem_clears hc]
  rfl

theorem stepFrame_aside (f : Frontend) : Aside f f.stepFrame.1 := by
  obtain ⟨⟨trace, output, heq⟩, -⟩ := f.stepFrame_plainFrame
  rw [heq]
  unfold plainFrame
  split
  · exact .of_eq rfl rfl
  · dsimp only
    split
    · exact .of_eq rfl rfl
    · split <;> exact .of_eq rfl rfl

theorem tickFrame_aside (f : Frontend) : Aside f f.tickFrame.1 := by
  have hdue : Aside f f.ticksDue.1 := .of_eq rfl rfl
  unfold tickFrame
  generalize f.ticksDue = due at hdue
  obtain ⟨g, e | n⟩ := due
  · exact hdue
  · exact hdue.trans (.of_eq rfl rfl)

theorem present_aside (f : Frontend) : Aside f f.present.1 := by
  unfold present
  split
  · exact .refl f
  · split
    · exact .refl f
    · next picture _ => exact ⟨rfl, [.flip, .blit picture], rfl, by simp [HostCall.isAside]⟩

/-- **Up to its picture a frame leaves the tone alone**, also where it fails. -/
theorem redrawn_aside (f : Frontend) (es : List HostEvent) : Aside f (f.redrawn es).1 := by
  unfold redrawn
  have hevents : Aside f (f.events es).readClock.2 :=
    (f.events_aside es).trans (.of_calls rfl rfl)
  refine andThen_kept (hevents.trans (stepFrame_aside _)) fun g drew hg => ?_
  have hdirty : Aside f { g with dirty := g.dirty || drew } := hg.trans (.of_eq rfl rfl)
  exact andThen_kept (hdirty.trans (tickFrame_aside _)) fun k _ hk => hk.trans k.present_aside

theorem logFrame_aside (f : Frontend) (began before : Nat) :
    Aside f (f.logFrame began before).rest := by
  obtain ⟨clock, output, hlog⟩ := f.logFrame_eq began before
  rw [hlog]
  exact ⟨rfl, [.tick f.config.frameRate], rfl, by simp [HostCall.isAside]⟩

/-- What is heard of a frontend is what its beeper says. -/
def Heard (old : List HostCall) (f : Frontend) : Prop := Beeper.Heard old f.beeper f.host

theorem Heard.aside (h : Heard old f) (e : Aside f g) : Heard old g := by
  unfold Heard
  rw [e.beeper]
  exact Beeper.Heard.aside h e.host

theorem sound_heard (h : Heard old f) : Heard old f.sound.1 := by
  unfold Heard at h
  unfold sound
  cases hb : f.beeper with
  | none => exact h
  | some b =>
    rw [hb] at h
    exact h.set _

theorem frame_heard (h : Heard old f) (es : List HostEvent) : Heard old (f.frame es).1 := by
  obtain ⟨began, before, heq⟩ := f.frame_eq es
  rw [heq]
  refine andThen_kept (h.aside (f.redrawn_aside es)) fun g _ hg => ?_
  exact andThen_kept (sound_heard hg) fun k _ hk => hk.aside (k.logFrame_aside began before)

/-- Behind a whole frame the beeper plays if the machine asks for it, and it did before or has a
channel. -/
theorem Completes.plays {es : List HostEvent} {n t : Nat} {drew : Bool}
    (h : f.Completes es n t drew g) :
    g.plays = (decide (0 < g.machine.regs.st) &&
      f.beeper.any fun b => b.playing || b.channel || f.host.channels.headD true) := by
  obtain ⟨host, hbeeps, -⟩ := h.tone
  unfold Frontend.plays
  generalize g.beeper = beeper' at hbeeps ⊢
  generalize f.beeper = beeper at hbeeps ⊢
  cases hbeeps with
  | silent => rw [Option.any_none, Option.any_none, Bool.and_false]
  | set hset =>
    -- What is left of the channels is what was left before the frame.
    have hplaying := Beeper.set_playing hset
    exact hplaying

/-- A fault leaves the tone as the frame before it did. -/
theorem stopped_aside {es : List HostEvent} {pc : Int} {fault : Fault}
    (h : f.frame es = (g, .error (.stopped pc fault))) : Aside f g := by
  obtain ⟨began, before, heq⟩ := f.frame_eq es
  rw [heq] at h
  rcases andThen_error h with hredrawn | ⟨k, ⟨⟩, _, hfinished⟩
  · have haside := f.redrawn_aside es
    rw [hredrawn] at haside
    exact haside
  · -- What comes behind the picture fails for want of a tone only.
    obtain ⟨_, _, _, he, _⟩ := finished_error hfinished
    cases he

/-- **At any point of a session the tone sounds as long as the beeper plays.** -/
theorem loop_heard (h : Heard old f) (script : List (List HostEvent)) :
    Heard old (f.loop script).1 := by
  -- A frame is heard as its beeper says whatever comes of it, also where it ends the loop.
  induction script generalizing f with
  | nil => exact frame_heard h [.quit]
  | cons es rest ih =>
    have hframe := frame_heard h es
    unfold loop
    generalize f.frame es = r at hframe ⊢
    obtain ⟨g, e | ⟨⟩⟩ := r
    · exact hframe
    · dsimp only
      split
      · exact ih hframe
      · exact hframe

/-- Closing stops the tone and then closes the window, once. -/
theorem close_releases (h : Heard old f) :
    ∃ calls, f.close.host.calls = .quit :: (calls ++ old) ∧ HostCall.quit ∉ calls ∧
      HostCall.sounding calls = false := by
  unfold Heard at h
  unfold close
  cases hb : f.beeper with
  | none =>
    rw [hb] at h
    obtain ⟨calls, hcalls, hquit, hsounding⟩ := h.tone
    exact ⟨calls, congrArg (HostCall.quit :: ·) hcalls, hquit, hsounding⟩
  | some b =>
    rw [hb] at h
    obtain ⟨hshut, hsilent⟩ := h.shutdown
    obtain ⟨calls, hcalls, hquit, hsounding⟩ := hshut.tone
    refine ⟨calls, congrArg (HostCall.quit :: ·) hcalls, hquit, ?_⟩
    rw [hsounding]
    exact hsilent

end Frontend

/-! ## A program that sounds the tone -/

/-- It sounds the tone and then returns from nowhere. -/
def Machine.toneThenReturn : Array UInt8 := #[0x60, 0xFF, 0xF0, 0x18, 0x00, 0xEE]

namespace Config

variable {c : Config} {entropy : Entropy} {files : Files} {h : Host} {path : Path} {m : Machine}

def tonePath : Path := ⟨"", ["tone.ch8"]⟩

/-- Two instructions to a frame. -/
def toneConfig : Config :=
  { Config.standard with
    romPath := some tonePath, scale := .whole 1, clockHz := .whole 120 }

def toneFiles : Files := .only tonePath (.file (.bytes Machine.toneThenReturn))

theorem tone_machineFrom {memory : Memory}
    (hl : Memory.initial.load Machine.toneThenReturn programStart = .ok memory) :
    Frontend.machineFrom toneConfig digitHost.room digitEntropy tonePath (toneFiles.read tonePath) =
      .ok (.powerOn memory Machine.toneThenReturn .modern false digitEntropy) := by
  have hsize : 1 ≤ Machine.toneThenReturn.size ∧ Machine.toneThenReturn.size ≤ programCapacity := by
    decide
  obtain ⟨memory', hl', hm⟩ :=
    Frontend.machineFrom_of_fits toneConfig digitHost.room digitEntropy tonePath hsize
  cases hl.symm.trans hl'
  exact hm

/-! ## The ways out -/

/-- **What a run gives back.** A run that has a machine and ends of itself stops the tone, and
the last that it does is to close the window. One that fails, in whatever frame and for whatever
reason, closes nothing: the tone sounds on if the beeper was playing. A fault leaves it as the
frame before it did. -/
theorem run_releases (palette : Palette) (categories : Categories) (hlib : h.missing = false)
    (hpath : c.romPath = some path)
    (hm : Frontend.machineFrom c h.room entropy path (files.read path) = .ok m) :
    let start := c.opened palette categories h path (files.read path) m
    let r := c.run palette categories entropy files h
    ∃ last calls, r.frontend = some last ∧ last.host = r.host ∧ HostCall.quit ∉ calls ∧
      (r.result = .ok () → r.host.calls = .quit :: (calls ++ h.calls) ∧
        HostCall.sounding calls = false) ∧
      (∀ e, r.result = .error e → r.host.calls = calls ++ h.calls ∧
        HostCall.sounding calls = last.plays) ∧
      ∀ pc fault, r.result = .error (.stopped pc fault) →
        ∃ t, (start.turns h.frames).getLast? = some t ∧
          t.outcome = (last, .error (.stopped pc fault)) ∧ last.plays = t.before.plays := by
  intro start r
  have hrun : r = _ := run_loop hlib hpath hm
  have hheard : Frontend.Heard h.calls start :=
    opened_heard c palette categories h path (files.read path) m
  have hloop := Frontend.loop_heard hheard h.frames
  obtain ⟨-, t, ht, hlast⟩ := Frontend.loop_turns start h.frames
  rw [hrun]
  generalize start.loop h.frames = out at hloop hlast ⊢
  obtain ⟨last, e | ⟨⟩⟩ := out
  · obtain ⟨calls, hcalls, hquit, hsounding⟩ := hloop.tone
    refine ⟨last, calls, rfl, rfl, hquit, nofun, fun _ _ => ⟨hcalls, hsounding⟩, ?_⟩
    intro pc fault he
    cases he
    have haside : Frontend.Aside t.before last := Frontend.stopped_aside hlast.symm
    exact ⟨t, ht, hlast.symm, haside.plays⟩
  · obtain ⟨calls, hcalls, hquit, hsounding⟩ := Frontend.close_releases hloop
    exact ⟨last.close, calls, rfl, rfl, hquit, fun _ => ⟨hcalls, hsounding⟩, nofun, nofun⟩

/-- A session in which the tone sounds. -/
theorem run_releases_tone :
    (digitHost.missing = false ∧ toneConfig.romPath = some tonePath) ∧
    ∃ m, Frontend.machineFrom toneConfig digitHost.room digitEntropy tonePath
        (toneFiles.read tonePath) = .ok m ∧
      let start :=
        toneConfig.opened .phosphor ⟨[]⟩ digitHost tonePath (toneFiles.read tonePath) m
      let r := toneConfig.run .phosphor ⟨[]⟩ digitEntropy toneFiles digitHost
      ∃ last calls, r.frontend = some last ∧ last.host = r.host ∧ HostCall.quit ∉ calls ∧
        (r.result = .ok () → r.host.calls = .quit :: (calls ++ digitHost.calls) ∧
          HostCall.sounding calls = false) ∧
        (∀ e, r.result = .error e → r.host.calls = calls ++ digitHost.calls ∧
          HostCall.sounding calls = last.plays) ∧
        ∀ pc fault, r.result = .error (.stopped pc fault) →
          ∃ t, (start.turns digitHost.frames).getLast? = some t ∧
            t.outcome = (last, .error (.stopped pc fault)) ∧ last.plays = t.before.plays := by
  obtain ⟨memory, hl, -⟩ := Machine.create_eq Machine.toneThenReturn (by decide) .modern false
    digitEntropy
  have hlib : digitHost.missing = false := rfl
  have hm := tone_machineFrom hl
  exact ⟨⟨rfl, rfl⟩, _, hm, run_releases .phosphor ⟨[]⟩ hlib rfl hm⟩

end Config

/-! ### A tone that is left on -/

theorem Machine.toneThenReturn_run {memory : Memory}
    (hl : Memory.initial.load toneThenReturn programStart = .ok memory) (dialect : Dialect)
    (strict : Bool) (entropy : Entropy) :
    let m := powerOn memory toneThenReturn dialect strict entropy
    (m.run 2).result = .ok false ∧ (m.run 2).machine.regs.st = 0xFF ∧
      ((m.run 2).machine.tick.run 2).result = .error .stackUnderflow := by
  intro m
  have hsize : toneThenReturn.size ≤ programCapacity := by decide
  have hr : m.InRange := powerOn_inRange hsize hl dialect strict entropy
  have hfetch : m.fetch = 0x60FF := readWord_of_load hl (k := 0) (by decide) hsize
  obtain ⟨hload, hloaded⟩ := hr.step_of_execute rfl .ldVxKk
    (by rw [hfetch]; exact (Standard.op?_eq_iff_fits (by decide) _).mpr rfl) rfl
  rw [hfetch] at hloaded
  have hfetch' : m.step.machine.fetch = 0xF018 := by
    rw [hloaded]
    exact readWord_of_load hl (k := 2) (by decide) hsize
  obtain ⟨hsound, hsounded⟩ := hr.step.step_of_execute (by rw [hloaded]; rfl) .ldStVx
    (by rw [hfetch']; exact (Standard.op?_eq_iff_fits (by decide) _).mpr ⟨rfl, rfl⟩) rfl
  rw [hfetch'] at hsounded
  obtain ⟨hmachine, hresult⟩ := run_succ (m := m) rfl hload 1
  obtain ⟨hresult₁, hmachine₁⟩ := run_one (m := m.step.machine) (by rw [hloaded]; rfl) hsound
  have hend : (m.run 2).machine = m.step.machine.step.machine := hmachine.trans hmachine₁
  have htick : (m.run 2).machine.tick.InRange := by
    rw [hend]
    exact hr.step.step.tick
  have hawaiting : (m.run 2).machine.tick.awaiting = false := by
    rw [hend, hsounded, hloaded]
    rfl
  have hreturn : (m.run 2).machine.tick.step.result = .error .stackUnderflow := by
    refine htick.step_result_of_stops hawaiting (.underflow ?_ ?_)
    · rw [hend, hsounded, hloaded]
      exact readWord_of_load hl (k := 4) (by decide) hsize
    · rw [hend, hsounded, hloaded]
      rfl
  refine ⟨?_, ?_, ?_⟩
  · rw [hresult, hresult₁]
    rfl
  · rw [hend, hsounded, hloaded]
    rfl
  · rw [run_succ_eq hawaiting, Outcome.followedBy_of_error hreturn]
    exact hreturn

namespace Config

/-- Two instructions are due in a frame. -/
theorem tone_stepsDue {f : Frontend} (hconfig : f.config = toneConfig)
    (hdue : (Frontend.due f.stepBudget (.whole 120) (.whole 60)).2 = .ok 2) :
    f.stepsDue.2 = .ok 2 := by
  show (Frontend.due f.stepBudget f.config.clockHz f.config.frameRate).2 = _
  rw [hconfig]
  exact hdue

theorem tone_first_frame {f : Frontend} {m : Machine}
    (hf : Fresh toneConfig .phosphor digitHost m f)
    (htone : ∀ b, f.beeper = some b →
      ∃ samples, Tone.squareWave b.sampleRate b.frequency Tone.defaultAmplitude = .ok samples)
    (hrun : (m.run 2).result = .ok false) :
    ∃ k, f.frame [] = (k, .ok ()) ∧ f.Completes [] 2 1 false k ∧
      k.machine = (m.run 2).machine.tick ∧ k.stepsDue.2 = .ok 2 := by
  have hn : f.stepsDue.2 = .ok 2 := tone_stepsDue hf.config (by rw [hf.stepBudget]; rfl)
  have ht : f.ticksDue.2 = .ok 1 := by
    show (Frontend.due f.timerBudget f.config.timerHz f.config.frameRate).2 = _
    rw [hf.timerBudget, hf.config]
    rfl
  have hpicture (screen : Screen 64 32) :
      ∃ p, Picture.renderAt f.host.room f.palette f.config.scale screen = .ok p := by
    rw [hf.config]
    exact ⟨_, Picture.renderAt_one f.palette screen⟩
  obtain ⟨_, k, hframe, -, hredraws, hfinishes⟩ := Frontend.frame_succeeds [] hn ht
    (hf.machine ▸ hrun) hpicture htone
  have hdone := hredraws.completes hfinishes
  refine ⟨k, hframe, hdone, ?_, tone_stepsDue (hdone.config.trans hf.config) ?_⟩
  · rw [hdone.machine, hf.machine]
    rfl
  · rw [hdone.stepBudget]
    show (Frontend.due (Frontend.due f.stepBudget f.config.clockHz f.config.frameRate).1 _ _).2 = _
    rw [hf.stepBudget, hf.config]
    rfl

/-- **A tone that is left on.** The first frame sounds the tone, and the second fails: the tone
sounds on, and the window stays open. -/
theorem tone_left_on :
    toneConfig.check = .ok .phosphor ∧ digitHost.missing = false ∧
    toneConfig.romPath = some tonePath ∧
    (∃ m, Frontend.machineFrom toneConfig digitHost.room digitEntropy tonePath
      (toneFiles.read tonePath) = .ok m) ∧
    let r := toneConfig.run .phosphor ⟨[]⟩ digitEntropy toneFiles digitHost
    (∃ pc, r.result = .error (.stopped pc .stackUnderflow)) ∧
      HostCall.sounding r.host.calls = true ∧ HostCall.quit ∉ r.host.calls := by
  obtain ⟨memory, hl, -⟩ := Machine.create_eq Machine.toneThenReturn (by decide) .modern false
    digitEntropy
  have hm := tone_machineFrom hl
  obtain ⟨hrun, htimer, hfails⟩ := Machine.toneThenReturn_run hl .modern false digitEntropy
  generalize Machine.powerOn memory _ _ _ _ = m at hm hrun htimer hfails
  have hcheck : toneConfig.check = .ok .phosphor := by rfl
  refine ⟨hcheck, rfl, rfl, ⟨m, hm⟩, ?_⟩
  have hstart :=
    opened_fresh toneConfig .phosphor ⟨[]⟩ digitHost tonePath (toneFiles.read tonePath) m
  have hheard :=
    opened_heard toneConfig .phosphor ⟨[]⟩ digitHost tonePath (toneFiles.read tonePath) m
  have hbeeper : ∃ b samples, (toneConfig.opened .phosphor ⟨[]⟩ digitHost tonePath
      (toneFiles.read tonePath) m).beeper = some b ∧
      Tone.squareWave b.sampleRate b.frequency Tone.defaultAmplitude = .ok samples :=
    ⟨_, _, rfl, rfl⟩
  have hchannels : (toneConfig.opened .phosphor ⟨[]⟩ digitHost tonePath
      (toneFiles.read tonePath) m).host.channels = [] := rfl
  have hsession : toneConfig.run .phosphor ⟨[]⟩ digitEntropy toneFiles digitHost = _ :=
    run_loop rfl rfl hm
  rw [hsession]
  generalize toneConfig.opened .phosphor ⟨[]⟩ digitHost tonePath (toneFiles.read tonePath) m = f
    at hstart hheard hbeeper hchannels ⊢
  obtain ⟨b, samples, hbeeper, hsamples⟩ := hbeeper
  have hplayable := hstart.playable hcheck ⟨_, rfl, rfl⟩ fits_sixty
    (steady_of_machineFrom digitEntropy_intact hm)
  -- The first frame is completed, and behind it the tone sounds.
  obtain ⟨k, hframe, hdone, hmachine, hn⟩ := tone_first_frame hstart
    (fun b' hb => by cases hbeeper.symm.trans hb; exact ⟨samples, hsamples⟩) hrun
  have hasked : k.machine.regs.st = 0xFE := by
    rw [hmachine]
    show Machine.countDown (m.run 2).machine.regs.st = 0xFE
    rw [htimer]
    rfl
  have hplays : k.plays = true := by
    rw [hdone.plays, hasked, hbeeper, hchannels]
    simp
  -- The second is not.
  obtain ⟨g, hframe'⟩ := (hplayable.next hdone rfl).frame_stopped [] hn (hmachine ▸ hfails)
  have hloop : f.loop [[], []] = (g, .error (.stopped g.machine.regs.pc .stackUnderflow)) := by
    rw [Frontend.loop, hframe]
    dsimp only
    rw [(hplayable.next hdone rfl).running, if_pos rfl, Frontend.loop, hframe']
  have hheard := Frontend.loop_heard hheard [[], []]
  rw [hloop] at hheard
  obtain ⟨calls, hcalls, hquit, hsounding⟩ := hheard.tone
  have hsounding : HostCall.sounding calls = true :=
    hsounding.trans ((Frontend.stopped_aside hframe').plays.trans hplays)
  have hcalls : g.host.calls = calls := by rw [hcalls]; exact List.append_nil calls
  rw [show digitHost.frames = [[], []] from rfl, hloop]
  refine ⟨⟨_, rfl⟩, ?_, ?_⟩
  · show HostCall.sounding g.host.calls = true
    rw [hcalls]
    exact hsounding
  · show HostCall.quit ∉ g.host.calls
    rw [hcalls]
    exact hquit

end Config

end Chip8
