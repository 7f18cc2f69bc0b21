import Chip8.CommandLine.Launch
import Chip8.Proofs.CommandLine.Arguments
import Chip8.Proofs.Frontend.Failure
import Chip8.Proofs.Frontend.Loading
import Chip8.Proofs.Screen.Picture

/-!
How the program ends when it is started from the command line. A program is loaded or its fault is
handled where its path leads to a file or to nothing (`machineFrom_reported`). A session that is
begun ends by itself, or with a message where the processor stops; what escapes is listed with the
reason for it (`launch_ends`).
-/

namespace Chip8

open CommandLine (isHandled)

/-! ## Paths -/

namespace Files

variable {files : Files} {p : Path} {e : PathFault}

/-- A path is refused for its length only. -/
theorem holds_eq_error (h : files.holds p = .error e) :
    e = .nameTooLong ∧ files.read p = .error .nameTooLong := by
  unfold holds at h
  unfold read
  split at h
  · cases h
  · next hfind =>
    cases h
    exact ⟨rfl, by rw [hfind]⟩
  · cases h

/-- What a path leads to is read, unless it is a directory or may not be opened. -/
theorem directory_or_denied_of_holds (h : files.holds p = .ok true)
    (he : files.read p = .error e) : e = .directory ∨ e = .denied := by
  unfold holds at h
  unfold read at he
  split at h
  · next node hfind =>
    rw [hfind] at he
    cases node with
    | file => cases he
    | locked =>
      cases he
      exact .inr rfl
    | directory =>
      cases he
      exact .inl rfl
  · cases h
  · cases h

theorem of_find_directory (h : files.find p = .ok .directory) :
    files.holds p = .ok true ∧ files.read p = .error .directory := by
  simp [holds, read, h]

end Files

/-! ## Reading the program -/

namespace Frontend

/-- **A program is loaded or its fault is reported, where its path leads to a file or to nothing**,
and nowhere else. -/
theorem machineFrom_reported (c : Config) (room : Room) (entropy : Entropy) (path : Path)
    (data : Except PathFault Contents) :
    ((∃ m, machineFrom c room entropy path data = .ok m) ∨
      ∃ e, machineFrom c room entropy path data = .error e ∧ isHandled e = true) ↔
      ∀ e, data = .error e → e = .missing := by
  cases data with
  | ok contents =>
    refine ⟨fun _ => nofun, fun _ => ?_⟩
    by_cases h : ∃ data, contents = .bytes data ∧ 1 ≤ data.size ∧ data.size ≤ programCapacity
    · obtain ⟨data, rfl, hsize⟩ := h
      obtain ⟨memory, -, hmade⟩ := machineFrom_of_fits c room entropy path hsize
      exact .inl ⟨_, hmade⟩
    · obtain ⟨e, -, hmade⟩ := machineFrom_of_misfits c room entropy path h
      exact .inr ⟨_, hmade, rfl⟩
  | error e =>
    constructor
    · rintro (⟨m, hm⟩ | ⟨e', he, hhandled⟩) e'' h
      · cases e <;> cases hm
      · cases h
        cases e with
        | missing => rfl
        | _ =>
          cases he
          cases hhandled
    · intro h
      cases h e rfl
      exact .inr ⟨_, rfl, rfl⟩

end Frontend

namespace CommandLine

/-! ## Endings -/

/-- The program says on its way out what went wrong. -/
def Launch.Tells (l : Launch) (e : FrontendError) : Prop :=
  l.ending = .exited 1 ∧ l.errors = programName ++ ": " ++ e.message ++ "\n"

theorem Launch.ofRun_finished {run : Run} (hr : run.result = .ok ()) :
    (Launch.ofRun run).ending = .finished ∧ (Launch.ofRun run).errors = "" := by
  simp [Launch.ofRun, hr]

theorem Launch.ofRun_handled {run : Run} {e : FrontendError} (hr : run.result = .error e)
    (he : isHandled e = true) : (Launch.ofRun run).Tells e := by
  simp [Launch.ofRun, Launch.Tells, hr, he]

theorem Launch.ofRun_escaped {run : Run} {e : FrontendError} (hr : run.result = .error e)
    (he : isHandled e = false) : (Launch.ofRun run).ending = .escaped e := by
  simp [Launch.ofRun, hr, he]

section

variable (r : Request) (files : Files) (categories : Categories) (entropy : Entropy) (h : Host)

/-- The session of a request: there is a machine for its program, and this comes of the script of
the host. -/
def Request.Plays (last : Frontend) (result : Except FrontendError Unit) : Prop :=
  ∃ path palette m, r.config.romPath = some path ∧ r.config.check = .ok palette ∧
    Frontend.machineFrom r.config h.room entropy path (files.read path) = .ok m ∧
    (r.config.opened palette categories h path (files.read path) m).Plays
      (h.frames ++ [[.quit]]) last result

/-- How a launch ends that is reported: by itself, or with an exit code and the reason. -/
inductive Reported : Launch → Prop
  | missing {path : Path} : r.config.romPath = some path → files.holds path = .ok false →
      Reported (.stopped h (.usage (.romMissing path)))
  | scale {n : Int} : r.config.scale = .whole n → n ≤ 0 →
      Reported (.stopped h (.usage .scaleNotPositive))
  | clock {n : Int} : r.config.clockHz = .whole n → n ≤ 0 →
      Reported (.stopped h (.usage .clockNotPositive))
  | rejected {l : Launch} {path : Path} {contents : Contents} {e : RomError} :
      r.config.romPath = some path → files.read path = .ok contents →
      (¬∃ data, contents = .bytes data ∧ 1 ≤ data.size ∧ data.size ≤ programCapacity) →
      e = .empty ∨ e = .exceeds programCapacity → l.Tells (.romRejected path e) → Reported l
  | stopped {l : Launch} {last : Frontend} {pc : Int} {fault : Fault} :
      r.Plays files categories entropy h last (.error (.stopped pc fault)) →
      fault.isProcessor = true → l.Tells (.stopped pc fault) → Reported l
  | finished {l : Launch} {last : Frontend} : r.Plays files categories entropy h last (.ok ()) →
      l.ending = .finished → l.errors = "" → Reported l

/-- What is not reported: a path that leads to no file that may be opened and not to nothing, an
option that lost its value, a clock that no double holds, a picture for which there is no memory,
and a tone that has no samples. -/
inductive Unreported : Ending → Prop
  | path {path : Path} {e : PathFault} : r.config.romPath = some path →
      files.read path = .error e → e = .directory ∨ e = .denied ∨ e = .nameTooLong →
      Unreported (.escaped (.romUnreadable path e))
  | unset {s : Setting} : s ∈ r.emptied → Unreported (.unset s)
  | clock {e : NumberError} : r.config.clockHz.divide r.config.frameRate = .error e →
      Unreported (.escaped (.number e))
  | picture {n : Int} {e : SizeError} : r.config.scale = .whole n →
      h.room.bytes < 3 * 64 * 32 * n * n → Unreported (.escaped (.invalid (.size e)))
  | tone {rate : Quantity} {e : ToneError} : some rate ∈ h.mixer →
      Tone.squareWave rate.atLeastOne Tone.defaultFrequency Tone.defaultAmplitude = .error e →
      Unreported (.escaped (.tone e))

end

variable {r : Request} {files : Files} {categories : Categories} {entropy : Entropy} {h : Host}
  {path : Path} {palette : Palette} {scale clock : Int}

/-- A picture of a screen is refused for its size only. -/
theorem size_of_renderAt {room : Room} {screen : Screen 64 32} {e : Invalid} (hscale : 0 < scale)
    (he : Picture.renderAt room palette (.whole scale) screen = .error e) :
    room.bytes < 3 * 64 * 32 * scale * scale ∧ ∃ e', e = .size e' := by
  obtain ⟨n, rfl⟩ := Int.eq_ofNat_of_zero_le (by omega : 0 ≤ scale)
  have hn : 1 ≤ n := by omega
  have hsize : room.bytes < 3 * (64 * 32) * n * n := by
    refine Nat.lt_of_not_le fun hfits => ?_
    cases (Picture.renderAt_of_fits palette screen hn hfits).symm.trans he
  obtain ⟨e', hlarge⟩ := Picture.renderAt_of_large palette screen hn hsize
  cases hlarge.symm.trans he
  exact ⟨by exact_mod_cast hsize, e', rfl⟩

theorem check_of_reads (hread : r.Reads path palette scale clock) (hclock : 0 < clock) :
    r.config.check = .ok palette := by
  simp [Config.check, hread.clock, hread.timer, hread.rate, hread.palette, Quantity.isPositive,
    hclock]

section

variable {m : Machine}

/-- What becomes of a request whose program was loaded, if a number of instructions is due. -/
theorem session_ends (hread : r.Reads path palette scale clock) (hscale : 0 < scale)
    (hclock : 0 < clock) (hlib : h.missing = false) (he : entropy.Intact)
    (hm : Frontend.machineFrom r.config h.room entropy path (files.read path) = .ok m)
    (hfits : r.config.clockHz.Fits r.config.frameRate) :
    let l := Launch.ofRun (r.config.run palette categories entropy files h)
    Reported r files categories entropy h l ∨ Unreported r files h l.ending := by
  intro l
  have hcheck := check_of_reads hread hclock
  have hstart := Config.opened_fresh r.config palette categories h path (files.read path) m
  have htimer : r.config.timerHz.Fits r.config.frameRate := by
    rw [hread.timer, hread.rate]
    exact Config.fits_sixty
  have hplayable := hstart.playable hcheck hfits htimer (Config.steady_of_machineFrom he hm)
  obtain ⟨last, result, hplayed, hloop⟩ := hplayable.plays h.frames
  have hresult := Config.result_of_loop hlib hread.path hm hloop
  have hplays : r.Plays files categories entropy h last result :=
    ⟨path, palette, m, hread.path, hcheck, hm, hplayed⟩
  cases result with
  | ok =>
    obtain ⟨hending, herrors⟩ := Launch.ofRun_finished hresult
    exact .inl (.finished hplays hending herrors)
  | error e =>
    cases hplayed.broken hstart.beeper with
    | stopped hp => exact .inl (.stopped hplays hp (Launch.ofRun_handled hresult rfl))
    | picture hpicture =>
      rw [hstart.config, hstart.palette, hstart.room, hread.scale] at hpicture
      obtain ⟨hsize, e', rfl⟩ := size_of_renderAt hscale hpicture
      right
      rw [Launch.ofRun_escaped hresult rfl]
      exact .picture hread.scale hsize
    | tone hmem hwave =>
      right
      rw [Launch.ofRun_escaped hresult rfl]
      exact .tone hmem hwave

/-- Without one the first frame fails. -/
theorem session_of_large_clock (hread : r.Reads path palette scale clock)
    (hlib : h.missing = false)
    (hm : Frontend.machineFrom r.config h.room entropy path (files.read path) = .ok m)
    {e : NumberError}
    (hlarge : r.config.clockHz.divide r.config.frameRate = .error e) :
    (Launch.ofRun (r.config.run palette categories entropy files h)).ending =
      .escaped (.number e) := by
  have hstart := Config.opened_fresh r.config palette categories h path (files.read path) m
  have hsteps : (r.config.opened palette categories h path (files.read path) m).stepsDue.2 =
      .error e := by
    rw [Frontend.stepsDue, hstart.config, Frontend.due, hlarge]
  have hticks : (r.config.opened palette categories h path (files.read path) m).ticksDue.2 =
      .ok 1 := by
    rw [Frontend.ticksDue, hstart.config, hstart.timerBudget, hread.timer, hread.rate]
    rfl
  obtain ⟨last, hloop⟩ := Frontend.loop_of_stepsDue hsteps hticks h.frames
  exact Launch.ofRun_escaped (Config.result_of_loop hlib hread.path hm hloop) rfl

end

/-- The fault of a path is not handled, unless nothing is there. -/
theorem run_of_fault {e : PathFault} (hread : r.Reads path palette scale clock)
    (hlib : h.missing = false) (hdata : files.read path = .error e) (he : e ≠ .missing) :
    (Launch.ofRun (r.config.run palette categories entropy files h)).ending =
      .escaped (.romUnreadable path e) := by
  have hmade : Frontend.machineFrom r.config h.room entropy path (files.read path) =
      .error (.romUnreadable path e) := by
    rw [hdata]
    cases e with
    | missing => exact absurd rfl he
    | _ => rfl
  exact Launch.ofRun_escaped (Config.result_of_machineFrom hlib hread.path hmade) rfl

/-- What becomes of a request that was let through. -/
theorem run_ends (hread : r.Reads path palette scale clock) (hscale : 0 < scale)
    (hclock : 0 < clock) (hlib : h.missing = false) (he : entropy.Intact)
    (hholds : files.holds path = .ok true) :
    let l := Launch.ofRun (r.config.run palette categories entropy files h)
    Reported r files categories entropy h l ∨ Unreported r files h l.ending := by
  intro l
  cases hdata : files.read path with
  | error e =>
    have hkind := Files.directory_or_denied_of_holds hholds hdata
    right
    rw [run_of_fault hread hlib hdata (by rcases hkind with rfl | rfl <;> rintro ⟨⟩)]
    exact .path hread.path hdata (hkind.imp_right .inl)
  | ok contents =>
    by_cases hfits : ∃ data, contents = .bytes data ∧ 1 ≤ data.size ∧ data.size ≤ programCapacity
    · obtain ⟨data, rfl, hsize⟩ := hfits
      obtain ⟨memory, -, hmade⟩ := Frontend.machineFrom_of_fits r.config h.room entropy path hsize
      rw [← hdata] at hmade
      have hclock' := Quantity.fits_or_too_large (Int.le_of_lt hclock) (by decide : (0 : Int) < 60)
      rw [← hread.clock, ← hread.rate] at hclock'
      rcases hclock' with hfits | hlarge
      · exact session_ends hread hscale hclock hlib he hmade hfits
      · right
        rw [session_of_large_clock hread hlib hmade hlarge]
        exact .clock hlarge
    · obtain ⟨e, he, hmade⟩ := Frontend.machineFrom_of_misfits r.config h.room entropy path hfits
      rw [← hdata] at hmade
      exact .inl (.rejected hread.path hdata hfits he
        (Launch.ofRun_handled (Config.result_of_machineFrom hlib hread.path hmade) rfl))

/-- What is refused before the session is reported, but for a path that is too long and options
without a value. -/
theorem precheck_ends (files : Files) (categories : Categories) (entropy : Entropy) (h : Host)
    (hread : r.Reads path palette scale clock) :
    (∃ l, precheck r files h = .error l ∧
      (Reported r files categories entropy h l ∨ Unreported r files h l.ending)) ∨
    precheck r files h = .ok () ∧ files.holds path = .ok true ∧ 0 < scale ∧ 0 < clock := by
  have hpositive (n : Int) : (Quantity.whole n).isPositive = decide (0 < n) := rfl
  unfold precheck
  simp only [hread.path, hread.scale, hread.clock, hpositive]
  cases hholds : files.holds path with
  | error e =>
    obtain ⟨rfl, hdata⟩ := Files.holds_eq_error hholds
    exact .inl ⟨_, rfl, .inr (.path hread.path hdata (.inr (.inr rfl)))⟩
  | ok found =>
    cases found with
    | false => exact .inl ⟨_, rfl, .inl (.missing hread.path hholds)⟩
    | true =>
      dsimp only
      split_ifs with hemptied hscale hemptied' hclock hemptied''
      · exact .inl ⟨_, rfl, .inr (.unset hemptied)⟩
      · exact .inl ⟨_, rfl, .inl (.scale hread.scale (by simpa using hscale))⟩
      · exact .inl ⟨_, rfl, .inr (.unset hemptied')⟩
      · exact .inl ⟨_, rfl, .inl (.clock hread.clock (by simpa using hclock))⟩
      · exact .inl ⟨_, rfl, .inr (.unset hemptied'')⟩
      · exact .inr ⟨rfl, rfl, by simpa using hscale, by simpa using hclock⟩

theorem launch_of_precheck {argv : List String} (hr : parse argv = .ok r)
    (hread : r.Reads path palette scale clock) (hclock : 0 < clock)
    (hpre : precheck r files h = .ok ()) :
    launch argv files categories entropy h =
      .ofRun (r.config.run palette categories entropy files h) := by
  simp only [launch, hr, hpre, check_of_reads hread hclock]

/-- **Every launch is accounted for.** The program is loaded or its fault is handled where its path
leads to a file or to nothing, and only there. A mistake in the arguments ends the launch with code
2, a call for help with 0. Any other launch asks for a program, at a scale and with a clock; it ends
as it should, and with a message where something failed, unless one of the listed reasons is there
for an error to escape. That of a directory in the place of a program always does. -/
theorem launch_ends (files : Files) (entropy : Entropy) (h : Host) (hlib : h.missing = false)
    (he : entropy.Intact) :
    (∀ (c : Config) (path : Path),
      let made := Frontend.machineFrom c h.room entropy path (files.read path)
      ((∃ m, made = .ok m) ∨ ∃ e, made = .error e ∧ isHandled e = true) ↔
        ∀ e, files.read path = .error e → e = .missing) ∧
    ∀ (argv : List String) (categories : Categories),
      let l := launch argv files categories entropy h
      (∀ s, parse argv = .error s → l.host = h ∧ l.ending = .exited (if s = .help then 0 else 2)) ∧
      ∀ r, parse argv = .ok r → ∃ path palette scale clock, r.Reads path palette scale clock ∧
        (Reported r files categories entropy h l ∨ Unreported r files h l.ending) ∧
        (files.find path = .ok .directory → r.emptied = [] → 0 < scale → 0 < clock →
          l.ending = .escaped (.romUnreadable path .directory)) := by
  refine ⟨fun c path => Frontend.machineFrom_reported c h.room entropy path _, ?_⟩
  intro argv categories l
  refine ⟨fun s hs => ?_, fun r hr => ?_⟩
  · have hl : l = .stopped h s := by simp only [l, launch, hs]
    rw [hl]
    cases s <;> exact ⟨rfl, rfl⟩
  obtain ⟨path, palette, scale, clock, hread⟩ := parse_reads hr
  refine ⟨path, palette, scale, clock, hread, ?_, ?_⟩
  · rcases precheck_ends files categories entropy h hread with
      ⟨l', hpre, hends⟩ | ⟨hpre, hholds, hscale, hclock⟩
    · have hl : l = l' := by simp only [l, launch, hr, hpre]
      rwa [hl]
    · have hl : l = _ := launch_of_precheck hr hread hclock hpre
      rw [hl]
      exact run_ends hread hscale hclock hlib he hholds
  · intro hfind hemptied hscale hclock
    obtain ⟨hholds, hdata⟩ := Files.of_find_directory hfind
    have hpre : precheck r files h = .ok () := by
      simp [precheck, hread.path, hread.scale, hread.clock, hholds, hemptied,
        Quantity.isPositive, hscale, hclock]
    have hl : l = _ := launch_of_precheck hr hread hclock hpre
    rw [hl]
    exact run_of_fault hread hlib hdata (by rintro ⟨⟩)

/-- A program, and nothing in its way: what comes of it is reported. -/
theorem launch_ends_digit :
    Config.digitHost.missing = false ∧ Config.digitEntropy.Intact ∧
    ∃ r, parse ["digit.ch8"] = .ok r ∧
      Reported r Config.digitFiles ⟨[]⟩ Config.digitEntropy Config.digitHost
        (launch ["digit.ch8"] Config.digitFiles ⟨[]⟩ Config.digitEntropy Config.digitHost) := by
  have hlib : Config.digitHost.missing = false := rfl
  have he : Config.digitEntropy.Intact := Config.digitEntropy_intact
  have hr : parse ["digit.ch8"] =
      .ok ⟨{ Config.standard with romPath := some Config.digitPath }, []⟩ := by rfl
  obtain ⟨_, _, _, _, -, hends, -⟩ :=
    ((launch_ends Config.digitFiles Config.digitEntropy Config.digitHost hlib he).2
      ["digit.ch8"] ⟨[]⟩).2 _ hr
  refine ⟨hlib, he, _, hr, hends.resolve_right fun hescapes => ?_⟩
  generalize Launch.ending _ = ending at hescapes
  cases hescapes with
  | path hpath hdata =>
    cases hpath
    cases hdata
  | unset hs => cases hs
  | clock hnone =>
    obtain ⟨share, hshare, -⟩ : Quantity.Fits (.whole 500) (.whole 60) := ⟨_, rfl, rfl⟩
    cases hshare.symm.trans hnone
  | picture hscale hsize =>
    cases hscale
    exact absurd hsize (by decide)
  | tone hmem hwave =>
    cases List.mem_singleton.mp hmem
    cases hwave

/-- **A directory in the place of a program** is there, so it is not missing, and its fault
escapes. -/
theorem launch_directory :
    Config.digitHost.missing = false ∧ Config.digitEntropy.Intact ∧
    parse ["."] = .ok ⟨{ Config.standard with romPath := some ⟨"", []⟩ }, []⟩ ∧
    Files.standard.find ⟨"", []⟩ = .ok .directory ∧
    (∀ c room, Frontend.machineFrom c room Config.digitEntropy ⟨"", []⟩
        (Files.standard.read ⟨"", []⟩) =
      .error (.romUnreadable ⟨"", []⟩ .directory)) ∧
    isHandled (.romUnreadable ⟨"", []⟩ .directory) = false ∧
    (launch ["."] Files.standard ⟨[]⟩ Config.digitEntropy Config.digitHost).ending =
      .escaped (.romUnreadable ⟨"", []⟩ .directory) :=
  ⟨rfl, Config.digitEntropy_intact, by rfl, by rfl, fun _ _ => by rfl, rfl, by rfl⟩

end CommandLine

end Chip8
