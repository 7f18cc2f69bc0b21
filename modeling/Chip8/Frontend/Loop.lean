import Chip8.Frontend.Shell

/-!
The event loop. Each frame takes the events of the host, runs instructions and
timers, draws the window if anything was drawn, sets the tone, and waits. The
host ends every script with an event to quit.
-/

namespace Chip8

namespace Frontend

def escapeKey : String := "escape"

def event (f : Frontend) : HostEvent → Frontend
  | .quit => { f with running := false }
  | .down name => if name = escapeKey then f.shell else (f.key name true).1
  | .up name => (f.key name false).1
  | .other => f

def events (f : Frontend) : List HostEvent → Frontend
  | [] => f
  | e :: es => (f.event e).events es

def readClock (f : Frontend) : Nat × Frontend :=
  let (now, host) := f.host.readClock
  (now, { f with host })

def present (f : Frontend) : Frontend × Except FrontendError Unit :=
  if !f.dirty then (f, .ok ())
  else match Picture.renderAt f.host.room f.palette f.config.scale f.machine.screen with
    | .error e => (f, .error (.invalid e))
    | .ok picture => ({ (f.call (.blit picture)).call .flip with dirty := false }, .ok ())

def sound (f : Frontend) : Frontend × Except FrontendError Unit :=
  match f.beeper with
  | none => (f, .ok ())
  | some b =>
    let (result, b, host) := b.set (0 < f.machine.regs.st) f.host
    ({ f with beeper := some b, host },
      match result with
      | .ok () => .ok ()
      | .error e => .error (.tone e))

/-- Milliseconds since the clock read `began`. -/
def elapsedText (began now : Nat) : String :=
  String.ofList ((Number.RealForm.mk .fixed 3 false).body ((now - began) * 1000) 10)

def logFrame (f : Frontend) (began before : Nat) : Frontend :=
  if f.categories.enabled "perf" then
    let (now, f) := f.readClock
    f.logText "perf" ("frame=" ++ Text.decimal 0 f.frames ++
      " steps=" ++ Text.decimal 0 ((f.machine.count : Int) - before) ++
      " frame_ms=" ++ elapsedText began now)
  else f

def rest (f : Frontend) : Frontend :=
  { f.call (.tick f.config.frameRate) with frames := f.frames + 1 }

/-- Goes on with the next stage unless this one failed. -/
def andThen {α β : Type} (r : Frontend × Except FrontendError α)
    (next : Frontend → α → Frontend × Except FrontendError β) : Frontend × Except FrontendError β :=
  match r with
  | (f, .ok a) => next f a
  | (f, .error e) => (f, .error e)

def frame (f : Frontend) (es : List HostEvent) : Frontend × Except FrontendError Unit :=
  let (began, f) := (f.events es).readClock
  let before := f.machine.count
  andThen f.stepFrame fun f drew =>
    andThen { f with dirty := f.dirty || drew }.tickFrame fun f _ =>
      andThen f.present fun f () =>
        andThen f.sound fun f () => ((f.logFrame began before).rest, .ok ())

/-- A frame for each list of events, and one to quit after the last. -/
def loop (f : Frontend) : List (List HostEvent) → Frontend × Except FrontendError Unit
  | [] => f.frame [.quit]
  | es :: rest =>
    match f.frame es with
    | (f, .error e) => (f, .error e)
    | (f, .ok ()) => if f.running then f.loop rest else (f, .ok ())

def close (f : Frontend) : Frontend :=
  let f := match f.beeper with
    | none => f
    | some b =>
      let (b, host) := b.shutdown f.host
      { f with beeper := some b, host }
  f.call .quit

def askMixer (f : Frontend) : Option Quantity × Frontend :=
  let (answer, host) := f.host.askMixer
  (answer, { f with host })

def makeBeeper (f : Frontend) : Frontend :=
  match f.askMixer with
  | (none, f) => f.logText "audio" "mixer_unavailable"
  | (some rate, f) =>
    match Beeper.create rate Tone.defaultFrequency Beeper.defaultVolume f.host with
    | (.ok b, host) => { f with beeper := some b, host }
    | (.error e, host) => { f with host }.logText "audio" ("beeper_init_failed=" ++ e.message)

/-- Opens the mixer unless it is open; without one there is no beeper. -/
def openSound (f : Frontend) : Frontend :=
  match f.askMixer with
  | (some _, f) => f.makeBeeper
  | (none, f) =>
    let f := f.call .mixerInit
    match f.host.mixerError with
    | some text => f.logText "audio" ("mixer_init_failed=" ++ text)
    | none => f.makeBeeper

def whenSound (f : Frontend) (g : Frontend → Frontend) : Frontend :=
  if f.config.sound then g f else f

def openWindow (f : Frontend) (title : String) : Frontend :=
  let f := f.whenSound (·.call .preInit)
  let f := { (f.call .init).call (.caption title) with window := true }
  let f := f.whenSound openSound
  f.call (.setMode (f.config.scale.times 64) (f.config.scale.times 32) f.config.fullscreen)

/-- From the machine to the end of the session. -/
def session (f : Frontend) (title : String) : Frontend × Except FrontendError Unit :=
  let f := { f.openWindow title with running := true }
  andThen (f.loop f.host.frames) fun f () => (f.close, .ok ())

end Frontend

/-- What a run of the frontend leaves: the frontend, if there came to be one,
else the host and what was printed. -/
structure Run where
  frontend : Option Frontend
  host : Host
  output : String
  result : Except FrontendError Unit

namespace Run

def failed (h : Host) (output : String) (e : FrontendError) : Run := ⟨none, h, output, .error e⟩

def ofFrontend (r : Frontend × Except FrontendError Unit) : Run :=
  ⟨some r.1, r.1.host, r.1.output, r.2⟩

end Run

namespace Config

def title (path : Path) : String := "CHIP-8 - " ++ path.name

/-- Runs the program of a checked configuration. -/
def run (c : Config) (palette : Palette) (categories : Categories) (entropy : Entropy)
    (files : Files) (h : Host) : Run :=
  if h.missing then .failed h "" .libraryMissing
  else match c.romPath with
    | none => .failed h "" .romRequired
    | some path =>
      let data := files.read path
      let printed := categories.print (Frontend.readEvents h.room data)
      match Frontend.machineFrom c h.room entropy path data with
      | .error e => .failed h printed e
      | .ok m =>
        .ofFrontend (((Frontend.start c categories palette m h).say printed).session (title path))

end Config

end Chip8
