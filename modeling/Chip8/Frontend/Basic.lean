import Chip8.Files
import Chip8.Machine.Report
import Chip8.Rom
import Chip8.Sound.Beeper
import Chip8.Trace

/-!
The frontend: a machine with its window, sound, log and trace. How one is set up
from a configuration and a program file, and why that may fail.
-/

namespace Chip8

structure Config where
  romPath : Option Path
  scale : Quantity
  fullscreen : Bool
  clockHz : Quantity
  timerHz : Quantity
  frameRate : Quantity
  palette : String
  sound : Bool
  strict : Bool
  dialect : Dialect

def Config.standard : Config :=
  { romPath := none, scale := .whole 10, fullscreen := false, clockHz := .whole 500
    timerHz := .whole 60, frameRate := .whole 60, palette := "phosphor", sound := true
    strict := false, dialect := .modern }

inductive FrontendError where
  | libraryMissing
  | romRequired
  | romMissing (path : Path)
  | romUnreadable (path : Path) (e : PathFault)
  | romRejected (path : Path) (e : RomError)
  | machineRejected (path : Path) (e : CreateError)
  /-- The processor stopped at an address. -/
  | stopped (pc : Int) (f : Fault)
  | fault (f : Fault)
  | invalid (e : Invalid)
  | number (e : NumberError)
  | tone (e : ToneError)
  | argumentMissing
  deriving DecidableEq, Repr

def FrontendError.message : FrontendError → String
  | .libraryMissing => "pygame is required to run the UI"
  | .romRequired => "ROM image is required"
  | .romMissing path => "ROM file not found: " ++ path.text
  | .romUnreadable path e => e.message path
  | .romRejected path e => "Failed to load ROM " ++ path.text ++ ": " ++ e.message
  | .machineRejected path (.programTooLarge n) =>
    "Failed to load ROM " ++ path.text ++ ": " ++ (CreateError.programTooLarge n).message
  | .machineRejected _ (.fault f) => f.message
  | .stopped pc f => "CHIP-8 fault at " ++ Text.hex 3 pc ++ ": " ++ f.message
  | .fault f => f.message
  | .invalid e => e.message
  | .number e => e.message
  | .tone e => e.message
  | .argumentMissing => "list index out of range"

structure Frontend where
  config : Config
  categories : Categories
  palette : Palette
  machine : Machine
  running : Bool
  stepBudget : Float
  timerBudget : Float
  /-- Frames completed. -/
  frames : Nat
  /-- Whether the window has to be drawn again. -/
  dirty : Bool
  /-- Whether there is a window, whose events can be cleared. -/
  window : Bool
  trace : Option Trace
  beeper : Option Beeper
  host : Host
  /-- The text printed so far. -/
  output : String

namespace Config

/-- Rates are looked at before the palette. -/
def check (c : Config) : Except Invalid Palette :=
  if c.clockHz.isPositive && c.timerHz.isPositive && c.frameRate.isPositive then
    Palette.ofName c.palette
  else .error .rates

end Config

namespace Frontend

def traceCapacity : Nat := 512

def start (c : Config) (categories : Categories) (palette : Palette) (m : Machine) (h : Host) :
    Frontend :=
  { config := c, categories, palette, machine := m, running := false
    stepBudget := 0.0, timerBudget := 0.0, frames := 0, dirty := true, window := false
    trace := if categories.enabled "trace" then some ⟨traceCapacity, []⟩ else none
    beeper := none, host := h, output := "" }

/-- A machine for the program of a file. -/
def machineFrom (c : Config) (room : Room) (entropy : Entropy) (path : Path) :
    Except PathFault Contents → Except FrontendError Machine
  | .error .missing => .error (.romMissing path)
  | .error e => .error (.romUnreadable path e)
  | .ok contents =>
    match Rom.loadFile room programCapacity contents with
    | .error e => .error (.romRejected path e)
    | .ok image =>
      match Machine.create image c.dialect c.strict entropy with
      | .error e => .error (.machineRejected path e)
      | .ok m => .ok m

/-- What reading a file has to say, also if the program is rejected later. -/
def readEvents (room : Room) : Except PathFault Contents → List Event
  | .ok contents => Rom.events (Rom.loadFile room programCapacity contents)
  | .error _ => []

def say (f : Frontend) (s : String) : Frontend := { f with output := f.output ++ s }

def sayLine (f : Frontend) (s : String) : Frontend := f.say (s ++ "\n")

def sayLines (f : Frontend) (ls : List String) : Frontend :=
  f.say (String.join (ls.map (· ++ "\n")))

def log (f : Frontend) (events : List Event) : Frontend := f.say (f.categories.print events)

def logText (f : Frontend) (category text : String) : Frontend :=
  if f.categories.enabled category then f.say (logLine category text) else f

def call (f : Frontend) (c : HostCall) : Frontend := { f with host := f.host.call c }

/-- Takes over the machine of an outcome and prints its events. -/
def adopt {α : Type} (f : Frontend) (o : Outcome α) : Frontend :=
  { f with machine := o.machine }.log o.events

end Frontend

end Chip8
