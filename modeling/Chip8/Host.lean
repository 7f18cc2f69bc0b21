import Chip8.Number.Quantity
import Chip8.Screen.Picture

/-!
The services of a host as a script: the memory it has, the events of each frame,
the lines that will be typed, the answers of the mixer, and a log of what was
asked of it.
-/

namespace Chip8

inductive HostEvent where
  | down (key : String)
  | up (key : String)
  | quit
  | other
  deriving DecidableEq, Repr

/-- What comes at a prompt: a line, or the end of input or an interruption. -/
inductive Typed where
  | line (s : String)
  | broken
  deriving DecidableEq, Repr

inductive HostCall where
  | preInit
  | init
  | caption (text : String)
  | mixerInit
  | setMode (width height : Quantity) (fullscreen : Bool)
  | blit (picture : Picture)
  | flip
  | tick (rate : Quantity)
  | sound (id : Nat) (samples : List Int)
  | findChannel (found : Bool)
  | play (id : Nat)
  | setVolume (volume : Float)
  | stop
  | clearEvents
  | quit

structure Host where
  /-- The library that gives window and sound is not installed. -/
  missing : Bool
  room : Room
  frames : List (List HostEvent)
  typed : List Typed
  /-- The sample rates of an open mixer, or its absence; the last one repeats. -/
  mixer : List (Option Quantity)
  mixerError : Option String
  channels : List Bool
  /-- Readings of the clock, which goes 1024 to the second. -/
  clock : Nat
  sounds : Nat
  /-- The latest call comes first. -/
  calls : List HostCall

namespace Host

def standardRate : Quantity := .whole 44100

def quiet : Host := ⟨false, .full, [], [], [some standardRate], none, [], 0, 0, []⟩

def call (h : Host) (c : HostCall) : Host := { h with calls := c :: h.calls }

def askMixer (h : Host) : Option Quantity × Host :=
  match h.mixer with
  | [] => (none, h)
  | [answer] => (answer, h)
  | answer :: rest => (answer, { h with mixer := rest })

def findChannel (h : Host) : Bool × Host :=
  match h.channels with
  | [] => (true, h.call (.findChannel true))
  | found :: rest => (found, { h with channels := rest }.call (.findChannel found))

def makeSound (h : Host) (samples : List Int) : Nat × Host :=
  let id := h.sounds + 1
  (id, { h with sounds := id }.call (.sound id samples))

def readClock (h : Host) : Nat × Host := (h.clock + 1, { h with clock := h.clock + 1 })

/-- The calls since `earlier` was the state, in order. -/
def callsSince (h earlier : Host) : List HostCall :=
  (h.calls.take (h.calls.length - earlier.calls.length)).reverse

end Host

end Chip8
