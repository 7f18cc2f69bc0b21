import Chip8.Host
import Chip8.Sound.Tone

/-!
The beeper plays one looping tone on a channel of the host. It asks for a
channel only when it holds none and builds its sound once.
-/

namespace Chip8

structure Beeper where
  sampleRate : Quantity
  frequency : Quantity
  volume : Float
  channel : Bool
  sound : Option Nat
  playing : Bool

inductive BeeperError where
  | libraryMissing
  | mixerClosed
  deriving DecidableEq, Repr

def BeeperError.message : BeeperError → String
  | .libraryMissing => "pygame is required for audio output"
  | .mixerClosed => "pygame mixer must be initialised before creating SquareWaveBeeper"

namespace Beeper

def defaultVolume : Quantity := .real 0.35

def create (rate frequency volume : Quantity) (h : Host) :
    Except BeeperError Beeper × Host :=
  if h.missing then (.error .libraryMissing, h)
  else match h.askMixer with
    | (none, h) => (.error .mixerClosed, h)
    | (some _, h) => (.ok ⟨rate.atLeastOne, frequency, volume.unit, false, none, false⟩, h)

def stop (b : Beeper) (h : Host) : Beeper × Host :=
  ({ b with playing := false }, if b.channel then h.call .stop else h)

/-- The sound, built if there is none yet. -/
def withSound (b : Beeper) (h : Host) : Except ToneError (Nat × Beeper × Host) :=
  match b.sound with
  | some id => .ok (id, b, h)
  | none =>
    match Tone.squareWave b.sampleRate b.frequency Tone.defaultAmplitude with
    | .error e => .error e
    | .ok samples =>
      let (id, h) := h.makeSound samples
      .ok (id, { b with sound := some id }, h)

/-- The channel, asked for if none is held. -/
def withChannel (b : Beeper) (h : Host) : Beeper × Host :=
  if b.channel then (b, h)
  else
    let (found, h) := h.findChannel
    ({ b with channel := found }, h)

/-- Turns the tone on or off; what is already so stays so. -/
def set (b : Beeper) (on : Bool) (h : Host) : Except ToneError Unit × Beeper × Host :=
  if on = b.playing then (.ok (), b, h)
  else if !on then (.ok (), b.stop h)
  else match b.withSound h with
    | .error e => (.error e, b, h)
    | .ok (id, b, h) =>
      match b.withChannel h with
      | (b, h) =>
        if b.channel then
          (.ok (), { b with playing := true }, (h.call (.play id)).call (.setVolume b.volume))
        else (.ok (), b, h)

def shutdown (b : Beeper) (h : Host) : Beeper × Host :=
  let (b, h) := b.stop h
  ({ b with channel := false, sound := none }, h)

end Beeper

end Chip8
