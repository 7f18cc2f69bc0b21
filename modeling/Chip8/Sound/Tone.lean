import Chip8.Number.Quantity

/-!
One period of a square wave: the first half at the amplitude, the rest at its
negative.
-/

namespace Chip8

inductive ToneError where
  | frequency
  | number (e : NumberError)
  | sampleHigh
  | sampleLow
  | sampleWide
  | sampleFraction
  deriving DecidableEq, Repr

def ToneError.message : ToneError → String
  | .frequency => "frequency must be positive"
  | .number e => e.message
  | .sampleHigh => "signed short integer is greater than maximum"
  | .sampleLow => "signed short integer is less than minimum"
  | .sampleWide => "Python int too large to convert to C long"
  | .sampleFraction => "'float' object cannot be interpreted as an integer"

namespace Tone

/-- Samples in a period: the quotient rounded, and at least two. -/
def period (rate frequency : Quantity) : Except ToneError Nat :=
  if !frequency.isPositive then .error .frequency
  else match (rate.divide frequency).bind Number.round with
    | .ok n => .ok (max 2 n).toNat
    | .error e => .error (.number e)

/-- Why a sample does not fit 16 bits, if it does not. -/
def misfit? (sample : Int) : Option ToneError :=
  if sample < -0x8000000000000000 ∨ 0x8000000000000000 ≤ sample then some .sampleWide
  else if 0x8000 ≤ sample then some .sampleHigh
  else if sample < -0x8000 then some .sampleLow
  else none

/-- A period of `n` samples. -/
def wave (n : Nat) (amplitude : Int) : Except ToneError (List Int) :=
  match (misfit? amplitude).orElse fun _ => misfit? (-amplitude) with
  | some e => .error e
  | none => .ok (List.replicate (n / 2) amplitude ++ List.replicate (n - n / 2) (-amplitude))

def squareWave (rate frequency amplitude : Quantity) : Except ToneError (List Int) :=
  match period rate frequency with
  | .error e => .error e
  | .ok n =>
    match amplitude with
    | .whole a => wave n a
    | .real _ => .error .sampleFraction

def defaultFrequency : Quantity := .real 440.0
def defaultAmplitude : Quantity := .whole 8000

end Tone

end Chip8
