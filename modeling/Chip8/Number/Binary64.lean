import Chip8.Number.Rounding

/-!
Doubles as exact numbers: reading one as an integer times a power of two, and
the double nearest to a quotient of integers.
-/

namespace Chip8.Number

inductive Exact where
  | nan
  | infinite (negative : Bool)
  | finite (negative : Bool) (mantissa : Nat) (exponent : Int)
  deriving DecidableEq, Repr

/-- Whether a minus sign is written. -/
def Exact.negative : Exact → Bool
  | .nan => false
  | .infinite negative | .finite negative .. => negative

/-- Fractions between two powers of two. -/
def fractionCount : Nat := 0x10000000000000

def exactBits (bits : Nat) : Exact :=
  let negative := 0x8000000000000000 ≤ bits
  let e : Nat := bits / fractionCount % 2048
  let fraction := bits % fractionCount
  if e = 2047 then if fraction = 0 then .infinite negative else .nan
  else if e = 0 then .finite negative fraction (-1074)
  else .finite negative (fractionCount + fraction) ((e : Int) - 1075)

def exact (x : Float) : Exact := exactBits x.toBits.toNat

/-- The whole number `round num den`, where `num / den` is the absolute value. -/
def Exact.wholeBy (round : Nat → Nat → Nat) (negative : Bool) (m : Nat) (e : Int) : Int :=
  let n := if 0 ≤ e then m * Nat.pow 2 e.toNat else round m (Nat.pow 2 (-e).toNat)
  if negative then -(n : Int) else n

/-- The bits of the double nearest to `num / den`, without a sign; `none` where
it lies beyond the largest one. -/
def nearestBits? (num den : Nat) : Option Nat :=
  if num = 0 then some 0
  else
    let l : Int := (num.log2 : Int) - den.log2
    let whole := num * Nat.pow 2 (-l).toNat < den * Nat.pow 2 l.toNat
    let e : Int := max (-1074) (if whole then l - 53 else l - 52)
    let q := roundEvenNat (num * Nat.pow 2 (-e).toNat) (den * Nat.pow 2 e.toNat)
    let bits := (e + 1074).toNat * fractionCount + q
    if bits < 2047 * fractionCount then some bits else none

def nearest? (num : Int) (den : Nat) : Option Float :=
  (nearestBits? num.natAbs den).map fun bits =>
    Float.ofBits (UInt64.ofNat (bits + if num < 0 then 0x8000000000000000 else 0))

end Chip8.Number
