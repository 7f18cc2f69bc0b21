import Chip8.Number.Rounding
import Chip8.Text.Radix

/-!
Numbers of the form `m / 2 ^ k` in decimal with a chosen number of digits:
positional, with an exponent, or whichever of the two is shorter. Such a number
has no more than `k` places; those beyond are zeros.
-/

namespace Chip8.Number

/-- Places that `num / den` must move left until it reaches one. -/
def leftShift (fuel num den : Nat) : Nat :=
  match fuel with
  | 0 => 0
  | fuel + 1 => if den ≤ num then 0 else leftShift fuel (num * 10) den + 1

/-- The place of the leading digit; that of zero stands before the point. -/
def magnitude (num den : Nat) : Int :=
  if num = 0 then 0
  else if den ≤ num then ((Text.digits 10 (num / den)).length : Int) - 1
  else -(leftShift (den.log2 + 1) num den : Int)

def zeros (n : Nat) : List Char := List.replicate n '0'

/-- Exactly `n` digits, for a number that has no more. -/
def digitsFor (n c : Nat) : List Char := if n = 0 then [] else (Text.decimal n c).toList

/-- The `n` leading digits, rounded, and the place of the first; zeros behind the
last digit that such a number can have are left out. -/
def significant (n m k : Nat) : List Char × Int :=
  let e := magnitude m (Nat.pow 2 k)
  let kept := min n (max 1 (e + 1 + k).toNat)
  let shift := (kept : Int) - 1 - e
  let c := roundEvenNat (m * Nat.pow 10 shift.toNat) (Nat.pow 2 k * Nat.pow 10 (-shift).toNat)
  if c = Nat.pow 10 kept then ('1' :: zeros (kept - 1), e + 1) else (digitsFor kept c, e)

/-- Zeros at the end are no digits of their own. -/
def withoutZeros (ds : List Char) : List Char := (ds.reverse.dropWhile (· = '0')).reverse

/-- A point stands before places, and where `full` also before none. -/
def withPlaces (full : Bool) (whole places : List Char) : List Char :=
  if places.isEmpty && !full then whole else whole ++ '.' :: places

def exponentMark (exponent : Int) : List Char :=
  'e' :: (if exponent < 0 then '-' else '+') :: (Text.decimal 2 exponent.natAbs).toList

inductive RealShape where
  | fixed
  | exponent
  | general
  deriving DecidableEq, Repr

/-- `full` keeps the point and the zeros at the end. -/
structure RealForm where
  shape : RealShape
  places : Nat
  full : Bool
  deriving DecidableEq, Repr

namespace RealForm

def fixed (f : RealForm) (m k : Nat) : List Char :=
  let kept := min f.places k
  let scaled := roundEvenNat (m * Nat.pow 10 kept) (Nat.pow 2 k)
  withPlaces f.full (Text.digits 10 (scaled / Nat.pow 10 kept))
    (digitsFor kept (scaled % Nat.pow 10 kept) ++ zeros (f.places - kept))

def exponent (f : RealForm) (m k : Nat) : List Char :=
  let n := f.places + 1
  let (ds, e) := significant n m k
  withPlaces f.full (ds.take 1) (ds.drop 1 ++ zeros (n - ds.length)) ++ exponentMark e

/-- The places count all digits, and there is at least one. -/
def general (f : RealForm) (m k : Nat) : List Char :=
  let n := max 1 f.places
  let (ds, e) := significant n m k
  let shown (whole places : List Char) :=
    withPlaces f.full whole
      (if f.full then places ++ zeros (n - ds.length) else withoutZeros places)
  if e < -4 || (n : Int) ≤ e then shown (ds.take 1) (ds.drop 1) ++ exponentMark e
  else if e < 0 then shown ['0'] (zeros (-e - 1).toNat ++ ds)
  else shown (ds.take (e + 1).toNat) (ds.drop (e + 1).toNat)

/-- The digits of `m / 2 ^ k`. -/
def body (f : RealForm) (m k : Nat) : List Char :=
  match f.shape with
  | .fixed => f.fixed m k
  | .exponent => f.exponent m k
  | .general => f.general m k

end RealForm

end Chip8.Number
