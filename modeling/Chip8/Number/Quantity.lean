import Chip8.Number.Binary64

/-!
A number as it is given: whole and of any size, or a double. Quotients, whole
parts and rounding refuse what has no answer.
-/

namespace Chip8

inductive Quantity where
  | whole (n : Int)
  | real (x : Float)

inductive NumberError where
  | nanToWhole
  | infinityToWhole
  | quotientTooLarge
  | wholeTooLarge
  | zeroDivisor
  deriving DecidableEq, Repr

def NumberError.message : NumberError → String
  | .nanToWhole => "cannot convert float NaN to integer"
  | .infinityToWhole => "cannot convert float infinity to integer"
  | .quotientTooLarge => "integer division result too large for a float"
  | .wholeTooLarge => "int too large to convert to float"
  | .zeroDivisor => "division by zero"

namespace Number

def quotient (num den : Int) : Except NumberError Float :=
  if den = 0 then .error .zeroDivisor
  else match nearest? (if den < 0 then -num else num) den.natAbs with
    | some x => .ok x
    | none => .error .quotientTooLarge

def wholeBy (round : Nat → Nat → Nat) (x : Float) : Except NumberError Int :=
  match exact x with
  | .nan => .error .nanToWhole
  | .infinite _ => .error .infinityToWhole
  | .finite negative m e => .ok (Exact.wholeBy round negative m e)

/-- Toward zero. -/
def truncate (x : Float) : Except NumberError Int := wholeBy (· / ·) x

/-- To the nearest, a half to the even neighbour. -/
def round (x : Float) : Except NumberError Int := wholeBy roundEvenNat x

end Number

namespace Quantity

def isPositive : Quantity → Bool
  | whole n => 0 < n
  | real x => !(x ≤ 0.0)

def isInfinite : Quantity → Bool
  | whole _ => false
  | real x => x.isInf

def toFloat : Quantity → Except NumberError Float
  | whole n => match Number.nearest? n 1 with
    | some x => .ok x
    | none => .error .wholeTooLarge
  | real x => .ok x

def truncate : Quantity → Except NumberError Int
  | whole n => .ok n
  | real x => Number.truncate x

/-- Of whole numbers the quotient is rounded once; else both are doubles first. -/
def divide : Quantity → Quantity → Except NumberError Float
  | whole n, whole d => Number.quotient n d
  | q, d => do
    let x ← q.toFloat
    let y ← d.toFloat
    .ok (x / y)

def times (k : Int) : Quantity → Quantity
  | whole n => whole (k * n)
  | real x => real (Float.ofInt k * x)

/-- What is no number counts as one. -/
def atLeastOne : Quantity → Quantity
  | whole n => whole (max 1 n)
  | real x => if 1.0 < x then real x else whole 1

/-- Between zero and one; what is no number counts as one. -/
def unit : Quantity → Float
  | whole n => if n < 1 then 0.0 else 1.0
  | real x => if x < 1.0 then (if x > 0.0 then x else 0.0) else 1.0

end Quantity

end Chip8
