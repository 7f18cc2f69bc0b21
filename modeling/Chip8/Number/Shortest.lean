import Chip8.Number.Binary64
import Chip8.Number.Decimal

/-!
Doubles in decimal: the fewest digits that read back as the same double, and of
those the nearest to it. Positional from 0.0001 up to 16 digits, with an exponent
beyond.
-/

namespace Chip8.Number

/-- The numbers that read back as one double, over a common denominator. -/
structure Reach where
  low : Nat
  value : Nat
  high : Nat
  den : Nat
  /-- Whether the ends belong to it. -/
  closed : Bool

/-- Halfway to the neighbours; below a power of two the neighbour is nearer. -/
def Reach.of (m : Nat) (q : Int) : Reach :=
  let up := Nat.pow 2 (q - 2).toNat
  let low := if m = fractionCount && -1074 < q then 4 * m - 1 else 4 * m - 2
  ⟨low * up, 4 * m * up, (4 * m + 2) * up, Nat.pow 2 (2 - q).toNat, m % 2 = 0⟩

/-- Whether `c` times ten to the `k` reads back. -/
def Reach.holds (r : Reach) (c : Nat) (k : Int) : Bool :=
  let x := c * Nat.pow 10 k.toNat * r.den
  let scale := Nat.pow 10 (-k).toNat
  if r.closed then r.low * scale ≤ x && x ≤ r.high * scale
  else r.low * scale < x && x < r.high * scale

/-- The neighbours on the grid of ten to the `k` that read back, the nearer first. -/
def Reach.onGrid (r : Reach) (k : Int) : Option Nat :=
  let num := r.value * Nat.pow 10 (-k).toNat
  let den := r.den * Nat.pow 10 k.toNat
  let c := num / den
  let order := if roundEvenNat num den = c then [c, c + 1] else [c + 1, c]
  order.find? (r.holds · k)

/-- Digits and the place of the last of them, from coarse grids to fine ones. -/
def Reach.digitsFrom (r : Reach) (k : Int) : Nat → Nat × Int
  | 0 => (0, k)
  | n + 1 =>
    match r.onGrid k with
    | some c => (c, k)
    | none => r.digitsFrom (k - 1) n

def shortestDigits (m : Nat) (q : Int) : Nat × Int :=
  let r := Reach.of m q
  r.digitsFrom (magnitude r.value r.den) 17

def positionalText (ds : List Char) (point : Int) : List Char :=
  if point ≤ 0 then '0' :: '.' :: List.replicate (-point).toNat '0' ++ ds
  else if (ds.length : Int) ≤ point then
    ds ++ List.replicate (point.toNat - ds.length) '0' ++ ['.', '0']
  else ds.take point.toNat ++ '.' :: ds.drop point.toNat

def exponentText (ds : List Char) (exponent : Int) : List Char :=
  withPlaces false (ds.take 1) (ds.drop 1) ++ exponentMark exponent

def shortestText (x : Float) : String :=
  let sign (negative : Bool) := if negative then ['-'] else []
  String.ofList <| match exact x with
    | .nan => ['n', 'a', 'n']
    | .infinite negative => sign negative ++ ['i', 'n', 'f']
    | .finite negative m q =>
      if m = 0 then sign negative ++ ['0', '.', '0']
      else
        let (c, k) := shortestDigits m q
        let all := Text.digits 10 c
        let exponent := (all.length : Int) - 1 + k
        let ds := withoutZeros all
        sign negative ++
          if -4 ≤ exponent && exponent < 16 then positionalText ds (exponent + 1)
          else exponentText ds exponent

end Chip8.Number
