import Chip8.Number.Binary64
import Chip8.Text.Numeral

/-!
Doubles from their decimal text: a sign, digits with a point among them, and an
exponent, or the words for infinity and for no number.
-/

namespace Chip8.Number

/-- The double nearest to `digits` times ten to the `exponent`. -/
def scaled (digits : Nat) (exponent : Int) : Float :=
  (nearest? (digits * Nat.pow 10 exponent.toNat) (Nat.pow 10 (-exponent).toNat)).getD (1.0 / 0.0)

def readMagnitude (cs : List Char) : Float :=
  match cs with
  | 'I' :: _ => 1.0 / 0.0
  | 'N' :: _ => 0.0 / 0.0
  | _ =>
    let mantissa := cs.takeWhile fun c => c ≠ 'e' && c ≠ 'E'
    let exponent := (Text.readInt 10 (String.ofList (cs.drop (mantissa.length + 1)))).getD 0
    let places := (mantissa.dropWhile (· ≠ '.')).length - 1
    let digits := (mantissa.filter Char.isDigit).foldl (fun n c => n * 10 + (c.toNat - '0'.toNat)) 0
    scaled digits (exponent - places)

def readReal (s : String) : Float :=
  match s.toList with
  | '-' :: cs => -readMagnitude cs
  | cs => readMagnitude cs

end Chip8.Number
