/-!
Quotients rounded to the nearest whole number, a half to the even neighbour.
-/

namespace Chip8.Number

def roundEvenNat (num den : Nat) : Nat :=
  let q := num / den
  let r := num % den
  if 2 * r < den then q
  else if den < 2 * r then q + 1
  else q + q % 2

end Chip8.Number
