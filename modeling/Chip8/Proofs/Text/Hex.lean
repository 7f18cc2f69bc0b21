import Chip8.Text.Numeral
import Chip8.Text.Radix
import Mathlib.Algebra.Group.Nat.Defs

/-!
Hexadecimal numbers of a fixed width. A number that fits its width is written digit by digit, the
highest first, with zeros in front (`toList_hex`); and it is read back from them
(`readHex_hexDigits`).
-/

namespace Chip8.Text

/-- The digit for a number below sixteen. -/
def hexDigit (d : Nat) : Char := (Nat.digitChar d).toUpper

/-- The last `k` digits of a number. -/
def hexDigits : Nat → Nat → List Char
  | 0, _ => []
  | k + 1, n => hexDigits k (n / 16) ++ [hexDigit (n % 16)]

def readHex (cs : List Char) : Option Nat :=
  cs.foldlM (fun n c => (digitValue? 16 c).map (16 * n + ·)) 0

theorem digitValue?_hexDigit {d : Nat} (h : d < 16) : digitValue? 16 (hexDigit d) = some d := by
  revert d
  decide

theorem hexDigit_inj {d e : Nat} (hd : d < 16) (he : e < 16) (h : hexDigit d = hexDigit e) :
    d = e := by
  have hv := digitValue?_hexDigit hd
  rw [h, digitValue?_hexDigit he] at hv
  exact (Option.some.inj hv).symm

theorem upperDigits_of_lt {n : Nat} (h : n < 16) : upperDigits 16 n = [hexDigit n] := by
  rw [upperDigits, digits, Nat.toDigits_of_lt_base h]
  rfl

theorem upperDigits_of_le {n : Nat} (h : 16 ≤ n) :
    upperDigits 16 n = upperDigits 16 (n / 16) ++ [hexDigit (n % 16)] := by
  rw [upperDigits, digits, Nat.toDigits_of_base_le (by omega) h, List.map_append]
  rfl

@[simp] theorem length_hexDigits (k n : Nat) : (hexDigits k n).length = k := by
  induction k generalizing n with
  | zero => rfl
  | succ k ih => rw [hexDigits, List.length_append, ih, List.length_singleton]

theorem exists_of_mem_hexDigits {k n : Nat} {c : Char} (h : c ∈ hexDigits k n) :
    ∃ d, c = hexDigit d := by
  induction k generalizing n with
  | zero => cases h
  | succ k ih =>
    rcases List.mem_append.mp h with h | h
    · exact ih h
    · exact ⟨_, List.mem_singleton.mp h⟩

/-- The last digits do not depend on those before them. -/
theorem hexDigits_mod (k n : Nat) : hexDigits k (n % 16 ^ k) = hexDigits k n := by
  induction k generalizing n with
  | zero => rfl
  | succ k ih =>
    have hdiv : n % 16 ^ (k + 1) / 16 = n / 16 % 16 ^ k := by
      rw [Nat.pow_succ, Nat.mul_comm]
      exact Nat.mod_mul_right_div_self n 16 (16 ^ k)
    have hmod : n % 16 ^ (k + 1) % 16 = n % 16 :=
      Nat.mod_mod_of_dvd n (Nat.dvd_mul_left 16 (16 ^ k))
    rw [hexDigits, hexDigits, hdiv, hmod, ih]

/-- The digits of a number with the zeros that its width asks for. -/
theorem replicate_upperDigits {k n : Nat} (hn : n < 16 ^ (k + 1)) :
    List.replicate (k + 1 - (upperDigits 16 n).length) '0' ++ upperDigits 16 n =
      hexDigits (k + 1) n := by
  induction k generalizing n with
  | zero =>
    have hlt : n < 16 := hn
    rw [upperDigits_of_lt hlt, hexDigits, hexDigits, Nat.mod_eq_of_lt hlt]
    rfl
  | succ k ih =>
    have hdiv : n / 16 < 16 ^ (k + 1) := by
      rw [Nat.pow_succ] at hn
      omega
    rw [hexDigits, ← ih hdiv]
    rcases Nat.lt_or_ge n 16 with hlt | hge
    · -- The digits in front are those of zero.
      have hzero : n / 16 = 0 := Nat.div_eq_of_lt hlt
      rw [hzero, upperDigits_of_lt hlt, upperDigits_of_lt (by omega), Nat.mod_eq_of_lt hlt]
      exact congrArg (· ++ [hexDigit n]) List.replicate_succ'
    · rw [upperDigits_of_le hge, List.length_append, List.length_singleton, Nat.add_sub_add_right,
        List.append_assoc]

/-- A number that fits its width is written with its digits. -/
theorem toList_hex {k n : Nat} (hk : 0 < k) (hn : n < 16 ^ k) :
    (hex k n).toList = hexDigits k n := by
  have hsign : ¬(n : Int) < 0 := by omega
  cases k with
  | zero => cases hk
  | succ k =>
    rw [hex, zeroFilled, String.toList_ofList, ← replicate_upperDigits hn]
    simp [hsign]

/-- A number is read back from its digits. -/
theorem readHex_hexDigits {k n : Nat} (hn : n < 16 ^ k) : readHex (hexDigits k n) = some n := by
  induction k generalizing n with
  | zero =>
    have hzero : n = 0 := Nat.lt_one_iff.mp hn
    rw [hzero]
    rfl
  | succ k ih =>
    have hdiv : n / 16 < 16 ^ k := by
      rw [Nat.pow_succ] at hn
      omega
    have hlast : 16 * (n / 16) + n % 16 = n := by omega
    have hread := ih hdiv
    rw [readHex] at hread ⊢
    rw [hexDigits, List.foldlM_append, hread]
    simp [digitValue?_hexDigit (Nat.mod_lt n (by omega)), hlast]

end Chip8.Text
