import Chip8.Frontend.Frame
import Chip8.Proofs.Number.Share

/-!
What is due in a frame. As long as less than one is left over, and the share of a frame fits a
double, a whole number is due and less than one is left over again (`due_units`, `due_ok`).
-/

namespace Chip8

open Number

/-- The quotient of two rates is a finite double. -/
def Quantity.Fits (hz rate : Quantity) : Prop :=
  ∃ share, hz.divide rate = .ok share ∧ share.isFinite = true

/-- Of whole numbers the quotient fits, or there is none. -/
theorem Quantity.fits_or_too_large {n d : Int} (hn : 0 ≤ n) (hd : 0 < d) :
    (whole n).Fits (whole d) ∨ (whole n).divide (whole d) = .error .quotientTooLarge := by
  cases hq : nearest? n d.natAbs with
  | none =>
    refine .inr ?_
    show quotient n d = _
    simp only [quotient, if_neg (show ¬d = 0 by omega), if_neg (show ¬d < 0 by omega), hq]
  | some x =>
    refine .inl ⟨x, ?_, isFinite_nearest hn hq⟩
    show quotient n d = _
    simp only [quotient, if_neg (show ¬d = 0 by omega), if_neg (show ¬d < 0 by omega), hq]

namespace Frontend

/-- Less than one, and not below zero. -/
def Leftover (budget : Float) : Prop := ∃ a, units budget = some a ∧ a < one

theorem leftover_zero : Leftover 0.0 :=
  ⟨0, by rw [units, unpack_zero]; rfl, Nat.two_pow_pos _⟩

variable {budget : Float} {hz rate : Quantity}

/-- With less than one the sum does not go beyond the largest double. -/
theorem nearestUnits_add_le {a b : Nat} (ha : a < one) (hb : b ≤ largest) :
    nearestUnits (a + b) ≤ largest := by
  have hpow : one * 2 ≤ 2 ^ topExponent := by
    unfold one
    rw [← Nat.pow_succ]
    exact Nat.pow_le_pow_right (by omega) (by decide)
  refine nearestUnits_le_largest ?_
  omega

/-- **The whole part of the sum is due, and the rest of it is left over**: nothing is lost
between frames but by rounding the sum. -/
theorem due_units {share : Float} {a b : Nat} (hbudget : units budget = some a) (ha : a < one)
    (hdivide : hz.divide rate = .ok share) (hshare : units share = some b) :
    (due budget hz rate).2 = .ok (nearestUnits (a + b) / one) ∧
      units (due budget hz rate).1 = some (nearestUnits (a + b) % one) := by
  have htotal := units_add hbudget hshare
    (nearestUnits_add_le ha (counted_of_units hshare).le_largest)
  have hcounted := counted_of_units htotal
  generalize nearestUnits (a + b) = n at htotal hcounted ⊢
  -- Both parts of the sum are doubles, so neither conversion nor difference is rounded.
  have hwhole : Holds (n / one * one) := hcounted.holds.floor unitPlaces
  have hrest : Holds (n % one) := hcounted.holds.mod unitPlaces
  have hfloor : n / one * one ≤ n := Nat.div_mul_le_self n one
  have hkept : nearestUnits (n - n / one * one) = n % one := by
    rw [← Nat.mod_eq_sub_div_mul, nearestUnits_of_holds hrest]
  have hleft := units_sub htotal (units_ofInt hwhole (Nat.le_trans hfloor hcounted.le_largest))
    hfloor (by rw [hkept]; exact Nat.le_trans (Nat.mod_le _ _) hcounted.le_largest)
  rw [hkept] at hleft
  unfold due
  rw [hdivide]
  dsimp only
  rw [truncate_units htotal]
  exact ⟨rfl, hleft⟩

/-- **In every frame a whole number is due**, and less than one stays over for the next. -/
theorem due_ok (hbudget : Leftover budget) (hhz : hz.isPositive = true)
    (hrate : rate.isPositive = true) (hfits : hz.Fits rate) :
    ∃ n, (due budget hz rate).2 = .ok n ∧ Leftover (due budget hz rate).1 := by
  obtain ⟨a, ha, hlt⟩ := hbudget
  obtain ⟨share, hdivide, hfinite⟩ := hfits
  obtain ⟨b, hb⟩ := Quantity.units_of_divide hhz hrate hdivide hfinite
  obtain ⟨hdue, hleft⟩ := due_units ha hlt hdivide hb
  exact ⟨_, hdue, _, hleft, Nat.mod_lt _ (Nat.two_pow_pos _)⟩

end Frontend

end Chip8
