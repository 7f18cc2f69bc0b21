import Chip8.Number.Quantity
import Chip8.Proofs.Number.Rounding

/-!
Arithmetic of doubles in units of the smallest positive one. Sum and difference of doubles that
have no minus sign are the sum and the difference of their units, rounded (`units_add`,
`units_sub`); the whole part is a quotient of units (`truncate_units`).
-/

namespace Chip8.Number

open Float.Model (Format UnpackedFloat totalExponent)
open Float.Model.UnpackedFloat

/-- How many units a number is, if it is finite and not below zero. -/
def unitsOf : UnpackedFloat → Option Nat
  | .zero _ => some 0
  | .finite .positive m e _ => some (m * 2 ^ (e + 1074).toNat)
  | _ => none

def units (x : Float) : Option Nat := unitsOf x.toModel.unpack

/-- Binary places behind the point. -/
def unitPlaces : Nat := 1074

/-- So many units make one. -/
def one : Nat := 2 ^ unitPlaces

theorem unitsOf_finite {m : Nat} (k : Nat) (h : 0 < m) :
    unitsOf (.finite .positive m ((k : Int) - 1074) h) = some (m * 2 ^ k) := by
  have : (((k : Int) - 1074) + 1074).toNat = k := by omega
  rw [unitsOf, this]

/-- The doubles that have units. -/
inductive Counted : UnpackedFloat → Nat → Prop
  | zero (s : Sign) : Counted (.zero s) 0
  | finite {m k : Nat} (h : 0 < m) : Canonical m k → k ≤ topExponent →
      Counted (.finite .positive m ((k : Int) - 1074) h) (m * 2 ^ k)

theorem counted_of_units {x : Float} {n : Nat} (h : units x = some n) :
    Counted x.toModel.unpack n := by
  unfold units at h
  match hu : x.toModel.unpack with
  | .zero s =>
    rw [hu] at h
    cases h
    exact .zero s
  | .finite .positive m e hm =>
    obtain ⟨k, rfl, hc, hk⟩ := unpack_finite hu
    rw [hu, unitsOf_finite] at h
    cases h
    exact .finite hm hc hk
  | .finite .negative _ _ _ | .infinity _ | .notANumber =>
    rw [hu] at h
    cases h

theorem Counted.holds {p : UnpackedFloat} {n : Nat} (h : Counted p n) : Holds n := by
  cases h with
  | zero => exact ⟨0, 0, by omega, by omega⟩
  | finite _ hc _ => exact hc.holds

theorem Counted.le_largest {p : UnpackedFloat} {n : Nat} (h : Counted p n) : n ≤ largest := by
  cases h with
  | zero => exact Nat.zero_le _
  | finite _ hc hk => exact hc.le_largest hk

/-- What has units is packed without loss. -/
theorem Counted.unitsOf_pack {p : UnpackedFloat} {n : Nat} (h : Counted p n) :
    unitsOf (unpack Format.binary64 (pack Format.binary64 p)) = some n := by
  cases h with
  | zero s => rw [unpack_pack_zero, unitsOf]
  | finite hm hc hk => rw [unpack_pack_finite hc hk, unitsOf_finite]

/-! ## Rounding -/

theorem counted_roundWithAccuracy {m j : Nat} (hm : 0 < m) (hj : j ≤ excess (m * 2 ^ j))
    (hle : nearestUnits (m * 2 ^ j) ≤ largest) :
    Counted (roundWithAccuracy Format.binary64 .positive m ((j : Int) - 1074) .exact)
      (nearestUnits (m * 2 ^ j)) := by
  obtain ⟨q, k, hq, hround, hc, hunits⟩ := roundWithAccuracy_eq .positive hm hj
  rw [hround, ← hunits]
  rw [← hunits] at hle
  exact .finite hq hc (hc.le_topExponent hle)

/-- A whole number of some power of two, rounded. -/
theorem counted_normalize (m j : Nat) (hle : nearestUnits (m * 2 ^ j) ≤ largest) :
    Counted (UnpackedFloat.normalize Format.binary64 (m : Int) ((j : Int) - 1074) .positive)
      (nearestUnits (m * 2 ^ j)) := by
  unfold UnpackedFloat.normalize
  rcases Nat.eq_zero_or_pos m with rfl | hm
  · rw [Nat.zero_mul, nearestUnits_of_holds ⟨0, 0, by omega, by omega⟩]
    exact .zero .positive
  · have hgt : compare (m : Int) 0 = .gt := Int.compare_eq_gt.mpr (by omega)
    rw [hgt]
    dsimp only
    -- Before it is rounded the exponent is brought down to the places in excess.
    rw [Int.toNat_natCast]
    unfold Float.Model.UnpackedFloat.round decreaseExponent
    dsimp only
    rw [targetExponent_eq hm]
    have hshift : ((j : Int) - 1074 - (excess (m * 2 ^ j) - 1074)).toNat =
        j - excess (m * 2 ^ j) := by omega
    have hexp : (j : Int) - 1074 - (j - excess (m * 2 ^ j) : Nat) =
        (min j (excess (m * 2 ^ j)) : Nat) - 1074 := by omega
    have hsame : m <<< (j - excess (m * 2 ^ j)) * 2 ^ min j (excess (m * 2 ^ j)) = m * 2 ^ j := by
      rw [Nat.shiftLeft_eq, Nat.mul_assoc, ← Nat.pow_add]
      congr 2
      omega
    rw [hshift, hexp]
    rw [← hsame] at hle
    have hround := counted_roundWithAccuracy (j := min j (excess (m * 2 ^ j)))
      (Nat.shiftLeft_pos_iff.mpr hm) (by rw [hsame]; exact Nat.min_le_right _ _) hle
    rwa [hsame] at hround

/-! ## Sums and differences -/

theorem min_exponents (k l : Nat) :
    min ((k : Int) - 1074) ((l : Int) - 1074) = ((min k l : Nat) : Int) - 1074 := by omega

/-- A mantissa brought to a lower exponent. -/
theorem decreaseExponent_mul {k l : Nat} (m : Nat) (h : l ≤ k) :
    (decreaseExponent m ((k : Int) - 1074) ((l : Int) - 1074)).1 * 2 ^ l = m * 2 ^ k := by
  unfold decreaseExponent
  dsimp only
  rw [Nat.shiftLeft_eq, Nat.mul_assoc, ← Nat.pow_add]
  congr 2
  omega

theorem counted_add {p q : UnpackedFloat} {a b : Nat} (hp : Counted p a) (hq : Counted q b)
    (hle : nearestUnits (a + b) ≤ largest) :
    Counted (add Format.binary64 p q) (nearestUnits (a + b)) := by
  cases hp with
  | zero s =>
    rw [Nat.zero_add, nearestUnits_of_holds hq.holds]
    cases hq with
    | zero t =>
      unfold add
      dsimp only
      split <;> exact .zero _
    | finite hm hc hk => exact .finite hm hc hk
  | @finite m k hm hc hk =>
    cases hq with
    | zero t =>
      rw [Nat.add_zero, nearestUnits_of_holds hc.holds]
      exact .finite hm hc hk
    | @finite m' k' hm' hc' hk' =>
      have hleft := decreaseExponent_mul m (Nat.min_le_left k k')
      have hright := decreaseExponent_mul m' (Nat.min_le_right k k')
      unfold add
      dsimp only
      rw [min_exponents]
      generalize (decreaseExponent m _ _).1 = u at hleft ⊢
      generalize (decreaseExponent m' _ _).1 = v at hright ⊢
      rw [← hleft, ← hright, ← Nat.add_mul] at hle ⊢
      exact counted_normalize (u + v) (min k k') hle

theorem counted_sub {p q : UnpackedFloat} {a b : Nat} (hp : Counted p a) (hq : Counted q b)
    (hab : b ≤ a) (hle : nearestUnits (a - b) ≤ largest) :
    Counted (sub Format.binary64 p q) (nearestUnits (a - b)) := by
  cases hq with
  | zero t =>
    rw [Nat.sub_zero, nearestUnits_of_holds hp.holds]
    cases hp with
    | zero s =>
      unfold sub
      dsimp only
      split <;> exact .zero _
    | finite hm hc hk => exact .finite hm hc hk
  | @finite m' k' hm' hc' hk' =>
    have hpos : 0 < m' * 2 ^ k' := Nat.mul_pos hm' (Nat.two_pow_pos k')
    cases hp with
    | zero s => exact absurd hab (by omega)
    | @finite m k hm hc hk =>
      have hleft := decreaseExponent_mul m (Nat.min_le_left k k')
      have hright := decreaseExponent_mul m' (Nat.min_le_right k k')
      unfold sub
      dsimp only
      rw [min_exponents]
      generalize (decreaseExponent m _ _).1 = u at hleft ⊢
      generalize (decreaseExponent m' _ _).1 = v at hright ⊢
      rw [← hleft, ← hright] at hab
      have huv : v ≤ u := Nat.le_of_mul_le_mul_right hab (Nat.two_pow_pos _)
      have hcast : Sign.positive.apply u - Sign.positive.apply v = ((u - v : Nat) : Int) := by
        show (u : Int) - v = _
        omega
      rw [hcast]
      rw [← hleft, ← hright, ← Nat.sub_mul] at hle ⊢
      exact counted_normalize (u - v) (min k k') hle

/-! ## Doubles -/

variable {x y : Float} {a b : Nat}

theorem units_ofModel_pack {p : UnpackedFloat} (h : Counted p a) :
    units (.ofModel (.pack p)) = some a := h.unitsOf_pack

/-- The sum of two doubles is the sum of their units, rounded. -/
theorem units_add (hx : units x = some a) (hy : units y = some b)
    (hle : nearestUnits (a + b) ≤ largest) : units (x + y) = some (nearestUnits (a + b)) :=
  units_ofModel_pack (counted_add (counted_of_units hx) (counted_of_units hy) hle)

/-- The difference of two doubles, where it is not below zero. -/
theorem units_sub (hx : units x = some a) (hy : units y = some b) (hab : b ≤ a)
    (hle : nearestUnits (a - b) ≤ largest) : units (x - y) = some (nearestUnits (a - b)) :=
  units_ofModel_pack (counted_sub (counted_of_units hx) (counted_of_units hy) hab hle)

/-! ## Whole parts -/

theorem exact_eq (x : Float) : exact x = .ofUnpacked x.toModel.unpack :=
  exactBits_toNat x.toModel.toBits.toBitVec

theorem wholeBy_zero (negative : Bool) (e : Int) :
    Exact.wholeBy (· / ·) negative 0 e = 0 := by
  cases negative <;> simp [Exact.wholeBy]

/-- The whole part of a number that counts units of which `2 ^ c` make one. -/
theorem wholeBy_mul_two_pow (m k c : Nat) :
    Exact.wholeBy (· / ·) false m ((k : Int) - c) = ((m * 2 ^ k / 2 ^ c : Nat) : Int) := by
  unfold Exact.wholeBy
  dsimp only
  rw [if_neg Bool.false_ne_true]
  split
  · have hsplit : 2 ^ k = 2 ^ ((k : Int) - c).toNat * 2 ^ c := by
      rw [← Nat.pow_add]
      congr 1
      omega
    rw [hsplit, ← Nat.mul_assoc, Nat.mul_div_cancel _ (Nat.two_pow_pos c)]
    rfl
  · have hsplit : 2 ^ c = 2 ^ (-((k : Int) - c)).toNat * 2 ^ k := by
      rw [← Nat.pow_add]
      congr 1
      omega
    rw [hsplit, Nat.mul_div_mul_right _ _ (Nat.two_pow_pos k)]
    rfl

/-- The whole part of a double is the quotient of its units by those of one. -/
theorem truncate_units (hx : units x = some a) : truncate x = .ok ((a / one : Nat) : Int) := by
  have hcounted := counted_of_units hx
  unfold truncate wholeBy one
  rw [exact_eq]
  generalize x.toModel.unpack = p at hcounted ⊢
  cases hcounted with
  | zero s =>
    rw [Nat.zero_div]
    exact congrArg _ (wholeBy_zero _ _)
  | @finite m k hm hc hk => exact congrArg _ (wholeBy_mul_two_pow m k unitPlaces)

/-- The mantissa and the exponent of the double one. -/
def oneFloat : UnpackedFloat := .finite .positive (2 ^ 52) (-52) (by decide)

theorem unpack_powersOfTen_zero :
    (Float.ofBits 0x3FF0000000000000).toModel.unpack = oneFloat := by rfl

/-- What is not below one is kept when it is multiplied by one. -/
theorem Counted.mul_one {p : UnpackedFloat} (h : Counted p a) (hge : a ≠ 0 → one ≤ a) :
    Counted (mul Format.binary64 p oneFloat) a := by
  cases h with
  | zero s => exact .zero _
  | @finite m k hm hc hk =>
    have hpos : 0 < m * 2 ^ k := Nat.mul_pos hm (Nat.two_pow_pos k)
    have hplaces : 52 ≤ k := by
      have hlt : 2 ^ unitPlaces < 2 ^ (53 + k) := by
        rw [Nat.pow_add]
        exact Nat.lt_of_le_of_lt (hge (by omega))
          ((Nat.mul_lt_mul_right (Nat.two_pow_pos k)).mpr hc.lt)
      have := (Nat.pow_lt_pow_iff_right (by omega)).mp hlt
      unfold unitPlaces at this
      omega
    have hsame : m * 2 ^ 52 * 2 ^ (k - 52) = m * 2 ^ k := by
      rw [Nat.mul_assoc, ← Nat.pow_add]
      congr 2
      omega
    have hexp : (k : Int) - 1074 + -52 = ((k - 52 : Nat) : Int) - 1074 := by omega
    have hround := counted_roundWithAccuracy (m := m * 2 ^ 52) (j := k - 52) (by omega)
    rw [hsame, hc.excess_eq hm, nearestUnits_of_holds hc.holds] at hround
    unfold mul oneFloat
    dsimp only
    rw [hexp]
    exact hround (by omega) (hc.le_largest hk)

/-- A whole number that a double holds is taken over as it is. -/
theorem units_ofInt {n : Nat} (h : Holds (n * one)) (hle : n * one ≤ largest) :
    units (Float.ofInt n) = some (n * one) := by
  have hkept := nearestUnits_of_holds h
  show units (Float.ofScientific n false 0) = _
  unfold Float.ofScientific
  split
  · next hfast =>
    -- A small number is converted, and multiplied by the zeroth power of ten.
    have hnat : n.toUInt64.toNat = n := by
      show n % 2 ^ 64 = n
      omega
    have hfloat : units n.toUInt64.toFloat = some (n * one) := by
      have hround := counted_normalize n unitPlaces
      rw [← one, hkept] at hround
      refine units_ofModel_pack (p := .normalize Format.binary64 n.toUInt64.toNat 0 .positive) ?_
      rw [hnat]
      exact hround hle
    have hge : n * one ≠ 0 → one ≤ n * one := fun hne =>
      Nat.le_mul_of_pos_left _ (Nat.pos_of_ne_zero fun hz => hne (by rw [hz, Nat.zero_mul]))
    rw [if_neg Bool.false_ne_true]
    have hmul := (counted_of_units hfloat).mul_one hge
    rw [← unpack_powersOfTen_zero] at hmul
    exact units_ofModel_pack hmul
  · next hslow =>
    have hn : 0 < n := by omega
    have hpow : (2 : Int) ^ Format.binary64.exponentBits = 2048 := rfl
    have hsafe : ¬Int.ofNat 0 < -((2 : Int) ^ Format.binary64.exponentBits + n.log2) := by
      rw [hpow, Int.ofNat_eq_natCast]
      omega
    have hsame : n <<< 53 * 10 ^ 0 * 2 ^ (unitPlaces - 53) = n * one := by
      rw [Nat.shiftLeft_eq, Nat.pow_zero, Nat.mul_one, Nat.mul_assoc, ← Nat.pow_add,
        Nat.add_sub_cancel' (by decide), one]
    have hexcess : unitPlaces - 53 ≤ excess (n * one) := by
      rw [excess, one, log2_mul_two_pow hn]
      omega
    have hround := counted_roundWithAccuracy (m := n <<< 53 * 10 ^ 0) (j := unitPlaces - 53)
      (by rw [Nat.shiftLeft_eq]; omega)
    rw [hsame, hkept] at hround
    rw [if_neg Bool.false_ne_true]
    refine units_ofModel_pack ?_
    unfold ofScientific
    rw [dif_neg (by omega), if_neg (by decide), if_neg hsafe, if_pos (by decide)]
    exact hround hexcess hle

end Chip8.Number
