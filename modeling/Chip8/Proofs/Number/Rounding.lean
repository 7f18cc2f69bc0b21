import Chip8.Proofs.Number.Packing

/-!
Rounding to a double. Finite doubles are counted in units of the smallest positive one; rounding
an integer times a power of two gives the nearest multiple of a power of two that a double can
hold (`roundWithAccuracy_eq`), and what a double can hold is kept (`nearestUnits_of_holds`).
-/

namespace Chip8.Number

open Float.Model (Format UnpackedFloat totalExponent)
open Float.Model.UnpackedFloat

/-! ## Quotients rounded to even -/

theorem roundEvenNat_mul_right (n d : Nat) {c : Nat} (hc : 0 < c) :
    roundEvenNat (n * c) (d * c) = roundEvenNat n d := by
  have hdiv : n * c / (d * c) = n / d := Nat.mul_div_mul_right n d hc
  have hmod : n * c % (d * c) = n % d * c := Nat.mul_mod_mul_right c n d
  have hlt (a b : Nat) : a * c < b * c ↔ a < b := Nat.mul_lt_mul_right hc
  unfold roundEvenNat
  simp only [hdiv, hmod, ← Nat.mul_assoc, hlt]

theorem roundEvenNat_mul_self (q : Nat) {d : Nat} (hd : 0 < d) : roundEvenNat (q * d) d = q := by
  simp [roundEvenNat, hd, Nat.mul_div_left]

theorem le_roundEvenNat (n d : Nat) : n / d ≤ roundEvenNat n d := by
  unfold roundEvenNat
  dsimp only
  split
  · exact Nat.le_refl _
  · split <;> omega

theorem roundEvenNat_le (n d : Nat) : roundEvenNat n d ≤ n / d + 1 := by
  unfold roundEvenNat
  dsimp only
  split
  · omega
  · split
    · exact Nat.le_refl _
    · omega

/-! ## Shifting with two bits to spare -/

/-- A mantissa without further bits, shifted out by one place and more. -/
theorem shiftRight_succ (m n : Nat) :
    ExtendedMantissa.ofMantissaAndAccuracy m .exact >>> (n + 1) =
      ⟨m / 2 ^ (n + 1), m / 2 ^ n % 2 != 0, m % 2 ^ n != 0⟩ := by
  show (n + 1).repeat ExtendedMantissa.shiftRightOne _ = _
  induction n with
  | zero =>
    simp [Nat.repeat, ExtendedMantissa.ofMantissaAndAccuracy, ExtendedMantissa.shiftRightOne,
      Nat.mod_one]
  | succ n ih =>
    have hmod := @Nat.mod_pow_succ m 2 n
    have hpow : 0 < 2 ^ n := Nat.two_pow_pos n
    have hbit : m / 2 ^ n % 2 < 2 := Nat.mod_lt _ (by omega)
    have hsticky : (m / 2 ^ n % 2 != 0 || m % 2 ^ n != 0) = (m % 2 ^ (n + 1) != 0) := by
      rw [hmod, Bool.eq_iff_iff]
      rcases (by omega : m / 2 ^ n % 2 = 0 ∨ m / 2 ^ n % 2 = 1) with h | h <;> simp [h]
    rw [Nat.repeat, ih, ExtendedMantissa.shiftRightOne]
    dsimp only
    rw [Nat.div_div_eq_div_mul, ← Nat.pow_succ, hsticky]

theorem mantissa_shiftRight (m n : Nat) :
    (ExtendedMantissa.ofMantissaAndAccuracy m .exact >>> n).mantissa = m / 2 ^ n := by
  cases n with
  | zero => exact (Nat.div_one m).symm
  | succ n => rw [shiftRight_succ]

theorem roundedMantissa_mk (q : Nat) (half rest : Bool) :
    (ExtendedMantissa.mk q half rest).roundedMantissa =
      if half then (if rest then q + 1 else q + q % 2) else q := by
  cases half <;> cases rest <;> rfl

/-- The two bits tell how to round to even. -/
theorem roundedMantissa_shiftRight (m n : Nat) :
    (ExtendedMantissa.ofMantissaAndAccuracy m .exact >>> n).roundedMantissa =
      roundEvenNat m (2 ^ n) := by
  cases n with
  | zero =>
    rw [show roundEvenNat m (2 ^ 0) = m by simpa using roundEvenNat_mul_self m Nat.one_pos]
    rfl
  | succ n =>
    have hmod := @Nat.mod_pow_succ m 2 n
    have hlow : m % 2 ^ n < 2 ^ n := Nat.mod_lt _ (Nat.two_pow_pos n)
    have hbit : m / 2 ^ n % 2 < 2 := Nat.mod_lt _ (by omega)
    have hpow : 2 ^ (n + 1) = 2 * 2 ^ n := by rw [Nat.pow_succ, Nat.mul_comm]
    rw [shiftRight_succ, roundedMantissa_mk, roundEvenNat, hmod, hpow]
    generalize m / (2 * 2 ^ n) = q
    -- The bit that was shifted out last tells the halves of `2 ^ (n + 1)` apart.
    rcases (by omega : m / 2 ^ n % 2 = 0 ∨ m / 2 ^ n % 2 = 1) with h | h <;>
      simp only [h, bne_iff_ne, ne_eq, not_true_eq_false, Nat.mul_zero, Nat.mul_one, ↓reduceIte] <;>
      (repeat' split) <;> omega

/-! ## Units -/

/-- Places beyond those that a double of so many units holds. -/
def excess (n : Nat) : Nat := n.log2 - 52

/-- So many units, rounded to what a double holds. -/
def nearestUnits (n : Nat) : Nat := roundEvenNat n (2 ^ excess n) * 2 ^ excess n

theorem log2_mul_two_pow {m : Nat} (hm : 0 < m) (j : Nat) : (m * 2 ^ j).log2 = m.log2 + j := by
  have hpow := Nat.two_pow_pos j
  have hne : m * 2 ^ j ≠ 0 := Nat.ne_of_gt (Nat.mul_pos hm hpow)
  obtain ⟨hlow, hhigh⟩ := (Nat.log2_eq_iff (Nat.ne_of_gt hm)).mp rfl
  rw [Nat.log2_eq_iff hne, Nat.add_right_comm, Nat.pow_add, Nat.pow_add]
  exact ⟨Nat.mul_le_mul_right _ hlow, (Nat.mul_lt_mul_right hpow).mpr hhigh⟩

/-- The exponent that a mantissa is given leaves out the places in excess. -/
theorem targetExponent_eq {m : Nat} (hm : 0 < m) (j : Nat) :
    Format.binary64.targetExponent (totalExponent m ((j : Int) - 1074)) =
      (excess (m * 2 ^ j) : Int) - 1074 := by
  have hmin : Format.binary64.minExponent = -1074 := by decide
  have hbits : (Format.binary64.mantissaBits : Int) = 53 := rfl
  rw [Format.targetExponent, totalExponent, hmin, hbits, excess, log2_mul_two_pow hm]
  omega

theorem shiftToTargetExponent_eq {m : Nat} (hm : 0 < m) (j : Nat) :
    shiftToTargetExponent Format.binary64 m ((j : Int) - 1074) .exact =
      (ExtendedMantissa.ofMantissaAndAccuracy m .exact >>> (excess (m * 2 ^ j) - j),
        ((max j (excess (m * 2 ^ j)) : Nat) : Int) - 1074) := by
  rw [shiftToTargetExponent, targetExponent_eq hm, shiftToExponent]
  have hshift : ((excess (m * 2 ^ j) : Int) - 1074 - ((j : Int) - 1074)).toNat =
      excess (m * 2 ^ j) - j := by omega
  rw [hshift]
  refine Prod.ext rfl ?_
  show (j : Int) - 1074 + (excess (m * 2 ^ j) - j : Nat) = _
  omega

theorem roundEvenNat_one (n : Nat) : roundEvenNat n 1 = n := by
  simpa using roundEvenNat_mul_self n Nat.one_pos

/-- Rounded to its places in excess, a number has the places of a mantissa or the one beyond. -/
theorem roundEvenNat_excess_le {n : Nat} (hn : 0 < n) :
    roundEvenNat n (2 ^ excess n) ≤ 2 ^ 53 := by
  have hhigh := (Nat.log2_lt (Nat.ne_of_gt hn)).mp (Nat.lt_succ_self n.log2)
  unfold excess
  by_cases hl : n.log2 ≤ 52
  · have := Nat.pow_le_pow_right (show 0 < 2 by omega) (Nat.succ_le_succ hl)
    rw [Nat.sub_eq_zero_of_le hl, Nat.pow_zero, roundEvenNat_one]
    omega
  · have hsplit : 2 ^ (n.log2 + 1) = 2 ^ 53 * 2 ^ (n.log2 - 52) := by
      rw [← Nat.pow_add]
      congr 1
      omega
    have hdiv : n / 2 ^ (n.log2 - 52) < 2 ^ 53 :=
      (Nat.div_lt_iff_lt_mul (Nat.two_pow_pos _)).mpr (hsplit ▸ hhigh)
    have := roundEvenNat_le n (2 ^ (n.log2 - 52))
    omega

theorem two_pow_mul_excess_le {n : Nat} (hn : 0 < n) (he : excess n ≠ 0) :
    2 ^ 52 * 2 ^ excess n ≤ n := by
  have hlow := Nat.log2_self_le (Nat.ne_of_gt hn)
  have hl : n.log2 = 52 + excess n := by
    unfold excess at he ⊢
    omega
  rwa [hl, Nat.pow_add] at hlow

theorem le_roundEvenNat_excess {n : Nat} (hn : 0 < n) (he : excess n ≠ 0) :
    2 ^ 52 ≤ roundEvenNat n (2 ^ excess n) :=
  Nat.le_trans ((Nat.le_div_iff_mul_le (Nat.two_pow_pos _)).mpr (two_pow_mul_excess_le hn he))
    (le_roundEvenNat _ _)

theorem roundEvenNat_excess_pos {n : Nat} (hn : 0 < n) : 0 < roundEvenNat n (2 ^ excess n) := by
  by_cases he : excess n = 0
  · rw [he, Nat.pow_zero, roundEvenNat_one]
    exact hn
  · have := le_roundEvenNat_excess hn he
    omega

theorem excess_mul_of_lt {q : Nat} (hq : 0 < q) (hlt : q < 2 ^ 53) (k : Nat) :
    excess (q * 2 ^ k) ≤ k := by
  have := (Nat.log2_lt (Nat.ne_of_gt hq)).mpr hlt
  rw [excess, log2_mul_two_pow hq]
  omega

/-- **Rounding gives the nearest number of units that a double holds**, where the exponent does
not stand above the places in excess. -/
theorem roundWithAccuracy_eq (s : Sign) {m j : Nat} (hm : 0 < m) (hj : j ≤ excess (m * 2 ^ j)) :
    ∃ (q k : Nat) (h : 0 < q),
      roundWithAccuracy Format.binary64 s m ((j : Int) - 1074) .exact =
        .finite s q ((k : Int) - 1074) h ∧
      Canonical q k ∧ q * 2 ^ k = nearestUnits (m * 2 ^ j) := by
  have hn : 0 < m * 2 ^ j := Nat.mul_pos hm (Nat.two_pow_pos j)
  -- The places that are shifted out are those in excess.
  have hround : (ExtendedMantissa.ofMantissaAndAccuracy m .exact >>>
      (excess (m * 2 ^ j) - j)).roundedMantissa =
        roundEvenNat (m * 2 ^ j) (2 ^ excess (m * 2 ^ j)) := by
    rw [roundedMantissa_shiftRight, ← roundEvenNat_mul_right _ _ (Nat.two_pow_pos j),
      ← Nat.pow_add, Nat.sub_add_cancel hj]
  have hle := roundEvenNat_excess_le hn
  have hge := fun he => le_roundEvenNat_excess hn he
  have hpos := roundEvenNat_excess_pos hn
  unfold roundWithAccuracy nearestUnits
  rw [shiftToTargetExponent_eq hm, Nat.max_eq_right hj]
  dsimp only
  rw [hround]
  generalize excess (m * 2 ^ j) = k at hle hge hpos ⊢
  generalize roundEvenNat (m * 2 ^ j) (2 ^ k) = q at hle hge hpos ⊢
  rw [shiftToTargetExponent_eq hpos]
  dsimp only
  rw [mantissa_shiftRight]
  obtain hlt | rfl : q < 2 ^ 53 ∨ q = 2 ^ 53 := by omega
  · have hfit := excess_mul_of_lt hpos hlt k
    rw [Nat.sub_eq_zero_of_le hfit, Nat.max_eq_left hfit, Nat.pow_zero, Nat.div_one,
      dif_neg (Nat.ne_of_gt hpos)]
    refine ⟨q, k, hpos, rfl, ⟨hlt, ?_⟩, rfl⟩
    by_cases hk : k = 0
    · exact .inr hk
    · exact .inl (hge hk)
  · have hover : excess (2 ^ 53 * 2 ^ k) = k + 1 := by
      rw [excess, log2_mul_two_pow (by omega), Nat.log2_two_pow]
      omega
    have hhalf : 2 ^ 53 / 2 ^ (k + 1 - k) = 2 ^ 52 := by
      rw [Nat.add_sub_cancel_left]
      rfl
    rw [hover, hhalf, Nat.max_eq_right (by omega), dif_neg (by omega)]
    refine ⟨2 ^ 52, k + 1, by omega, rfl, ⟨by omega, .inl (Nat.le_refl _)⟩, ?_⟩
    rw [← Nat.pow_add, ← Nat.pow_add]
    congr 1
    omega

/-! ## What a double holds -/

/-- A mantissa of 53 bits and an exponent make this many units. -/
def Holds (n : Nat) : Prop := ∃ q k, q < 2 ^ 53 ∧ n = q * 2 ^ k

theorem Canonical.holds {m k : Nat} (h : Canonical m k) : Holds (m * 2 ^ k) := ⟨m, k, h.lt, rfl⟩

/-- Rounding keeps what a double holds. -/
theorem nearestUnits_of_holds {n : Nat} (h : Holds n) : nearestUnits n = n := by
  obtain ⟨q, k, hlt, rfl⟩ := h
  rcases Nat.eq_zero_or_pos q with rfl | hq
  · simp [nearestUnits, roundEvenNat]
  · have hsplit : q * 2 ^ k = q * 2 ^ (k - excess (q * 2 ^ k)) * 2 ^ excess (q * 2 ^ k) := by
      rw [Nat.mul_assoc, ← Nat.pow_add, Nat.sub_add_cancel (excess_mul_of_lt hq hlt k)]
    unfold nearestUnits
    generalize excess (q * 2 ^ k) = e at hsplit ⊢
    rw [hsplit, roundEvenNat_mul_self _ (Nat.two_pow_pos e)]

theorem pow_split {k c : Nat} (h : k ≤ c) : 2 ^ c = 2 ^ (c - k) * 2 ^ k := by
  rw [← Nat.pow_add, Nat.sub_add_cancel h]

/-- A double holds its multiple of a power of two that lies next below. -/
theorem Holds.floor {n : Nat} (h : Holds n) (c : Nat) : Holds (n / 2 ^ c * 2 ^ c) := by
  obtain ⟨q, k, hlt, rfl⟩ := h
  rcases Nat.le_total c k with hle | hle
  · refine ⟨q, k, hlt, ?_⟩
    rw [pow_split hle, ← Nat.mul_assoc, Nat.mul_div_cancel _ (Nat.two_pow_pos c)]
  · refine ⟨q * 2 ^ k / 2 ^ c, c, ?_, rfl⟩
    rw [pow_split hle, Nat.mul_div_mul_right _ _ (Nat.two_pow_pos k)]
    exact Nat.lt_of_le_of_lt (Nat.div_le_self _ _) hlt

/-- A double holds what lies above that. -/
theorem Holds.mod {n : Nat} (h : Holds n) (c : Nat) : Holds (n % 2 ^ c) := by
  obtain ⟨q, k, hlt, rfl⟩ := h
  rcases Nat.le_total c k with hle | hle
  · refine ⟨0, 0, by omega, ?_⟩
    rw [pow_split hle, ← Nat.mul_assoc, Nat.mul_mod_left, Nat.zero_mul]
  · refine ⟨q % 2 ^ (c - k), k, Nat.lt_of_le_of_lt (Nat.mod_le _ _) hlt, ?_⟩
    rw [pow_split hle, Nat.mul_mod_mul_right]

theorem Canonical.excess_eq {m k : Nat} (h : Canonical m k) (hm : 0 < m) :
    excess (m * 2 ^ k) = k := by
  rw [excess, log2_mul_two_pow hm]
  rcases h.full with hfull | rfl
  · have := log2_add_one h hfull
    omega
  · have := (Nat.log2_lt (Nat.ne_of_gt hm)).mpr h.lt
    omega

/-- The units of the largest double. -/
def largest : Nat := (2 ^ 53 - 1) * 2 ^ topExponent

theorem Canonical.le_largest {m k : Nat} (h : Canonical m k) (hk : k ≤ topExponent) :
    m * 2 ^ k ≤ largest :=
  Nat.mul_le_mul (Nat.le_sub_one_of_lt h.lt) (Nat.pow_le_pow_right (by omega) hk)

/-- No more units than the largest double has need no higher exponent. -/
theorem Canonical.le_topExponent {m k : Nat} (h : Canonical m k) (hle : m * 2 ^ k ≤ largest) :
    k ≤ topExponent := by
  unfold largest at hle
  generalize topExponent = top at hle ⊢
  refine Nat.le_of_not_lt fun hk => ?_
  have hfull : 2 ^ 52 ≤ m := h.full.resolve_right (by omega)
  have hpow : 2 ^ (top + 1) ≤ 2 ^ k := Nat.pow_le_pow_right (by omega) hk
  have hge : 2 ^ 52 * 2 ^ (top + 1) ≤ m * 2 ^ k := Nat.mul_le_mul hfull hpow
  have hpos := Nat.two_pow_pos top
  rw [Nat.pow_succ] at hge
  omega

theorem roundEvenNat_le_of_lt {n d q : Nat} (h : 2 * n < (2 * q + 1) * d) :
    roundEvenNat n d ≤ q := by
  have hdiv : n / d ≤ q := Nat.le_of_lt_succ <| Nat.div_lt_of_lt_mul <| by
    rw [Nat.mul_comm, Nat.succ_mul]
    rw [Nat.add_mul, Nat.mul_assoc] at h
    omega
  have hle := roundEvenNat_le n d
  rcases Nat.lt_or_eq_of_le hdiv with hlt | heq
  · omega
  · have hsplit := Nat.div_add_mod n d
    rw [heq, Nat.mul_comm] at hsplit
    rw [Nat.add_mul, Nat.mul_assoc] at h
    have hlow : 2 * (n % d) < d := by omega
    unfold roundEvenNat
    rw [if_pos hlow]
    exact hdiv

/-- What lies less than half a place above the largest double is rounded down to it. -/
theorem nearestUnits_le_largest {n : Nat} (h : 2 * n < 2 * largest + 2 ^ topExponent) :
    nearestUnits n ≤ largest := by
  rcases Nat.eq_zero_or_pos n with rfl | hn
  · rw [nearestUnits_of_holds ⟨0, 0, by omega, by omega⟩]
    exact Nat.zero_le _
  · unfold nearestUnits largest at *
    generalize topExponent = top at h ⊢
    rcases Nat.lt_trichotomy (excess n) top with hlt | heq | hgt
    · have hround := roundEvenNat_excess_le hn
      have hpow : 2 ^ (excess n + 1) ≤ 2 ^ top := Nat.pow_le_pow_right (by omega) hlt
      have hle := Nat.mul_le_mul_right (2 ^ excess n) hround
      rw [Nat.pow_succ] at hpow
      omega
    · rw [heq]
      refine Nat.mul_le_mul_right _ (roundEvenNat_le_of_lt ?_)
      rw [Nat.add_mul, Nat.mul_assoc, Nat.one_mul]
      exact h
    · exfalso
      have hge := two_pow_mul_excess_le hn (by omega)
      have hpow : 2 ^ (top + 1) ≤ 2 ^ excess n := Nat.pow_le_pow_right (by omega) hgt
      rw [Nat.pow_succ] at hpow
      omega

end Chip8.Number
