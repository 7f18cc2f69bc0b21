import Mathlib
import Chip8.Number.Binary64

/-!
The bits of a double and what they stand for. A double that is finite is a mantissa of at most
53 bits and an exponent, full unless the exponent is the lowest (`unpack_finite`); such a pair
survives packing (`unpack_pack_finite`).
-/

namespace Chip8.Number

open Float.Model (Format UnpackedFloat)
open Float.Model.UnpackedFloat

/-- Mantissa and exponent of a double, the exponent counted from the lowest: the mantissa has
53 bits, or fewer at the lowest exponent. -/
structure Canonical (m k : Nat) : Prop where
  lt : m < 2 ^ 53
  full : 2 ^ 52 ≤ m ∨ k = 0

/-- The largest exponent of a double, counted from the lowest. -/
def topExponent : Nat := 2045

theorem log2_add_one {m k : Nat} (h : Canonical m k) (hm : 2 ^ 52 ≤ m) : m.log2 + 1 = 53 := by
  have hne : m ≠ 0 := by omega
  have := (Nat.log2_lt hne).mpr h.lt
  have := (Nat.le_log2 hne).mpr hm
  omega

/-! ## Fields -/

theorem toNat_unpackMantissa (b : BitVec 64) :
    (unpackMantissa b : BitVec Format.binary64.mantissaBitsWithoutImplicit).toNat =
      b.toNat % 2 ^ 52 := by
  simp [unpackMantissa]

theorem toNat_unpackExponent (b : BitVec 64) :
    (unpackExponent b : BitVec Format.binary64.exponentBits).toNat = b.toNat / 2 ^ 52 % 2048 := by
  simp [unpackExponent, Nat.shiftRight_eq_div_pow]

theorem toNat_unpackSign (b : BitVec 64) :
    (@unpackSign Format.binary64 b).toNat = b.toNat / 2 ^ 63 := by
  have := b.isLt
  simp [unpackSign, Nat.shiftRight_eq_div_pow]
  omega

theorem unpackSign_packComponents (spec : Format) (s : Sign) (e : BitVec spec.exponentBits)
    (m : BitVec spec.mantissaBitsWithoutImplicit) :
    unpackSign (packComponents spec s e m) = s.toBitVec := by
  ext i hi
  obtain rfl : i = 0 := by omega
  simp [unpackSign, packComponents, BitVec.getLsbD_append, BitVec.getElem_append]

theorem ofBitVec_toBitVec (s : Sign) : Sign.ofBitVec s.toBitVec = s := by cases s <;> rfl

theorem toNat_one_append (m : BitVec 52) : (1#1 ++ m).toNat = 2 ^ 52 + m.toNat := by
  rw [BitVec.toNat_append, ← Nat.shiftLeft_add_eq_or_of_lt m.isLt]
  rfl

/-! ## Reading and writing finite doubles -/

theorem bias_eq : (Format.binary64.exponentBias : Int) + (52 : Nat) = 1075 := by decide

theorem toNat_ne_of_ne_neg_one {e : BitVec 11} (h : ¬e = -1#11) : e.toNat ≤ 2046 := by
  have hlt := e.isLt
  have hne : e.toNat ≠ (-1#11).toNat := fun he => h (BitVec.eq_of_toNat_eq he)
  have : (-1#11).toNat = 2047 := rfl
  omega

theorem toNat_pos_of_ne_zero {w : Nat} {v : BitVec w} (h : ¬v = 0#w) : 0 < v.toNat := by
  have hne : v.toNat ≠ (0#w).toNat := fun he => h (BitVec.eq_of_toNat_eq he)
  simp at hne
  omega

/-- The mantissa and the exponent of a finite double. -/
theorem unpack_finite {b : BitVec 64} {s : Sign} {m : Nat} {e : Int} {h : 0 < m}
    (hu : unpack Format.binary64 b = .finite s m e h) :
    ∃ k : Nat, e = k - 1074 ∧ Canonical m k ∧ k ≤ topExponent := by
  have hmantissa : (unpackMantissa b :
      BitVec Format.binary64.mantissaBitsWithoutImplicit).toNat < 2 ^ 52 := BitVec.isLt _
  unfold unpack at hu
  dsimp only at hu
  split at hu
  · split at hu <;> cases hu
  · next hinf =>
    have htop := toNat_ne_of_ne_neg_one hinf
    split at hu
    · next hlow =>
      split at hu
      · cases hu
      · cases hu
        refine ⟨0, ?_, ⟨by omega, .inr rfl⟩, Nat.zero_le _⟩
        rw [bias_eq, hlow]
        rfl
    · next hlow =>
      have hpos := toNat_pos_of_ne_zero hlow
      cases hu
      refine ⟨(unpackExponent b : BitVec Format.binary64.exponentBits).toNat - 1, ?_,
        ⟨?_, .inl ?_⟩, ?_⟩
      · rw [bias_eq]
        omega
      · rw [toNat_one_append]
        omega
      · rw [toNat_one_append]
        omega
      · unfold topExponent
        omega

theorem finite_congr {s : Sign} {m m' : Nat} {e e' : Int} {h : 0 < m} {h' : 0 < m'} (hm : m = m')
    (he : e = e') : UnpackedFloat.finite s m e h = .finite s m' e' h' := by
  subst hm he
  rfl

/-- What a canonical pair is packed to. -/
theorem pack_finite {m k : Nat} (hc : Canonical m k) (hk : k ≤ topExponent) (s : Sign)
    (h : 0 < m) :
    pack Format.binary64 (.finite s m ((k : Int) - 1074) h) =
      packComponents Format.binary64 s (if 2 ^ 52 ≤ m then BitVec.ofNat 11 (k + 1) else 0#11)
        (BitVec.ofNat 52 m) := by
  have hbiased : ((k : Int) - 1074 + Format.binary64.exponentBias +
      Format.binary64.mantissaBitsWithoutImplicit).toNat = k + 1 := by
    show ((k : Int) - 1074 + Format.binary64.exponentBias + (52 : Nat)).toNat = k + 1
    have := bias_eq
    omega
  have hfit : ¬2 ^ Format.binary64.exponentBits ≤ k + 1 + 1 := by
    show ¬2 ^ 11 ≤ k + 1 + 1
    unfold topExponent at hk
    omega
  have hbits : m.log2 + 1 = Format.binary64.mantissaBits ↔ 2 ^ 52 ≤ m := by
    show m.log2 + 1 = 53 ↔ _
    refine ⟨fun hl => (Nat.le_log2 (Nat.ne_of_gt h)).mp (by omega), log2_add_one hc⟩
  unfold pack
  dsimp only
  rw [hbiased, if_neg hfit]
  simp only [hbits]
  split <;> rfl

theorem mantissa_pos {m : BitVec 52} (h : ¬m = 0#52) : 0 < m.toNat := toNat_pos_of_ne_zero h

theorem full_mantissa_pos (m : BitVec 52) : 0 < (1#1 ++ m).toNat := by
  rw [toNat_one_append]
  omega

/-- A double is read from its three fields. -/
theorem unpack_of_fields {b : BitVec 64} {s : Sign} {e : BitVec 11} {m : BitVec 52}
    (hs : Sign.ofBitVec (@unpackSign Format.binary64 b) = s)
    (he : @unpackExponent Format.binary64 b = e) (hm : @unpackMantissa Format.binary64 b = m) :
    unpack Format.binary64 b =
      if e = -1#11 then if m = 0#52 then .infinity s else .notANumber
      else if e = 0#11 then
        if h : m = 0#52 then .zero s
        else .finite s m.toNat ((e.toNat : Int) - (Format.binary64.exponentBias + (52 : Nat)) + 1)
          (mantissa_pos h)
      else .finite s (1#1 ++ m).toNat
        ((e.toNat : Int) - (Format.binary64.exponentBias + (52 : Nat))) (full_mantissa_pos m) := by
  subst hs he hm
  rfl

/-- A finite double survives packing. -/
theorem unpack_pack_finite {m k : Nat} (hc : Canonical m k) (hk : k ≤ topExponent) (s : Sign)
    (h : 0 < m) :
    unpack Format.binary64 (pack Format.binary64 (.finite s m ((k : Int) - 1074) h)) =
      .finite s m (k - 1074) h := by
  rw [pack_finite hc hk, unpack_of_fields
    (by rw [unpackSign_packComponents, ofBitVec_toBitVec])
    (unpackExponent_packComponents ..) (unpackMantissa_packComponents ..)]
  have hlt := hc.lt
  by_cases hfull : 2 ^ 52 ≤ m
  · have hexp : (BitVec.ofNat 11 (k + 1)).toNat = k + 1 := by
      rw [BitVec.toNat_ofNat, Nat.mod_eq_of_lt (by unfold topExponent at hk; omega)]
    have hmant : (BitVec.ofNat 52 m).toNat = m - 2 ^ 52 := by
      rw [BitVec.toNat_ofNat]
      omega
    have hinf : ¬BitVec.ofNat 11 (k + 1) = -1#11 := by
      intro he
      have : (-1#11).toNat = 2047 := rfl
      rw [he, this] at hexp
      unfold topExponent at hk
      omega
    have hlow : ¬BitVec.ofNat 11 (k + 1) = 0#11 := by
      intro he
      rw [he] at hexp
      simp at hexp
    rw [if_pos hfull, if_neg hinf, if_neg hlow]
    refine finite_congr ?_ ?_
    · rw [toNat_one_append, hmant]
      omega
    · rw [hexp, bias_eq]
      omega
  · have hlow : k = 0 := hc.full.resolve_left hfull
    have hmant : (BitVec.ofNat 52 m).toNat = m := by
      rw [BitVec.toNat_ofNat, Nat.mod_eq_of_lt (by omega)]
    have hne : ¬BitVec.ofNat 52 m = 0#52 := by
      intro he
      rw [he] at hmant
      simp at hmant
      omega
    rw [if_neg hfull, if_neg (by decide), if_pos rfl, dif_neg hne]
    refine finite_congr hmant ?_
    rw [bias_eq, hlow]
    rfl

theorem unpack_pack_zero (s : Sign) :
    unpack Format.binary64 (pack Format.binary64 (.zero s)) = .zero s := by cases s <;> rfl

/-! ## Doubles as exact numbers -/

def isNegative : Sign → Bool
  | .negative => true
  | .positive => false

/-- A double that was read as an exact number. -/
def Exact.ofUnpacked : UnpackedFloat → Exact
  | .notANumber => .nan
  | .infinity s => .infinite (isNegative s)
  | .zero s => .finite (isNegative s) 0 (-1074)
  | .finite s m e _ => .finite (isNegative s) m e

theorem isNegative_ofBitVec (b : BitVec 64) :
    isNegative (Sign.ofBitVec (@unpackSign Format.binary64 b)) =
      decide (0x8000000000000000 ≤ b.toNat) := by
  have hs := toNat_unpackSign b
  have hb := b.isLt
  unfold Sign.ofBitVec
  by_cases hz : @unpackSign Format.binary64 b = 0#1
  · rw [hz] at hs
    simp only [BitVec.toNat_ofNat, Nat.zero_mod] at hs
    rw [if_pos hz]
    exact (decide_eq_false (by omega)).symm
  · have hpos := toNat_pos_of_ne_zero hz
    rw [if_neg hz]
    exact (decide_eq_true (by omega)).symm

theorem eq_iff_toNat_eq {w : Nat} (v u : BitVec w) : v = u ↔ v.toNat = u.toNat :=
  ⟨congrArg _, BitVec.eq_of_toNat_eq⟩

/-- The bits of a double are read the same way from the number they are and from their fields. -/
theorem exactBits_toNat (b : BitVec 64) :
    exactBits b.toNat = .ofUnpacked (unpack Format.binary64 b) := by
  have hm := toNat_unpackMantissa b
  have he := toNat_unpackExponent b
  have hinf : (unpackExponent b : BitVec Format.binary64.exponentBits) = -1#11 ↔
      b.toNat / fractionCount % 2048 = 2047 := by
    rw [eq_iff_toNat_eq, he]
    exact Iff.rfl
  have hlow : (unpackExponent b : BitVec Format.binary64.exponentBits) = 0#11 ↔
      b.toNat / fractionCount % 2048 = 0 := by
    rw [eq_iff_toNat_eq, he]
    exact Iff.rfl
  have hzero : (unpackMantissa b : BitVec Format.binary64.mantissaBitsWithoutImplicit) = 0#52 ↔
      b.toNat % fractionCount = 0 := by
    rw [eq_iff_toNat_eq, hm]
    exact Iff.rfl
  unfold exactBits unpack
  dsimp only
  rw [← isNegative_ofBitVec]
  split
  · next h =>
    rw [if_pos (hinf.mpr h)]
    split
    · next h' => rw [if_pos (hzero.mpr h')]; rfl
    · next h' => rw [if_neg (mt hzero.mp h')]; rfl
  · next h =>
    rw [if_neg (mt hinf.mp h)]
    split
    · next h' =>
      rw [if_pos (hlow.mpr h')]
      split
      · next hz =>
        rw [hzero.mp hz]
        rfl
      · show Exact.finite _ _ _ = Exact.finite _ _ _
        rw [hm, hlow.mpr h', bias_eq]
        rfl
    · next h' =>
      rw [if_neg (mt hlow.mp h')]
      show Exact.finite _ _ _ = Exact.finite _ _ _
      rw [toNat_one_append, hm, he, bias_eq]
      rfl

end Chip8.Number
