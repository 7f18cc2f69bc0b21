import Chip8.Proofs.Number.Units

/-!
Quotients of positive quantities. They have no minus sign, so that every finite one has units
(`units_of_divide`), and those of whole numbers are finite where there is one (`isFinite_nearest`).
-/

namespace Chip8

namespace Number

open Float.Model (Format UnpackedFloat)
open Float.Model.UnpackedFloat

/-- A number without a minus sign. -/
def Unsigned : UnpackedFloat → Prop
  | .notANumber => True
  | .infinity s | .zero s | .finite s .. => s = .positive

theorem units_of_unsigned {x : Float} (h : Unsigned x.toModel.unpack) (hx : x.isFinite = true) :
    ∃ n, units x = some n := by
  unfold units
  replace hx : x.toModel.unpack.isFinite = true := hx
  generalize x.toModel.unpack = p at h hx ⊢
  cases p with
  | notANumber => cases hx
  | infinity s => cases hx
  | zero s => exact ⟨0, rfl⟩
  | finite s m e hm =>
    obtain rfl : s = .positive := h
    exact ⟨_, rfl⟩

/-! ## Signs -/

theorem unsigned_unpack {b : BitVec 64} (h : @unpackSign Format.binary64 b = 0#1) :
    Unsigned (unpack Format.binary64 b) := by
  unfold unpack
  dsimp only
  rw [h]
  split
  · split <;> trivial
  · split
    · split <;> rfl
    · rfl

theorem unpackSign_pack {p : UnpackedFloat} (h : Unsigned p) :
    unpackSign (pack Format.binary64 p) = 0#1 := by
  cases p with
  | notANumber => exact unpackSign_packComponents _ _ _ _
  | infinity s | zero s =>
    obtain rfl : s = .positive := h
    exact unpackSign_packComponents _ _ _ _
  | finite s m e hm =>
    obtain rfl : s = .positive := h
    unfold pack
    dsimp only
    split
    · exact unpackSign_packComponents _ _ _ _
    · split <;> exact unpackSign_packComponents _ _ _ _

/-- Packing puts in no minus sign. -/
theorem Unsigned.pack {p : UnpackedFloat} (h : Unsigned p) :
    Unsigned (Float.ofModel (.pack p)).toModel.unpack := unsigned_unpack (unpackSign_pack h)

theorem unsigned_roundWithAccuracy (m : Nat) (e : Int) (acc : Accuracy) :
    Unsigned (roundWithAccuracy Format.binary64 .positive m e acc) := by
  unfold roundWithAccuracy
  dsimp only
  split <;> rfl

theorem Unsigned.div {p q : UnpackedFloat} (hp : Unsigned p) (hq : Unsigned q) :
    Unsigned (div Format.binary64 p q) := by
  cases p with
  | notANumber => trivial
  | infinity s | zero s =>
    obtain rfl : s = .positive := hp
    cases q with
    | notANumber => trivial
    | infinity t | zero t | finite t =>
      obtain rfl : t = .positive := hq
      trivial
  | finite s =>
    obtain rfl : s = .positive := hp
    cases q with
    | notANumber => trivial
    | infinity t | zero t =>
      obtain rfl : t = .positive := hq
      trivial
    | finite t =>
      obtain rfl : t = .positive := hq
      exact unsigned_roundWithAccuracy _ _ _

theorem unsigned_ofBits {b : UInt64} (h : b.toNat < 2 ^ 63) :
    Unsigned (Float.ofBits b).toModel.unpack := by
  refine (unsigned_unpack ?_).pack
  have hsign := toNat_unpackSign b.toBitVec
  have : b.toBitVec.toNat = b.toNat := rfl
  exact BitVec.eq_of_toNat_eq (by rw [hsign, BitVec.toNat_ofNat]; omega)

theorem nearestBits?_lt {num den bits : Nat} (h : nearestBits? num den = some bits) :
    bits < 2047 * fractionCount := by
  unfold nearestBits? at h
  dsimp only at h
  split at h
  · cases h
    decide
  · obtain ⟨hlt, hbits⟩ := Option.ite_none_right_eq_some.mp h
    cases hbits
    exact hlt

/-- The double nearest to a quotient that is not below zero has bits below those of infinity. -/
theorem bits_of_nearest {num : Int} {den : Nat} {x : Float} (hn : 0 ≤ num)
    (h : nearest? num den = some x) : ∃ b : UInt64, x = .ofBits b ∧ b.toNat < 2047 * 2 ^ 52 := by
  obtain ⟨bits, hbits, rfl⟩ := Option.map_eq_some_iff.mp h
  have hlt := nearestBits?_lt hbits
  have hfraction : fractionCount = 2 ^ 52 := rfl
  refine ⟨_, rfl, ?_⟩
  rw [if_neg (by omega), UInt64.toNat_ofNat']
  omega

theorem unsigned_nearest {num : Int} {den : Nat} {x : Float} (hn : 0 ≤ num)
    (h : nearest? num den = some x) : Unsigned x.toModel.unpack := by
  obtain ⟨b, rfl, hlt⟩ := bits_of_nearest hn h
  exact unsigned_ofBits (by omega)

/-! ## Finite doubles -/

theorem isFinite_unpack {b : BitVec 64} (h : b.toNat < 2047 * 2 ^ 52) :
    (unpack Format.binary64 b).isFinite = true := by
  have hexponent : ¬(unpackExponent b : BitVec Format.binary64.exponentBits) = -1#11 := by
    intro he
    have := congrArg BitVec.toNat he
    rw [toNat_unpackExponent] at this
    have hmax : (-1#11).toNat = 2047 := rfl
    omega
  unfold unpack
  dsimp only
  split
  · next he => exact absurd he hexponent
  · split
    · split <;> rfl
    · rfl

theorem isFinite_ofBits {b : UInt64} (h : b.toNat < 2047 * 2 ^ 52) :
    (Float.ofBits b).isFinite = true := by
  have hfinite := isFinite_unpack (b := b.toBitVec) h
  show (unpack Format.binary64
    (pack Format.binary64 (unpack Format.binary64 b.toBitVec))).isFinite = true
  cases hu : unpack Format.binary64 b.toBitVec with
  | notANumber | infinity =>
    rw [hu] at hfinite
    cases hfinite
  | zero s =>
    rw [unpack_pack_zero]
    rfl
  | finite s m e hm =>
    obtain ⟨k, rfl, hc, hk⟩ := unpack_finite hu
    rw [unpack_pack_finite hc hk]
    rfl

/-- A nearest double is finite where there is one. -/
theorem isFinite_nearest {num : Int} {den : Nat} {x : Float} (hn : 0 ≤ num)
    (h : nearest? num den = some x) : x.isFinite = true := by
  obtain ⟨b, rfl, hlt⟩ := bits_of_nearest hn h
  exact isFinite_ofBits hlt

/-! ## Quotients -/

theorem unpack_zero : (0.0 : Float).toModel.unpack = .zero .positive := by rfl

theorem unsigned_of_not_le_zero {p : UnpackedFloat} (h : p.le (.zero .positive) = false) :
    Unsigned p := by
  cases p with
  | notANumber => trivial
  | infinity s | zero s | finite s m e hm =>
    cases s with
    | positive => rfl
    | negative => cases h

end Number

namespace Quantity

open Number

/-- A positive quantity as a double has no minus sign. -/
theorem unsigned_toFloat {q : Quantity} {x : Float} (hq : q.isPositive = true)
    (h : q.toFloat = .ok x) : Unsigned x.toModel.unpack := by
  cases q with
  | whole n =>
    have hn : 0 < n := of_decide_eq_true hq
    unfold toFloat at h
    dsimp only at h
    split at h
    · next hsome =>
      cases h
      exact unsigned_nearest (Int.le_of_lt hn) hsome
    · cases h
  | real x =>
    cases h
    have hle : ¬x ≤ 0.0 := by simpa [isPositive] using hq
    refine unsigned_of_not_le_zero (Bool.eq_false_iff.mpr fun h => hle ?_)
    rw [← unpack_zero] at h
    exact decide_eq_true (show x.toModel ≤ (0.0 : Float).toModel from h)

theorem unsigned_divide {q d : Quantity} {x : Float} (hq : q.isPositive = true)
    (hd : d.isPositive = true) (h : q.divide d = .ok x) : Unsigned x.toModel.unpack := by
  have hdoubles (h : (q.toFloat >>= fun x => d.toFloat >>= fun y => .ok (x / y)) = .ok x) :
      Unsigned x.toModel.unpack := by
    cases hnum : q.toFloat with
    | error e =>
      rw [hnum] at h
      cases h
    | ok num =>
      cases hden : d.toFloat with
      | error e =>
        rw [hnum, hden] at h
        cases h
      | ok den =>
        rw [hnum, hden] at h
        cases h
        exact ((unsigned_toFloat hq hnum).div (unsigned_toFloat hd hden)).pack
  cases q with
  | real y => exact hdoubles h
  | whole n =>
    cases d with
    | real y => exact hdoubles h
    | whole k =>
      have hn : 0 < n := of_decide_eq_true hq
      have hk : 0 < k := of_decide_eq_true hd
      unfold divide quotient at h
      dsimp only at h
      rw [if_neg (by omega), if_neg (by omega)] at h
      split at h
      · next hsome =>
        cases h
        exact unsigned_nearest (Int.le_of_lt hn) hsome
      · cases h

/-- A finite quotient of positive quantities has units. -/
theorem units_of_divide {q d : Quantity} {x : Float} (hq : q.isPositive = true)
    (hd : d.isPositive = true) (h : q.divide d = .ok x) (hx : x.isFinite = true) :
    ∃ n, units x = some n :=
  units_of_unsigned (unsigned_divide hq hd h) hx

end Quantity

end Chip8
