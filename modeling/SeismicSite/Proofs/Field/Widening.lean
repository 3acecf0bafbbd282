import Mathlib.Algebra.Order.Ring.Int
import SeismicSite.Field.Type
/-!
# Integers as floats

A whole number that stands for a float is rounded to the nearest one, and no
whole number of 64 bits is near the end of the range, so the float is always
finite. The exponent is followed through the rounding: it starts at zero and
can grow only by the number of digits of the mantissa, which stays far below
what a float can hold.
-/

namespace SeismicSite

open Float.Model UnpackedFloat

/-- Zero, or a finite float with at most `digits` binary digits and an exponent
of at most `bound`. -/
inductive Moderate (digits : Nat) (bound : Int) : UnpackedFloat → Prop
  | zero (s : Sign) : Moderate digits bound (.zero s)
  | finite {s : Sign} {m : Nat} {e : Int} {hm : 0 < m} :
      m < 2 ^ digits → e ≤ bound → Moderate digits bound (.finite s m e hm)

/-- A moderate float may be allowed a larger exponent. -/
theorem Moderate.mono {u : UnpackedFloat} {digits : Nat} {bound bound' : Int}
    (h : Moderate digits bound u) (hbound : bound ≤ bound') : Moderate digits bound' u := by
  cases h with
  | zero s => exact .zero s
  | finite hm he => exact .finite hm (he.trans hbound)

theorem Moderate.neg {u : UnpackedFloat} {digits : Nat} {bound : Int}
    (h : Moderate digits bound u) : Moderate digits bound u.neg := by
  cases h with
  | zero s => exact .zero _
  | finite hm he => exact .finite hm he

theorem Moderate.isFinite {u : UnpackedFloat} {digits : Nat} {bound : Int}
    (h : Moderate digits bound u) : u.isFinite = true := by
  cases h <;> rfl

/-! ## Rounding -/

theorem log2_le_of_lt {m digits : Nat} (h : m < 2 ^ digits) : m.log2 ≤ digits := by
  by_cases hzero : m = 0
  · simp [hzero]
  · exact ((Nat.log2_lt hzero).mpr h).le

theorem shiftRight_mantissa_le (em : ExtendedMantissa) (n : Nat) :
    (em >>> n).mantissa ≤ em.mantissa := by
  show (n.repeat ExtendedMantissa.shiftRightOne em).mantissa ≤ em.mantissa
  induction n with
  | zero => exact le_rfl
  | succ n ih => exact (Nat.div_le_self _ 2).trans ih

theorem roundedMantissa_le (em : ExtendedMantissa) : em.roundedMantissa ≤ em.mantissa + 1 := by
  rcases em with ⟨m, _ | _, _ | _⟩ <;>
    simp only [ExtendedMantissa.roundedMantissa, ExtendedMantissa.accuracy,
      Accuracy.roundToNearestEven] <;> omega

theorem ofMantissaAndAccuracy_mantissa (m : Nat) (accuracy : Accuracy) :
    (ExtendedMantissa.ofMantissaAndAccuracy m accuracy).mantissa = m := by
  cases accuracy with
  | exact => rfl
  | inexact relation => cases relation <;> rfl

theorem targetExponent_binary64 (e : Int) :
    Format.binary64.targetExponent e = max (e - 53) (-1074) := by
  have hmin : Format.binary64.minExponent = -1074 := by decide
  rw [Format.targetExponent, hmin]
  rfl

/-- One shift to the target loses digits only and raises the exponent by no
more than the digits there are. -/
theorem shiftToTargetExponent_le {m digits : Nat} {e bound : Int} (accuracy : Accuracy)
    (hm : m < 2 ^ digits) (he : e ≤ bound) (hbound : 0 ≤ bound) :
    (shiftToTargetExponent .binary64 m e accuracy).1.mantissa ≤ m ∧
      (shiftToTargetExponent .binary64 m e accuracy).2 ≤ bound + digits := by
  have hlog := log2_le_of_lt hm
  simp only [shiftToTargetExponent, shiftToExponent, targetExponent_binary64, totalExponent]
  constructor
  · refine (shiftRight_mantissa_le _ _).trans ?_
    rw [ofMantissaAndAccuracy_mantissa]
  · omega

/-- A mantissa makes a zero if all its digits are lost. -/
theorem moderate_of_mantissa {s : Sign} {m digits : Nat} {e bound : Int} (hm : m < 2 ^ digits)
    (he : e ≤ bound) :
    Moderate digits bound
      (if h : m = 0 then .zero s else .finite s m e (Nat.pos_of_ne_zero h)) := by
  by_cases hzero : m = 0
  · rw [dif_pos hzero]
    exact .zero s
  · rw [dif_neg hzero]
    exact .finite hm he

/-- Rounding adds a digit at most. -/
theorem moderate_roundWithAccuracy {s : Sign} {m digits : Nat} {e bound : Int}
    (accuracy : Accuracy) (hm : m < 2 ^ digits) (he : e ≤ bound) (hbound : 0 ≤ bound) :
    Moderate (digits + 1) (bound + 2 * digits + 1)
      (roundWithAccuracy .binary64 s m e accuracy) := by
  obtain ⟨hm₁, he₁⟩ := shiftToTargetExponent_le accuracy hm he hbound
  have hrounded := roundedMantissa_le (shiftToTargetExponent .binary64 m e accuracy).1
  have hdigits : (shiftToTargetExponent .binary64 m e accuracy).1.roundedMantissa <
      2 ^ (digits + 1) := by
    have := @Nat.one_le_two_pow digits
    omega
  -- a carry out of the rounding is shifted away once more
  obtain ⟨hm₂, he₂⟩ := shiftToTargetExponent_le .exact hdigits he₁ (by omega)
  push_cast at he₂
  exact moderate_of_mantissa (hm₂.trans_lt hdigits) (he₂.trans (by omega))

/-- A whole number of 64 bits is rounded to a moderate float. -/
theorem moderate_ofNat {n : Nat} (h : n < 2 ^ 64) :
    Moderate 129 257 (UnpackedFloat.ofNat .binary64 n) := by
  have hround : ∀ s m, m < 2 ^ 64 → Moderate 129 257 (UnpackedFloat.round .binary64 s m 0) := by
    intro s m hm
    -- before the rounding the mantissa is shifted up by 53 places at most
    have hshift : (0 - Format.binary64.targetExponent (totalExponent m 0)).toNat ≤ 53 := by
      rw [targetExponent_binary64, totalExponent]
      omega
    have hdigits : m <<< (0 - Format.binary64.targetExponent (totalExponent m 0)).toNat <
        2 ^ 128 := by
      have hpow := Nat.pow_le_pow_right (show 0 < 2 by decide) hshift
      have := Nat.mul_le_mul_left m hpow
      rw [Nat.shiftLeft_eq]
      omega
    exact moderate_roundWithAccuracy .exact hdigits (by omega) le_rfl
  unfold UnpackedFloat.ofNat UnpackedFloat.ofInt UnpackedFloat.normalize
  split
  · exact hround _ _ (by omega)
  · exact .zero _
  · exact hround _ _ (by omega)

/-! ## Packing -/

/-- What is unpacked is finite unless all bits of its exponent are set. -/
theorem moderate_unpack {bits : BitVec Format.binary64.numBits} {bound : Int}
    (hexponent : unpackExponent bits ≠ -1#_)
    (hbound : ((unpackExponent bits).toNat : Int) - 1074 ≤ bound) :
    Moderate 53 bound (unpack .binary64 bits) := by
  have hbias : (Format.binary64.exponentBias : Int) + (52 : Nat) = 1075 := by decide
  have hleading : (1#1 ++ unpackMantissa bits).toNat < 2 ^ 53 := (1#1 ++ unpackMantissa bits).isLt
  have hmantissa : (unpackMantissa bits).toNat < 2 ^ 52 := (unpackMantissa bits).isLt
  change Moderate 53 bound (if unpackExponent bits = -1#_ then _ else
    if unpackExponent bits = 0#_ then
      if h : unpackMantissa bits = 0#_ then .zero _
      else .finite _ (unpackMantissa bits).toNat
        ((unpackExponent bits).toNat - (Format.binary64.exponentBias + (52 : Nat)) + 1) _
    else .finite _ (1#1 ++ unpackMantissa bits).toNat
      ((unpackExponent bits).toNat - (Format.binary64.exponentBias + (52 : Nat))) _)
  rw [if_neg hexponent]
  by_cases hsubnormal : unpackExponent bits = 0#_
  · rw [if_pos hsubnormal]
    by_cases hzero : unpackMantissa bits = 0#_
    · rw [dif_pos hzero]
      exact .zero _
    · rw [dif_neg hzero]
      exact .finite (by omega) (by omega)
  · rw [if_neg hsubnormal]
    exact .finite hleading (by omega)

theorem moderate_unpack_packComponents {s : Sign} {exponent : BitVec 11} {mantissa : BitVec 52}
    {bound : Int} (hexponent : exponent ≠ -1#_) (hbound : (exponent.toNat : Int) - 1074 ≤ bound) :
    Moderate 53 bound (unpack .binary64 (packComponents .binary64 s exponent mantissa)) := by
  have hpacked : unpackExponent (packComponents .binary64 s exponent mantissa) = exponent :=
    unpackExponent_packComponents
  exact moderate_unpack (by rwa [hpacked]) (by rwa [hpacked])

/-- A moderate float survives packing. -/
theorem moderate_unpack_pack {u : UnpackedFloat} {digits : Nat} {bound : Int}
    (h : Moderate digits bound u) (hlower : 0 ≤ bound) (hupper : bound ≤ 900) :
    Moderate 53 (bound + 1) (Float.Model.pack u).unpack := by
  change Moderate 53 (bound + 1) (unpack .binary64 (UnpackedFloat.pack .binary64 u))
  cases h with
  | zero s => exact moderate_unpack_packComponents (by decide) (by simp; omega)
  | @finite s m e hm _ he =>
    have hbias : e + Format.binary64.exponentBias + (52 : Nat) = e + 1075 := by
      rw [show Format.binary64.exponentBias = 1023 by decide]
      omega
    change Moderate 53 (bound + 1) (unpack .binary64 (
      if 2 ^ 11 ≤ (e + Format.binary64.exponentBias + (52 : Nat)).toNat + 1 then _
      else if m.log2 + 1 = 53 then packComponents .binary64 s _ _
      else packComponents .binary64 s _ _))
    -- the biased exponent stays below its field, so the pack is no infinity
    have hsmall : ¬ 2 ^ 11 ≤ (e + Format.binary64.exponentBias + (52 : Nat)).toNat + 1 := by omega
    rw [if_neg hsmall, hbias]
    by_cases hnormal : m.log2 + 1 = 53
    · have hfield : (BitVec.ofNat 11 (e + 1075).toNat).toNat = (e + 1075).toNat := by
        rw [BitVec.toNat_ofNat]
        exact Nat.mod_eq_of_lt (by omega)
      rw [if_pos hnormal]
      refine moderate_unpack_packComponents (fun hones => ?_) (by rw [hfield]; omega)
      have htop : (e + 1075).toNat = (-1#11 : BitVec 11).toNat := hfield.symm.trans (congrArg _ hones)
      have : (-1#11 : BitVec 11).toNat = 2047 := by decide
      omega
    · rw [if_neg hnormal]
      exact moderate_unpack_packComponents (by decide) (by simp; omega)

/-! ## Whole numbers -/

theorem moderate_mul {u v : UnpackedFloat} {digits₁ digits₂ : Nat} {bound₁ bound₂ : Int}
    (hu : Moderate digits₁ bound₁ u) (hv : Moderate digits₂ bound₂ v) (h₁ : 0 ≤ bound₁)
    (h₂ : 0 ≤ bound₂) :
    Moderate (digits₁ + digits₂ + 1) (bound₁ + bound₂ + 2 * (digits₁ + digits₂ : Nat) + 1)
      (UnpackedFloat.mul .binary64 u v) := by
  cases hu with
  | zero s => cases hv <;> exact .zero _
  | @finite s m e hm hdigits₁ he₁ =>
    cases hv with
    | zero s => exact .zero _
    | @finite s' m' e' hm' hdigits₂ he₂ =>
      have hdigits : m * m' < 2 ^ (digits₁ + digits₂) := by
        rw [Nat.pow_add]
        exact Nat.mul_lt_mul'' hdigits₁ hdigits₂
      exact moderate_roundWithAccuracy .exact hdigits (Int.add_le_add he₁ he₂) (by omega)

theorem moderate_ofScientific {n : Nat} (h : n < 2 ^ 64) :
    Moderate 119 237 (UnpackedFloat.ofScientific .binary64 n 0) := by
  have hmantissa : n <<< 53 < 2 ^ 117 := by
    rw [Nat.shiftLeft_eq]
    omega
  have hexponent : (-(53 : Nat) : Int) ≤ 0 := by decide
  unfold UnpackedFloat.ofScientific
  by_cases hzero : n = 0
  · rw [dif_pos hzero]
    exact .zero _
  · have hlarge : ¬ (0 : Int) < -(2 ^ 11 + n.log2) := by omega
    rw [dif_neg hzero, if_neg (by decide), if_neg hlarge, if_pos le_rfl]
    exact (moderate_mul (.finite hmantissa hexponent)
      (.finite (show 10 ^ 0 < 2 ^ 1 by decide) le_rfl) le_rfl le_rfl).mono (by decide)

/-- The conversion of a whole number of up to 53 digits is exact and then
multiplied by one; a longer one is rounded at once. -/
theorem moderate_floatOfNat {n : Nat} (h : n < 2 ^ 64) :
    Moderate 53 472 (Float.ofNat n).toModel.unpack := by
  show Moderate 53 472 (Float.ofScientific n false 0).toModel.unpack
  unfold Float.ofScientific
  simp only [Bool.false_eq_true, if_false]
  split
  · have hone : Moderate 53 0 (Float.ofBits 0x3FF0000000000000).toModel.unpack := by
      exact .finite (by decide) (by decide)
    have hexact : Moderate 53 258 n.toUInt64.toFloat.toModel.unpack :=
      moderate_unpack_pack (moderate_ofNat n.toUInt64.toNat_lt) (by decide) (by decide)
    exact moderate_unpack_pack (moderate_mul hexact hone (by decide) (by decide)) (by decide)
      (by decide)
  · have hrounded := moderate_ofScientific h
    exact (moderate_unpack_pack hrounded (by decide) (by decide)).mono (by decide)

/-- **A whole number of 64 bits is a finite float.** -/
theorem isFinite_ofInt {n : Int} (lower : -2 ^ 64 < n) (upper : n < 2 ^ 64) :
    (Float.ofInt n).isFinite = true := by
  cases n with
  | ofNat n =>
    have hsize : n < 2 ^ 64 := Int.ofNat_lt.mp upper
    exact (moderate_floatOfNat hsize).isFinite
  | negSucc n =>
    have hmagnitude : Moderate 53 472 (Float.ofNat n.succ).toModel.unpack := by
      refine moderate_floatOfNat ?_
      rw [Int.negSucc_eq] at lower
      omega
    exact (moderate_unpack_pack hmagnitude.neg (by decide) (by decide)).isFinite

end SeismicSite
