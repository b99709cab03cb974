import Stepwise.Json.Number

/-!
# Integers as doubles

The doubles that integers of 64 bits become are finite. Only the size of exponents is followed
through rounding, packing and unpacking; the bounds are far from sharp, and far below the largest
double.
-/

namespace Stepwise.Double

set_option autoImplicit false

open Float.Model Float.Model.UnpackedFloat

/-- A finite number whose mantissa has at most so many bits, and whose exponent is at most `top`. -/
def Below (bits : Nat) (top : Int) : UnpackedFloat → Prop
  | .zero _ => True
  | .finite _ mantissa exponent _ => mantissa < 1 <<< bits ∧ exponent ≤ top
  | .infinity _ => False
  | .notANumber => False

theorem Below.mono {bits bits' : Nat} {top top' : Int} {u : UnpackedFloat} (h : Below bits top u)
    (hMore : bits ≤ bits') (hHigher : top ≤ top') : Below bits' top' u := by
  cases u with
  | zero sign => trivial
  | finite sign mantissa exponent hPositive =>
    have hWider : 1 <<< bits ≤ 1 <<< bits' := by
      rw [Nat.one_shiftLeft, Nat.one_shiftLeft]
      exact Nat.pow_le_pow_right (by decide) hMore
    exact ⟨Nat.lt_of_lt_of_le h.1 hWider, Int.le_trans h.2 hHigher⟩
  | infinity sign => exact h
  | notANumber => exact h

theorem isFinite_of_below {bits : Nat} {top : Int} {u : UnpackedFloat} (h : Below bits top u) :
    u.isFinite = true := by
  cases u <;> first | rfl | exact absurd h id

theorem log2_le {m bits : Nat} (h : m < 1 <<< bits) : m.log2 ≤ bits := by
  rw [Nat.one_shiftLeft] at h
  by_cases hZero : m = 0
  · simp [hZero]
  · exact Nat.le_of_lt ((Nat.log2_lt hZero).mpr h)

section Rounding

theorem mantissa_shift_le (em : ExtendedMantissa) (n : Nat) :
    (em >>> n).mantissa ≤ em.mantissa := by
  induction n with
  | zero => exact Nat.le_refl _
  | succ n ih =>
    change (em >>> n).shiftRightOne.mantissa ≤ em.mantissa
    exact Nat.le_trans (Nat.div_le_self _ _) ih

theorem roundedMantissa_le (em : ExtendedMantissa) : em.roundedMantissa ≤ em.mantissa + 1 := by
  obtain ⟨m, round, sticky⟩ := em
  cases round <;> cases sticky
  · exact Nat.le_succ m
  · exact Nat.le_succ m
  · change m + m % 2 ≤ m + 1
    omega
  · exact Nat.le_refl (m + 1)

theorem mantissa_ofMantissaAndAccuracy (m : Nat) (accuracy : Accuracy) :
    (ExtendedMantissa.ofMantissaAndAccuracy m accuracy).mantissa = m := by
  cases accuracy with
  | exact => rfl
  | inexact order => cases order <;> rfl

/-- Shifting to the target makes no mantissa larger, and raises an exponent by no more than the
mantissa has bits. -/
theorem shift_le {m bits : Nat} {e top : Int} (hSmall : m < 1 <<< bits) (hLe : e ≤ top)
    (hNonneg : 0 ≤ top) (accuracy : Accuracy) :
    (shiftToTargetExponent Format.binary64 m e accuracy).1.mantissa ≤ m ∧
      (shiftToTargetExponent Format.binary64 m e accuracy).2 ≤ top + bits := by
  have hLog := log2_le hSmall
  constructor
  · exact Nat.le_trans (mantissa_shift_le _ _)
      (Nat.le_of_eq (mantissa_ofMantissaAndAccuracy m accuracy))
  · change e + ((max ((m.log2 : Int) + 1 + e - 53) (3 - 1024 - 53) - e).toNat : Int) ≤ top + bits
    omega

theorem round_below {m bits : Nat} {e top : Int} (hSmall : m < 1 <<< bits) (hLe : e ≤ top)
    (hNonneg : 0 ≤ top) (sign : Sign) (accuracy : Accuracy) :
    Below (bits + 1) (top + bits + (bits + 1))
    (roundWithAccuracy Format.binary64 sign m e accuracy) := by
  unfold roundWithAccuracy
  have hFirst := shift_le hSmall hLe hNonneg accuracy
  generalize shiftToTargetExponent Format.binary64 m e accuracy = shifted at hFirst
  obtain ⟨em, e₁⟩ := shifted
  have hRounded := roundedMantissa_le em
  have hPower : 1 <<< (bits + 1) = 2 * 1 <<< bits := by
    rw [Nat.one_shiftLeft, Nat.one_shiftLeft, Nat.pow_succ, Nat.mul_comm]
  have hSmall₁ : em.roundedMantissa < 1 <<< (bits + 1) := by
    dsimp only at hFirst
    omega
  have hSecond := shift_le hSmall₁ hFirst.2 (by omega) .exact
  dsimp only
  generalize shiftToTargetExponent Format.binary64 em.roundedMantissa e₁ .exact = shifted at hSecond
  obtain ⟨em₂, e₂⟩ := shifted
  dsimp only at hSecond ⊢
  by_cases hZero : em₂.mantissa = 0
  · rw [dif_pos hZero]
    trivial
  · rw [dif_neg hZero]
    exact ⟨Nat.lt_of_le_of_lt hSecond.1 hSmall₁, by omega⟩

theorem mul_below {bits bits' : Nat} {top top' : Int} {u v : UnpackedFloat} (hu : Below bits top u)
    (hv : Below bits' top' v) (hNonneg : 0 ≤ top + top') :
    Below (bits + bits' + 1) (top + top' + (bits + bits') + (bits + bits' + 1))
      (mul Format.binary64 u v) := by
  cases u with
  | infinity sign => exact absurd hu id
  | notANumber => exact absurd hu id
  | zero sign =>
    cases v with
    | infinity sign => exact absurd hv id
    | notANumber => exact absurd hv id
    | zero sign => trivial
    | finite sign m e hPositive => trivial
  | finite sign m e hPositive =>
    cases v with
    | infinity sign => exact absurd hv id
    | notANumber => exact absurd hv id
    | zero sign => trivial
    | finite sign' m' e' hPositive' =>
      have hProduct : m * m' < 1 <<< (bits + bits') := by
        rw [Nat.one_shiftLeft, Nat.pow_add, ← Nat.one_shiftLeft, ← Nat.one_shiftLeft]
        exact Nat.mul_lt_mul'' hu.1 hv.1
      have hSum : e + e' ≤ top + top' := Int.add_le_add hu.2 hv.2
      exact round_below hProduct hSum hNonneg (sign * sign') .exact

end Rounding

section Packing

theorem unpack_below {b : BitVec 64}
    (hFinite : @unpackExponent Format.binary64 b ≠ -1#11) :
    Below 53 ((@unpackExponent Format.binary64 b).toNat - 1074)
      (UnpackedFloat.unpack Format.binary64 b) := by
  unfold UnpackedFloat.unpack
  rw [if_neg hFinite]
  by_cases hSubnormal : @unpackExponent Format.binary64 b = 0#11
  · rw [if_pos hSubnormal]
    by_cases hZero : @unpackMantissa Format.binary64 b = 0#52
    · rw [dif_pos hZero]
      trivial
    · rw [dif_neg hZero]
      refine ⟨Nat.lt_trans (BitVec.isLt _) (by decide), ?_⟩
      change _ - ((1023 : Int) + 52) + 1 ≤ _
      omega
  · rw [if_neg hSubnormal]
    refine ⟨BitVec.isLt _, ?_⟩
    change _ - ((1023 : Int) + 52) ≤ _
    omega

theorem unpack_packComponents_below {sign : Sign} {e : Nat} {mantissa : BitVec 52} (h : e < 2047) :
    Below 53 (e - 1074) (UnpackedFloat.unpack Format.binary64
      (packComponents Format.binary64 sign (BitVec.ofNat 11 e) mantissa)) := by
  have hKept : (BitVec.ofNat 11 e).toNat = e := by
    rw [BitVec.toNat_ofNat]
    exact Nat.mod_eq_of_lt (Nat.lt_trans h (by decide))
  have hExponent : @unpackExponent Format.binary64
      (packComponents Format.binary64 sign (BitVec.ofNat 11 e) mantissa) = BitVec.ofNat 11 e :=
    unpackExponent_packComponents
  have hFinite : BitVec.ofNat 11 e ≠ -1#11 := by
    intro hSame
    have := congrArg BitVec.toNat hSame
    rw [hKept] at this
    exact absurd this (Nat.ne_of_lt h)
  have hBelow := unpack_below (hExponent ▸ hFinite)
  rwa [hExponent, hKept] at hBelow

theorem unpack_pack_below {bits : Nat} {top : Int} {u : UnpackedFloat} (h : Below bits top u)
    (hLow : 0 ≤ top) (hHigh : top ≤ 900) : Below 53 (top + 1) (Float.Model.pack u).unpack := by
  cases u with
  | infinity sign => exact absurd h id
  | notANumber => exact absurd h id
  | zero sign =>
    have hPacked : Below 53 ((0 : Nat) - 1074) (UnpackedFloat.unpack Format.binary64
        (packComponents Format.binary64 sign (BitVec.ofNat 11 0) 0)) :=
      unpack_packComponents_below (by decide)
    exact hPacked.mono (Nat.le_refl _) (by omega)
  | finite sign m e hPositive =>
    have hBound : e ≤ top := h.2
    change Below 53 (top + 1) (UnpackedFloat.unpack Format.binary64
      (UnpackedFloat.pack Format.binary64 (.finite sign m e hPositive)))
    have hSmall : (e + 1023 + 52).toNat < 2047 := by omega
    have hFits : ¬ 2048 ≤ (e + 1023 + 52).toNat + 1 := by omega
    by_cases hNormal : m.log2 + 1 = 53
    · have hPacked : UnpackedFloat.pack Format.binary64 (.finite sign m e hPositive) =
          packComponents Format.binary64 sign (BitVec.ofNat 11 (e + 1023 + 52).toNat)
            (BitVec.ofNat 52 m) := by
        exact (if_neg hFits).trans (if_pos hNormal)
      rw [hPacked]
      exact (unpack_packComponents_below hSmall).mono (Nat.le_refl _) (by omega)
    · have hPacked : UnpackedFloat.pack Format.binary64 (.finite sign m e hPositive) =
          packComponents Format.binary64 sign (BitVec.ofNat 11 0) (BitVec.ofNat 52 m) := by
        exact (if_neg hFits).trans (if_neg hNormal)
      rw [hPacked]
      exact (unpack_packComponents_below (by decide)).mono (Nat.le_refl _) (by omega)

end Packing

section Integers

theorem round_below_of_lt {m : Nat} (hSmall : m < 1 <<< 64) (sign : Sign) :
    Below 118 235 (UnpackedFloat.round Format.binary64 sign m 0) := by
  have hShift : (0 - Format.binary64.targetExponent (totalExponent m 0)).toNat ≤ 53 := by
    change (0 - max (((m.log2 : Int) + 1 + 0) - 53) (3 - 1024 - 53)).toNat ≤ 53
    omega
  unfold UnpackedFloat.round decreaseExponent
  dsimp only
  generalize (0 - Format.binary64.targetExponent (totalExponent m 0)).toNat = s at hShift
  have hShifted : m <<< s < 1 <<< 117 :=
    calc m <<< s = m * 2 ^ s := Nat.shiftLeft_eq m s
      _ < 1 <<< 64 * 2 ^ 53 := Nat.mul_lt_mul_of_lt_of_le hSmall
          (Nat.pow_le_pow_right (by decide) hShift) (by decide)
      _ = 1 <<< 117 := by decide
  exact round_below hShifted (by omega) (Int.le_refl 0) sign .exact

theorem ofUInt64_below (n : UInt64) : Below 118 235 (UnpackedFloat.ofUInt64 Format.binary64 n) := by
  change Below 118 235 (UnpackedFloat.normalize Format.binary64 (n.toNat : Int) 0 .positive)
  unfold UnpackedFloat.normalize
  split
  · next h => exact absurd (Int.compare_eq_lt.mp h) (by omega)
  · trivial
  · exact round_below_of_lt n.toNat_lt .positive

theorem toFloat_below (n : UInt64) : Below 53 236 n.toFloat.toModel.unpack :=
  unpack_pack_below (ofUInt64_below n) (by decide) (by decide)

theorem one_below :
    Below 53 0 (getElem Float.exactlyRepresentablePowersOfTen 0 (by decide)).toModel.unpack :=
  ⟨by decide, by decide⟩

theorem product_below {m k : Nat} {e : Int} {hmpos : 0 < m} {hkpos : 0 < k} (hm : m < 1 <<< 117)
    (hk : k < 1 <<< 1) (he : e ≤ 0) :
    Below 119 237
      (mul Format.binary64 (.finite .positive m e hmpos) (.finite .positive k 0 hkpos)) := by
  have hNumber : Below 117 0 (.finite .positive m e hmpos) := ⟨hm, he⟩
  have hFactor : Below 1 0 (.finite .positive k 0 hkpos) := ⟨hk, Int.le_refl 0⟩
  exact mul_below hNumber hFactor (Int.le_refl 0)

theorem ofScientific_below {n : Nat} (h : n < 1 <<< 64) :
    Below 119 237 (UnpackedFloat.ofScientific Format.binary64 n 0) := by
  have hShifted : n <<< Format.binary64.mantissaBits < 1 <<< 117 :=
    calc n <<< 53 = n * 2 ^ 53 := Nat.shiftLeft_eq n 53
      _ < 1 <<< 64 * 2 ^ 53 := Nat.mul_lt_mul_of_pos_right h (by decide)
      _ = 1 <<< 117 := by decide
  unfold UnpackedFloat.ofScientific
  by_cases hZero : n = 0
  · rw [dif_pos hZero]
    trivial
  · have hLarge : ¬ (0 : Int) > 2 ^ Format.binary64.exponentBits := by decide
    have hTiny : ¬ (0 : Int) < -((2 ^ Format.binary64.exponentBits : Int) + n.log2) := by
      change ¬ (0 : Int) < -((2048 : Int) + n.log2)
      omega
    rw [dif_neg hZero, if_neg hLarge, if_neg hTiny, if_pos (Int.le_refl 0)]
    refine product_below ?_ ?_ ?_
    · exact hShifted
    · decide
    · decide

theorem ofNat_below {n : Nat} (h : n < 1 <<< 64) : Below 53 450 (Float.ofNat n).toModel.unpack := by
  change Below 53 450 (Float.ofScientific n false 0).toModel.unpack
  unfold Float.ofScientific
  split
  · exact unpack_pack_below (mul_below (toFloat_below _) one_below (by decide)) (by decide)
      (by decide)
  · exact (unpack_pack_below (ofScientific_below h) (by decide) (by decide)).mono (Nat.le_refl _)
      (by decide)

theorem neg_below {bits : Nat} {top : Int} {u : UnpackedFloat} (h : Below bits top u) :
    Below bits top u.neg := by
  cases u with
  | infinity sign => exact h
  | notANumber => exact h
  | zero sign => exact h
  | finite sign m e hPositive => exact h

theorem isFinite_ofInt {n : Int} (hLow : -0x8000000000000000 ≤ n)
    (hHigh : n < 0x10000000000000000) :
    (Float.ofInt n).isFinite = true := by
  cases n with
  | ofNat n => exact isFinite_of_below (ofNat_below (Int.ofNat_lt.mp hHigh))
  | negSucc n =>
    have hSmall : n.succ < 0x10000000000000000 := by omega
    exact isFinite_of_below
      (unpack_pack_below (neg_below (ofNat_below hSmall)) (by decide) (by decide))

end Integers

end Stepwise.Double
