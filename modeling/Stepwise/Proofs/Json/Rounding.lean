import Mathlib.Data.Int.Log
import Mathlib.Data.Rat.Floor
import Mathlib.Tactic.FieldSimp
import Mathlib.Tactic.Linarith
import Mathlib.Tactic.NormNum
import Mathlib.Tactic.Positivity
import Mathlib.Tactic.Ring
import Stepwise.Json.Number

/-!
# Rounding of doubles

Which numbers doubles stand for, far from where they are too small or too large. A quotient and a
product of doubles stand for the exact result, rounded to 53 bits and to even ones between two;
rounding keeps the order of numbers, and doubles are ordered as the numbers that they stand for.
-/

namespace Stepwise.Double

set_option autoImplicit false

open Float.Model Float.Model.UnpackedFloat

section Integers

/-- The nearest integer, and the even one of two that are equally near. -/
def nearestEven (x : ℚ) : ℤ :=
  if Int.fract x < 1 / 2 then ⌊x⌋
  else if 1 / 2 < Int.fract x then ⌊x⌋ + 1
  else ⌊x⌋ + ⌊x⌋ % 2

theorem nearestEven_intCast (n : ℤ) : nearestEven n = n := by
  simp [nearestEven]

theorem floor_le_nearestEven (x : ℚ) : ⌊x⌋ ≤ nearestEven x := by
  unfold nearestEven
  split_ifs <;> omega

theorem nearestEven_le_floor (x : ℚ) : nearestEven x ≤ ⌊x⌋ + 1 := by
  unfold nearestEven
  split_ifs <;> omega

theorem nearestEven_mono {x y : ℚ} (h : x ≤ y) : nearestEven x ≤ nearestEven y := by
  rcases (Int.floor_mono h).lt_or_eq with hApart | hSame
  · have := nearestEven_le_floor x
    have := floor_le_nearestEven y
    omega
  · have hFractions : Int.fract x ≤ Int.fract y := by
      unfold Int.fract
      rw [hSame]
      linarith
    unfold nearestEven
    rw [hSame]
    split_ifs <;> first | omega | linarith

end Integers

section Extended

/-- Where a part of a unit lies, by the bit behind the mantissa and by whether a later one is set.
-/
def Within : Bool → Bool → ℚ → Prop
  | false, false, r => r = 0
  | false, true, r => 0 < r ∧ r < 1 / 2
  | true, false, r => r = 1 / 2
  | true, true, r => 1 / 2 < r ∧ r < 1

/-- The mantissa is the whole part of the number, and the bits tell what is left. -/
def Describes (em : ExtendedMantissa) (x : ℚ) : Prop :=
  Within em.roundBit em.stickyBit (x - em.mantissa)

variable {em : ExtendedMantissa} {x : ℚ}

theorem Describes.floor (h : Describes em x) : ⌊x⌋ = em.mantissa := by
  obtain ⟨m, round, sticky⟩ := em
  rw [Int.floor_eq_iff]
  cases round <;> cases sticky <;> simp only [Describes, Within] at h <;> push_cast <;>
    constructor <;> linarith

/-- A bit in front of a part of a unit makes a part of the next larger unit. -/
theorem within_half {round sticky : Bool} {r : ℚ} (h : Within round sticky r) (bit : Bool) :
    Within bit (round || sticky) ((bit.toNat + r) / 2) := by
  cases round <;> cases sticky <;> simp only [Within] at h <;>
    cases bit <;> simp only [Within, Bool.or_true, Bool.or_false, Bool.toNat_true, Bool.toNat_false]
      <;>
      push_cast <;> first | linarith | constructor <;> linarith

theorem Describes.shiftRightOne (h : Describes em x) : Describes em.shiftRightOne (x / 2) := by
  obtain ⟨m, round, sticky⟩ := em
  have hBit : (m % 2 != 0).toNat = m % 2 := by
    rcases Nat.mod_two_eq_zero_or_one m with hSame | hSame <;> rw [hSame] <;> rfl
  have hParts : (m : ℚ) = 2 * (m / 2 : ℕ) + (m % 2 : ℕ) := by
    exact_mod_cast (Nat.div_add_mod m 2).symm
  have hHalf := within_half h (m % 2 != 0)
  have hRest : x / 2 - (m / 2 : ℕ) = ((m % 2 != 0).toNat + (x - m)) / 2 := by
    rw [hBit]
    linarith
  show Within _ _ (x / 2 - (m / 2 : ℕ))
  rwa [hRest]

theorem Describes.shiftRight (h : Describes em x) (n : ℕ) : Describes (em >>> n) (x / 2 ^ n) := by
  induction n with
  | zero =>
    rw [pow_zero, div_one]
    exact h
  | succ n ih =>
    rw [pow_succ, ← div_div]
    exact ih.shiftRightOne

/-- Rounding the mantissa by its bits is rounding the number. -/
theorem Describes.roundedMantissa (h : Describes em x) :
    (em.roundedMantissa : ℤ) = nearestEven x := by
  have hFloor := h.floor
  obtain ⟨m, round, sticky⟩ := em
  have hFraction : Int.fract x = x - m := by
    unfold Int.fract
    rw [hFloor]
    simp
  unfold nearestEven
  rw [hFraction, hFloor]
  cases round <;> cases sticky <;> simp only [Describes, Within] at h
  · rw [if_pos (by linarith)]
    rfl
  · rw [if_pos h.2]
    rfl
  · rw [if_neg (by linarith), if_neg (by linarith)]
    show ((m + m % 2 : ℕ) : ℤ) = _
    push_cast
    rfl
  · rw [if_neg (by linarith), if_pos h.1]
    rfl

theorem describes_exact (m : ℕ) : Describes (.ofMantissaAndAccuracy m .exact) m := sub_self _

/-- What division leaves tells where the quotient lies. -/
theorem describes_quotient (a : ℕ) {b : ℕ} (hPos : 0 < b) :
    Describes (.ofMantissaAndAccuracy (a / b) (accuracyOfFraction (a % b) b)) ((a : ℚ) / b) := by
  have hPositive : (0 : ℚ) < b := by exact_mod_cast hPos
  have hParts : (a : ℚ) = b * (a / b : ℕ) + (a % b : ℕ) := by
    exact_mod_cast (Nat.div_add_mod a b).symm
  have hRest : (a : ℚ) / b - (a / b : ℕ) = (a % b : ℕ) / b := by
    rw [div_sub' hPositive.ne', eq_div_iff hPositive.ne', div_mul_cancel₀ _ hPositive.ne']
    linarith
  have hLess : a % b < b := Nat.mod_lt a hPos
  unfold accuracyOfFraction
  split_ifs with zero
  · show Within _ _ ((a : ℚ) / b - (a / b : ℕ))
    rw [hRest, zero]
    simp [Within, ExtendedMantissa.ofMantissaAndAccuracy]
  · have hSome : (0 : ℚ) < (a % b : ℕ) := by exact_mod_cast Nat.pos_of_ne_zero zero
    cases hOrder : compare (2 * (a % b)) b with
    | lt =>
      have hSmall : ((2 * (a % b) : ℕ) : ℚ) < b := by exact_mod_cast Nat.compare_eq_lt.mp hOrder
      push_cast at hSmall
      show Within false true ((a : ℚ) / b - (a / b : ℕ))
      rw [hRest]
      exact ⟨div_pos hSome hPositive, by rw [div_lt_div_iff₀ hPositive two_pos]; linarith⟩
    | eq =>
      have hMiddle : ((2 * (a % b) : ℕ) : ℚ) = b := by exact_mod_cast Nat.compare_eq_eq.mp hOrder
      push_cast at hMiddle
      show Within true false ((a : ℚ) / b - (a / b : ℕ))
      rw [hRest]
      show _ = _
      rw [div_eq_div_iff hPositive.ne' two_ne_zero]
      linarith
    | gt =>
      have hLarge : (b : ℚ) < ((2 * (a % b) : ℕ) : ℚ) := by
        exact_mod_cast Nat.compare_eq_gt.mp hOrder
      push_cast at hLarge
      have hLess' : ((a % b : ℕ) : ℚ) < b := by exact_mod_cast hLess
      show Within true true ((a : ℚ) / b - (a / b : ℕ))
      rw [hRest]
      exact ⟨by rw [div_lt_div_iff₀ two_pos hPositive]; linarith, (div_lt_one hPositive).mpr hLess'⟩

end Extended

section Doubles

def roundDouble (x : ℚ) : ℚ := nearestEven (x / 2 ^ (Int.log 2 x - 52)) * 2 ^ (Int.log 2 x - 52)

theorem unit_pos (k : ℤ) : (0 : ℚ) < 2 ^ k := zpow_pos two_pos k

theorem pow_mul_unit (n : ℕ) (k : ℤ) : (2 : ℚ) ^ n * 2 ^ k = 2 ^ (n + k) := by
  rw [zpow_add₀ two_ne_zero, zpow_natCast]

theorem log_eq {x : ℚ} {l : ℤ} (hLow : 2 ^ l ≤ x) (hHigh : x < 2 ^ (l + 1)) : Int.log 2 x = l := by
  have hPos : 0 < x := lt_of_lt_of_le (unit_pos l) hLow
  have hAbove := (Int.zpow_le_iff_le_log (b := 2) (by decide) hPos).mp (by exact_mod_cast hLow)
  have hBelow := (Int.lt_zpow_iff_log_lt (b := 2) (by decide) hPos).mp (by exact_mod_cast hHigh)
  omega

variable {x y : ℚ}

theorem zpow_log_le (hPos : 0 < x) : (2 : ℚ) ^ Int.log 2 x ≤ x := by
  exact_mod_cast Int.zpow_log_le_self (b := 2) (by decide) hPos

theorem lt_zpow_log (x : ℚ) : x < (2 : ℚ) ^ (Int.log 2 x + 1) := by
  exact_mod_cast Int.lt_zpow_succ_log_self (b := 2) (by decide) x

theorem nearestEven_scaled (hPos : 0 < x) :
    2 ^ 52 ≤ nearestEven (x / 2 ^ (Int.log 2 x - 52)) ∧
    nearestEven (x / 2 ^ (Int.log 2 x - 52)) ≤ 2 ^ 53 := by
  have hUnit := unit_pos (Int.log 2 x - 52)
  constructor
  · rw [← nearestEven_intCast (2 ^ 52)]
    apply nearestEven_mono
    rw [Int.cast_pow, Int.cast_ofNat, le_div_iff₀ hUnit, pow_mul_unit, Nat.cast_ofNat,
      add_sub_cancel]
    exact zpow_log_le hPos
  · rw [← nearestEven_intCast (2 ^ 53)]
    apply nearestEven_mono
    have hExponent : ((53 : ℕ) : ℤ) + (Int.log 2 x - 52) = Int.log 2 x + 1 := by omega
    rw [Int.cast_pow, Int.cast_ofNat, div_le_iff₀ hUnit, pow_mul_unit, hExponent]
    exact (lt_zpow_log x).le

/-- Numbers of different sizes are rounded apart, up to the power of two between them. -/
theorem roundDouble_mono (hPos : 0 < x) (h : x ≤ y) : roundDouble x ≤ roundDouble y := by
  have hPos' : 0 < y := hPos.trans_le h
  have hLogs : Int.log 2 x ≤ Int.log 2 y := Int.log_mono_right hPos h
  unfold roundDouble
  rcases hLogs.lt_or_eq with hApart | hSame
  · have hUpper : (nearestEven (x / 2 ^ (Int.log 2 x - 52)) : ℚ) ≤ 2 ^ 53 := by
      exact_mod_cast (nearestEven_scaled hPos).2
    have hLower : (2 : ℚ) ^ 52 ≤ nearestEven (y / 2 ^ (Int.log 2 y - 52)) := by
      exact_mod_cast (nearestEven_scaled hPos').1
    calc (nearestEven (x / 2 ^ (Int.log 2 x - 52)) : ℚ) * 2 ^ (Int.log 2 x - 52)
        ≤ 2 ^ 53 * 2 ^ (Int.log 2 x - 52) := mul_le_mul_of_nonneg_right hUpper (unit_pos _).le
      _ = 2 ^ (53 + (Int.log 2 x - 52)) := pow_mul_unit 53 _
      _ ≤ 2 ^ (52 + (Int.log 2 y - 52)) := zpow_le_zpow_right₀ one_le_two (by omega)
      _ = 2 ^ 52 * 2 ^ (Int.log 2 y - 52) := (pow_mul_unit 52 _).symm
      _ ≤ _ := mul_le_mul_of_nonneg_right hLower (unit_pos _).le
  · rw [hSame]
    have hRounded :=
      nearestEven_mono (div_le_div_of_nonneg_right h (unit_pos (Int.log 2 y - 52)).le)
    exact mul_le_mul_of_nonneg_right (by exact_mod_cast hRounded) (unit_pos _).le

theorem roundDouble_pos (hPos : 0 < x) : 0 < roundDouble x := by
  have hScaled : (0 : ℚ) < nearestEven (x / 2 ^ (Int.log 2 x - 52)) := by
    have := (nearestEven_scaled hPos).1
    exact_mod_cast (by omega : 0 < nearestEven (x / 2 ^ (Int.log 2 x - 52)))
  exact mul_pos hScaled (unit_pos _)

theorem roundDouble_of_normal {m : ℕ} {e : ℤ} (hLow : 2 ^ 52 ≤ m) (hHigh : m < 2 ^ 53) :
    roundDouble (m * 2 ^ e) = m * 2 ^ e := by
  have hLog : Int.log 2 ((m : ℚ) * 2 ^ e) = 52 + e := by
    refine log_eq ?_ ?_
    · rw [← Nat.cast_ofNat (n := 52), ← pow_mul_unit]
      exact mul_le_mul_of_nonneg_right (by exact_mod_cast hLow) (unit_pos e).le
    · have hExponent : 52 + e + 1 = ((53 : ℕ) : ℤ) + e := by omega
      rw [hExponent, ← pow_mul_unit]
      exact mul_lt_mul_of_pos_right (by exact_mod_cast hHigh) (unit_pos e)
  rw [roundDouble, hLog, add_sub_cancel_left, mul_div_cancel_right₀ _ (unit_pos e).ne']
  rw [show (m : ℚ) = ((m : ℤ) : ℚ) by simp, nearestEven_intCast]

/-- The double stands for the number: zero of either sign, or a number of full precision. -/
inductive Stands : UnpackedFloat → ℚ → Prop where
  | zero (sign : Sign) : Stands (.zero sign) 0
  | normal {m : ℕ} (e : ℤ) (hPos : 0 < m) (hLow : 2 ^ 52 ≤ m) (hHigh : m < 2 ^ 53) :
      Stands (.finite .positive m e hPos) (m * 2 ^ e)

theorem log2_of_normal {m : ℕ} (hLow : 2 ^ 52 ≤ m) (hHigh : m < 2 ^ 53) : m.log2 = 52 := by
  have hSome : m ≠ 0 := by rintro rfl; omega
  exact Nat.le_antisymm (Nat.lt_succ_iff.mp ((Nat.log2_lt hSome).mpr hHigh))
    ((Nat.le_log2 hSome).mpr hLow)

/-- A mantissa that rounding made one bit longer loses that bit, which is zero. -/
theorem shift_rounded {r : ℕ} {e : ℤ} (hLow : 2 ^ 52 ≤ r) (hHigh : r ≤ 2 ^ 53)
    (hOrdinary : -1074 ≤ e) :
    ∃ m e', (shiftToTargetExponent Format.binary64 r e .exact).1.mantissa = m ∧
      (shiftToTargetExponent Format.binary64 r e .exact).2 = e' ∧
      2 ^ 52 ≤ m ∧ m < 2 ^ 53 ∧ (m : ℚ) * 2 ^ e' = r * 2 ^ e := by
  rcases hHigh.lt_or_eq with hHigh | rfl
  · have hAmount : (Format.binary64.targetExponent (totalExponent r e) - e).toNat = 0 := by
      show (max ((r.log2 : ℤ) + 1 + e - 53) (-1074) - e).toNat = 0
      rw [log2_of_normal hLow hHigh]
      omega
    refine ⟨r, e, ?_, ?_, hLow, hHigh, rfl⟩
    · rw [shiftToTargetExponent, shiftToExponent, hAmount]
      rfl
    · rw [shiftToTargetExponent, shiftToExponent, hAmount]
      exact add_zero e
  · have hAmount : (Format.binary64.targetExponent (totalExponent (2 ^ 53) e) - e).toNat = 1 := by
      show (max (((2 ^ 53 : ℕ).log2 : ℤ) + 1 + e - 53) (-1074) - e).toNat = 1
      rw [Nat.log2_two_pow]
      omega
    refine ⟨2 ^ 52, e + 1, ?_, ?_, le_rfl, by norm_num, ?_⟩
    · rw [shiftToTargetExponent, shiftToExponent, hAmount]
      rfl
    · rw [shiftToTargetExponent, shiftToExponent, hAmount]
      rfl
    · rw [Nat.cast_pow, Nat.cast_pow, Nat.cast_ofNat, pow_mul_unit, pow_mul_unit]
      congr 1
      omega

/-- A number has as many bits in front of its point as its whole part. -/
theorem log_of_floor {m : ℕ} {e : ℤ} (hSome : m ≠ 0) (hFloor : ⌊x / 2 ^ e⌋ = (m : ℤ)) :
    Int.log 2 x = m.log2 + e := by
  obtain ⟨hLow, hHigh⟩ := Int.floor_eq_iff.mp hFloor
  have hBelow : (2 : ℚ) ^ m.log2 ≤ m := by exact_mod_cast Nat.log2_self_le hSome
  have hAbove : (m : ℚ) + 1 ≤ 2 ^ (m.log2 + 1) := by exact_mod_cast Nat.lt_log2_self
  apply log_eq
  · rw [← pow_mul_unit, ← le_div_iff₀ (unit_pos e)]
    exact hBelow.trans hLow
  · have hExponent : (m.log2 : ℤ) + e + 1 = ((m.log2 + 1 : ℕ) : ℤ) + e := by push_cast; ring
    rw [hExponent, ← pow_mul_unit, ← div_lt_iff₀ (unit_pos e)]
    exact hHigh.trans_le hAbove

/-- Rounding again what was rounded to 53 bits changes its form only. -/
theorem roundWithAccuracy_of_shifted {m r : ℕ} {e e' : ℤ} {accuracy : Accuracy}
    {em : ExtendedMantissa}
    (hShifted : shiftToTargetExponent Format.binary64 m e accuracy = (em, e'))
    (hRounded : em.roundedMantissa = r) (hLow : 2 ^ 52 ≤ r) (hHigh : r ≤ 2 ^ 53)
    (hOrdinary : -1074 ≤ e') :
    Stands (roundWithAccuracy Format.binary64 .positive m e accuracy) (r * 2 ^ e') := by
  subst hRounded
  obtain ⟨m', e'', hMantissa, hExponent, hLow', hHigh', hSame⟩ := shift_rounded hLow hHigh hOrdinary
  have hPositive : 0 < m' := by omega
  have hMade : roundWithAccuracy Format.binary64 .positive m e accuracy =
    .finite .positive m' e'' hPositive := by
    unfold roundWithAccuracy
    rw [hShifted]
    dsimp only
    generalize shiftToTargetExponent _ _ _ .exact = again at hMantissa hExponent
    obtain ⟨em', e⟩ := again
    dsimp only at hMantissa hExponent ⊢
    subst hMantissa hExponent
    rw [dif_neg hPositive.ne']
  rw [hMade, ← hSame]
  exact .normal e'' hPositive hLow' hHigh'

/-- Where the mantissa has bits enough, rounding gives the nearest double. -/
theorem roundWithAccuracy_stands {m : ℕ} {e : ℤ} {accuracy : Accuracy} {x : ℚ} (hWide : 2 ^ 52 ≤ m)
    (h : Describes (.ofMantissaAndAccuracy m accuracy) (x / 2 ^ e))
    (hOrdinary : 2 ^ (-900 : ℤ) ≤ x) :
    Stands (roundWithAccuracy Format.binary64 .positive m e accuracy) (roundDouble x) := by
  have hPos : 0 < x := (unit_pos _).trans_le hOrdinary
  have hSome : m ≠ 0 := by rintro rfl; omega
  have hFloor : ⌊x / 2 ^ e⌋ = (m : ℤ) := by
    rw [h.floor]
    cases accuracy with
    | exact => rfl
    | inexact order => cases order <;> rfl
  have hLog := log_of_floor hSome hFloor
  have hBits : 52 ≤ m.log2 := (Nat.le_log2 hSome).mpr hWide
  have hOrdinary' : -900 ≤ Int.log 2 x :=
    (Int.zpow_le_iff_le_log (b := 2) (by decide) hPos).mp (by exact_mod_cast hOrdinary)
  have hAmount : (Format.binary64.targetExponent (totalExponent m e) - e).toNat = m.log2 - 52 := by
    show (max ((m.log2 : ℤ) + 1 + e - 53) (-1074) - e).toNat = m.log2 - 52
    omega
  have hExponent : e + ((m.log2 - 52 : ℕ) : ℤ) = Int.log 2 x - 52 := by omega
  have hShifted : shiftToTargetExponent Format.binary64 m e accuracy =
      (ExtendedMantissa.ofMantissaAndAccuracy m accuracy >>> (m.log2 - 52), Int.log 2 x - 52) := by
    rw [shiftToTargetExponent, shiftToExponent, hAmount, hExponent]
  have hDescribed : Describes (ExtendedMantissa.ofMantissaAndAccuracy m accuracy >>> (m.log2 - 52))
      (x / 2 ^ (Int.log 2 x - 52)) := by
    have hMoved := h.shiftRight (m.log2 - 52)
    rwa [div_div, mul_comm, pow_mul_unit, add_comm, hExponent] at hMoved
  have hRounded := hDescribed.roundedMantissa
  have hBounds := nearestEven_scaled hPos
  rw [← hRounded] at hBounds
  have hValue : roundDouble x = (ExtendedMantissa.ofMantissaAndAccuracy m accuracy >>>
      (m.log2 - 52)).roundedMantissa * 2 ^ (Int.log 2 x - 52) := by
    rw [roundDouble, ← hRounded, Int.cast_natCast]
  rw [hValue]
  exact roundWithAccuracy_of_shifted hShifted rfl (by exact_mod_cast hBounds.1)
    (by exact_mod_cast hBounds.2) (by omega)

/-- A quotient that is not too small has no exponent that is too small. -/
theorem exponent_of_quotient {m m' : ℕ} {e e' : ℤ} (hHigh : m < 2 ^ 53) (hLow : 2 ^ 52 ≤ m')
    (hOrdinary : 2 ^ (-900 : ℤ) ≤ (m : ℚ) * 2 ^ e / (m' * 2 ^ e')) : -901 ≤ e - e' := by
  have hDivisor : (0 : ℚ) < m' := by exact_mod_cast (show 0 < m' by omega)
  have hDouble : (m : ℚ) < 2 * m' := by exact_mod_cast (show m < 2 * m' by omega)
  have hSmall : (m : ℚ) * 2 ^ e / (m' * 2 ^ e') < 2 ^ (e - e' + 1) := by
    rw [div_lt_iff₀ (mul_pos hDivisor (unit_pos e'))]
    calc (m : ℚ) * 2 ^ e < 2 * m' * 2 ^ e := mul_lt_mul_of_pos_right hDouble (unit_pos e)
      _ = m' * 2 ^ (e + 1) := by rw [zpow_add₀ two_ne_zero, zpow_one]; ring
      _ = m' * (2 ^ (e - e' + 1) * 2 ^ e') := by rw [← zpow_add₀ two_ne_zero]; congr 2; omega
      _ = 2 ^ (e - e' + 1) * (m' * 2 ^ e') := by ring
  have := (zpow_lt_zpow_iff_right₀ one_lt_two).mp (hOrdinary.trans_lt hSmall)
  omega

/-- Division keeps 53 bits of the quotient behind the point of its mantissas. -/
theorem div_normal {m m' : ℕ} {e e' : ℤ} (hPos : 0 < m) (hPos' : 0 < m') (hLow : 2 ^ 52 ≤ m)
    (hHigh : m < 2 ^ 53) (hLow' : 2 ^ 52 ≤ m') (hHigh' : m' < 2 ^ 53) (hOrdinary : -901 ≤ e - e') :
    UnpackedFloat.div Format.binary64 (.finite .positive m e hPos) (.finite .positive m' e' hPos') =
      roundWithAccuracy Format.binary64 .positive (m * 2 ^ 53 / m') (e - e' - 53)
        (accuracyOfFraction (m * 2 ^ 53 % m') m') := by
  have hTarget :
      min (e - e') (Format.binary64.targetExponent (totalExponent m e - totalExponent m' e')) =
      e - e' - 53 := by
    show min (e - e') (max ((m.log2 : ℤ) + 1 + e - (m'.log2 + 1 + e') - 53) (-1074)) = _
    rw [log2_of_normal hLow hHigh, log2_of_normal hLow' hHigh']
    omega
  have hAmount : (e - e' - (e - e' - 53)).toNat = 53 := by omega
  unfold UnpackedFloat.div divCore
  dsimp only
  rw [hTarget, hAmount, Nat.shiftLeft_eq]
  rfl

theorem div_stands {u v : UnpackedFloat} (hu : Stands u x) (hv : Stands v y)
    (hOrdinary : 2 ^ (-900 : ℤ) ≤ x / y) :
    Stands (UnpackedFloat.div Format.binary64 u v) (roundDouble (x / y)) := by
  have hPos : 0 < x / y := (unit_pos _).trans_le hOrdinary
  cases hu with
  | zero sign => exact absurd hPos (by simp)
  | normal e hPositive hLow hHigh =>
    cases hv with
    | zero sign => exact absurd hPos (by simp)
    | normal e' hPositive' hLow' hHigh' =>
      rename_i m m'
      rw [div_normal hPositive hPositive' hLow hHigh hLow' hHigh'
        (exponent_of_quotient hHigh hLow' hOrdinary)]
      refine roundWithAccuracy_stands ?_ ?_ hOrdinary
      · rw [Nat.le_div_iff_mul_le hPositive']
        have := Nat.mul_le_mul_right (2 ^ 53) hLow
        omega
      · have hValue : (m : ℚ) * 2 ^ e / (m' * 2 ^ e') / 2 ^ (e - e' - 53) =
          (m * 2 ^ 53 : ℕ) / m' := by
          rw [zpow_sub₀ two_ne_zero, zpow_sub₀ two_ne_zero]
          have := unit_pos e
          have := unit_pos e'
          push_cast
          field_simp
        rw [hValue]
        exact describes_quotient _ hPositive'

theorem mul_stands {u v : UnpackedFloat} (hu : Stands u x) (hv : Stands v y)
    (hOrdinary : 2 ^ (-900 : ℤ) ≤ x * y) :
    Stands (UnpackedFloat.mul Format.binary64 u v) (roundDouble (x * y)) := by
  have hPos : 0 < x * y := (unit_pos _).trans_le hOrdinary
  cases hu with
  | zero sign => exact absurd hPos (by simp)
  | normal e hPositive hLow hHigh =>
    cases hv with
    | zero sign => exact absurd hPos (by simp)
    | normal e' hPositive' hLow' hHigh' =>
      rename_i m m'
      show Stands (roundWithAccuracy Format.binary64 .positive (m * m') (e + e') .exact) _
      refine roundWithAccuracy_stands ?_ ?_ hOrdinary
      · have := Nat.mul_le_mul hLow hLow'
        omega
      · have hValue : (m : ℚ) * 2 ^ e * (m' * 2 ^ e') / 2 ^ (e + e') = (m * m' : ℕ) := by
          rw [zpow_add₀ two_ne_zero]
          have := unit_pos e
          have := unit_pos e'
          push_cast
          field_simp
        rw [hValue]
        exact describes_exact _

theorem lt_of_exponent_lt {m m' : ℕ} {e e' : ℤ} (hHigh : m < 2 ^ 53) (hLow : 2 ^ 52 ≤ m')
    (hLess : e < e') :
    (m : ℚ) * 2 ^ e < m' * 2 ^ e' :=
  calc (m : ℚ) * 2 ^ e < 2 ^ 53 * 2 ^ e :=
    mul_lt_mul_of_pos_right (by exact_mod_cast hHigh) (unit_pos e)
    _ = 2 ^ (53 + e) := pow_mul_unit 53 e
    _ ≤ 2 ^ (52 + e') := zpow_le_zpow_right₀ one_le_two (by omega)
    _ = 2 ^ 52 * 2 ^ e' := (pow_mul_unit 52 e').symm
    _ ≤ m' * 2 ^ e' := mul_le_mul_of_nonneg_right (by exact_mod_cast hLow) (unit_pos e').le

/-- Doubles are ordered as the numbers they stand for. -/
theorem le_iff_of_stands {u v : UnpackedFloat} (hu : Stands u x) (hv : Stands v y) :
    u.le v = true ↔ x ≤ y := by
  cases hu with
  | zero sign =>
    cases hv with
    | zero sign' => exact iff_of_true rfl le_rfl
    | normal e' hPositive' hLow' hHigh' =>
      exact iff_of_true rfl (mul_nonneg (Nat.cast_nonneg _) (unit_pos e').le)
  | normal e hPositive hLow hHigh =>
    rename_i m
    cases hv with
    | zero sign' =>
      refine iff_of_false Bool.false_ne_true ?_
      exact not_le.mpr (mul_pos (by exact_mod_cast hPositive) (unit_pos e))
    | normal e' hPositive' hLow' hHigh' =>
      rename_i m'
      show ((compare e e').then (compare m m')).isLE = true ↔ _
      rcases lt_trichotomy e e' with hLess | rfl | hMore
      · rw [Int.compare_eq_lt.mpr hLess]
        exact iff_of_true rfl (lt_of_exponent_lt hHigh hLow' hLess).le
      · rw [Int.compare_eq_eq.mpr rfl, mul_le_mul_iff_left₀ (unit_pos e), Nat.cast_le]
        exact Nat.isLE_compare
      · rw [Int.compare_eq_gt.mpr hMore]
        refine iff_of_false Bool.false_ne_true ?_
        exact not_le.mpr (lt_of_exponent_lt hHigh' hLow hMore)

section Packing

theorem unpackSign_packComponents {spec : Format} (sign : Sign)
    (exponent : BitVec spec.exponentBits) (mantissa : BitVec spec.mantissaBitsWithoutImplicit) :
    unpackSign (packComponents spec sign exponent mantissa) = sign.toBitVec := by
  apply BitVec.eq_of_getLsbD_eq
  intro i hFirst
  obtain rfl : i = 0 := by omega
  show (BitVec.cast _ (BitVec.extractLsb (spec.mantissaBitsWithoutImplicit + spec.exponentBits)
    (spec.mantissaBitsWithoutImplicit + spec.exponentBits)
    (sign.toBitVec ++ exponent ++ mantissa))).getLsbD 0 = _
  simp [BitVec.getLsbD_append, BitVec.getElem_append]

theorem implicit_bit {m : ℕ} (hLow : 2 ^ 52 ≤ m) (hHigh : m < 2 ^ 53) :
    (1#1 ++ BitVec.ofNat 52 m).toNat = m := by
  rw [BitVec.toNat_append, ← Nat.shiftLeft_add_eq_or_of_lt (BitVec.isLt _), BitVec.toNat_ofNat]
  show 1 <<< 52 + m % 2 ^ 52 = m
  omega

theorem finite_eq {sign sign' : Sign} {m m' : ℕ} {e e' : ℤ} {hPos : 0 < m} {hPos' : 0 < m'}
    (hSigns : sign = sign') (hMantissas : m = m') (hExponents : e = e') :
    UnpackedFloat.finite sign m e hPos = .finite sign' m' e' hPos' := by
  subst hSigns hMantissas hExponents
  rfl

variable {exponent : BitVec 11} {mantissa : BitVec 52}

theorem unpack_packComponents {m : ℕ} {e : ℤ} (hPos : 0 < m) (hFinite : exponent ≠ -1#11)
    (hNormal : exponent ≠ 0#11) (hMantissas : (1#1 ++ mantissa).toNat = m)
    (hExponents : (exponent.toNat : ℤ) - 1075 = e) :
    UnpackedFloat.unpack Format.binary64
    (packComponents Format.binary64 .positive exponent mantissa) =
      .finite .positive m e hPos := by
  have hSign :
      @unpackSign Format.binary64 (packComponents Format.binary64 .positive exponent mantissa) =
      Sign.positive.toBitVec := unpackSign_packComponents .positive _ _
  have hExponent' :
      @unpackExponent Format.binary64 (packComponents Format.binary64 .positive exponent mantissa) =
      exponent := unpackExponent_packComponents
  have hMantissa' :
      @unpackMantissa Format.binary64 (packComponents Format.binary64 .positive exponent mantissa) =
      mantissa := unpackMantissa_packComponents
  unfold UnpackedFloat.unpack
  rw [hExponent', if_neg hFinite, if_neg hNormal]
  apply finite_eq
  · rw [hSign]
    rfl
  · rw [hMantissa']
    exact hMantissas
  · exact hExponents

theorem unpack_pack_normal {m : ℕ} {e : ℤ} (hPos : 0 < m) (hLow : 2 ^ 52 ≤ m) (hHigh : m < 2 ^ 53)
    (hAbove : -1000 ≤ e) (hBelow : e ≤ 900) :
    (Float.Model.pack (.finite .positive m e hPos)).unpack = .finite .positive m e hPos := by
  have hFits : ¬ 2048 ≤ (e + 1023 + 52).toNat + 1 := by omega
  have hNormal : m.log2 + 1 = 53 := by rw [log2_of_normal hLow hHigh]
  have hPacked : UnpackedFloat.pack Format.binary64 (.finite .positive m e hPos) =
      packComponents Format.binary64 .positive (BitVec.ofNat 11 (e + 1023 + 52).toNat)
        (BitVec.ofNat 52 m) :=
    (if_neg hFits).trans (if_pos hNormal)
  have hKept : (BitVec.ofNat 11 (e + 1023 + 52).toNat).toNat = (e + 1023 + 52).toNat := by
    rw [BitVec.toNat_ofNat]
    omega
  have hApart : ∀ b : BitVec 11, b.toNat = 2047 ∨ b.toNat = 0 →
    BitVec.ofNat 11 (e + 1023 + 52).toNat ≠ b := by
    intro b hOutside hSame
    rw [← hSame, hKept] at hOutside
    omega
  have hBack : ((BitVec.ofNat 11 (e + 1023 + 52).toNat).toNat : ℤ) - 1075 = e := by
    rw [hKept]
    omega
  show UnpackedFloat.unpack Format.binary64
    (UnpackedFloat.pack Format.binary64 (.finite .positive m e hPos)) = _
  rw [hPacked]
  exact unpack_packComponents hPos (hApart _ (.inl rfl)) (hApart _ (.inr rfl))
    (implicit_bit hLow hHigh) hBack

end Packing

theorem unpack_pack {u : UnpackedFloat} (hu : Stands u x) (hSmall : 2 ^ (-900 : ℤ) ≤ x)
    (hLarge : x ≤ 2 ^ (900 : ℤ)) : (Float.Model.pack u).unpack = u := by
  cases hu with
  | zero sign => exact absurd hSmall (not_le.mpr (unit_pos _))
  | normal e hPositive hLow hHigh =>
    rename_i m
    refine unpack_pack_normal hPositive hLow hHigh ?_ ?_
    · by_contra hLess
      have := @lt_of_exponent_lt m (2 ^ 52) e (-952) hHigh le_rfl (by omega)
      rw [Nat.cast_pow, Nat.cast_ofNat, pow_mul_unit] at this
      exact absurd hSmall (not_le.mpr this)
    · by_contra hMore
      have := @lt_of_exponent_lt (2 ^ 52) m 848 e (by norm_num) hLow (by omega)
      rw [Nat.cast_pow, Nat.cast_ofNat, pow_mul_unit] at this
      exact absurd hLarge (not_le.mpr this)

/-- Numbers that are neither too small nor too large for full precision, by far. -/
def Ordinary (x : ℚ) : Prop := 2 ^ (-900 : ℤ) ≤ x ∧ x ≤ 2 ^ (900 : ℤ)

theorem roundDouble_zpow (k : ℤ) : roundDouble (2 ^ k) = 2 ^ k := by
  have hSame := roundDouble_of_normal (m := 2 ^ 52) (e := k - 52) le_rfl (by norm_num)
  rwa [Nat.cast_pow, Nat.cast_ofNat, pow_mul_unit, Nat.cast_ofNat, add_sub_cancel] at hSame

theorem Ordinary.roundDouble (h : Ordinary x) : Ordinary (roundDouble x) := by
  have hLow := roundDouble_mono (unit_pos _) h.1
  have hHigh := roundDouble_mono ((unit_pos _).trans_le h.1) h.2
  rw [roundDouble_zpow] at hLow hHigh
  exact ⟨hLow, hHigh⟩

theorem stands_pack {u : UnpackedFloat} (hu : Stands u x) (h : Ordinary x) :
    Stands (Float.Model.pack u).unpack x := by
  rw [unpack_pack hu h.1 h.2]
  exact hu

variable {a b : Float}

theorem stands_div (ha : Stands a.toModel.unpack x) (hb : Stands b.toModel.unpack y)
    (h : Ordinary (x / y)) :
    Stands (a / b).toModel.unpack (roundDouble (x / y)) :=
  stands_pack (div_stands ha hb h.1) h.roundDouble

theorem stands_mul (ha : Stands a.toModel.unpack x) (hb : Stands b.toModel.unpack y)
    (h : Ordinary (x * y)) :
    Stands (a * b).toModel.unpack (roundDouble (x * y)) :=
  stands_pack (mul_stands ha hb h.1) h.roundDouble

theorem le_iff (ha : Stands a.toModel.unpack x) (hb : Stands b.toModel.unpack y) : a ≤ b ↔ x ≤ y :=
  decide_eq_true_iff.trans (le_iff_of_stands ha hb)

section Integers

variable {n : ℕ}

theorem ordinary_natCast (hPos : 0 < n) (hSmall : n < 2 ^ 53) : Ordinary n := by
  have hOne : (1 : ℚ) ≤ n := by exact_mod_cast hPos
  have hLess : (n : ℚ) ≤ 2 ^ (53 : ℤ) := by exact_mod_cast hSmall.le
  constructor
  · exact (zpow_le_one_of_nonpos₀ one_le_two (by decide)).trans hOne
  · exact hLess.trans (zpow_le_zpow_right₀ one_le_two (by decide))

/-- An integer of at most 53 bits is shifted so that it has all of them. -/
theorem natCast_normal (hPos : 0 < n) (hSmall : n < 2 ^ 53) :
    2 ^ 52 ≤ n * 2 ^ (52 - n.log2) ∧ n * 2 ^ (52 - n.log2) < 2 ^ 53 ∧
      ((n * 2 ^ (52 - n.log2) : ℕ) : ℚ) * 2 ^ (-((52 - n.log2 : ℕ) : ℤ)) = n := by
  have hBits : n.log2 ≤ 52 := Nat.lt_succ_iff.mp ((Nat.log2_lt hPos.ne').mpr hSmall)
  refine ⟨?_, ?_, ?_⟩
  · calc 2 ^ 52 = 2 ^ n.log2 * 2 ^ (52 - n.log2) := by rw [← pow_add, Nat.add_sub_cancel' hBits]
      _ ≤ n * 2 ^ (52 - n.log2) := Nat.mul_le_mul_right _ (Nat.log2_self_le hPos.ne')
  · calc n * 2 ^ (52 - n.log2) < 2 ^ (n.log2 + 1) * 2 ^ (52 - n.log2) :=
          Nat.mul_lt_mul_of_pos_right Nat.lt_log2_self (Nat.two_pow_pos _)
      _ = 2 ^ 53 := by rw [← pow_add]; congr 1; omega
  · rw [zpow_neg, zpow_natCast]
    push_cast
    rw [mul_assoc, mul_inv_cancel₀ (by positivity), mul_one]

theorem roundDouble_natCast (hPos : 0 < n) (hSmall : n < 2 ^ 53) : roundDouble n = n := by
  obtain ⟨hLow, hHigh, hValue⟩ := natCast_normal hPos hSmall
  have hRounded := roundDouble_of_normal (e := -((52 - n.log2 : ℕ) : ℤ)) hLow hHigh
  rwa [hValue] at hRounded

theorem round_stands (hPos : 0 < n) (hSmall : n < 2 ^ 53) :
    Stands (UnpackedFloat.round Format.binary64 .positive n 0) n := by
  have hBits : n.log2 ≤ 52 := Nat.lt_succ_iff.mp ((Nat.log2_lt hPos.ne').mpr hSmall)
  obtain ⟨hLow, hHigh, hValue⟩ := natCast_normal hPos hSmall
  have hAmount : (0 - Format.binary64.targetExponent (totalExponent n 0)).toNat = 52 - n.log2 := by
    show (0 - max ((n.log2 : ℤ) + 1 + 0 - 53) (-1074)).toNat = 52 - n.log2
    omega
  have hWhole : Describes (.ofMantissaAndAccuracy (n * 2 ^ (52 - n.log2)) .exact)
      ((n : ℚ) / 2 ^ (-((52 - n.log2 : ℕ) : ℤ))) := by
    rw [← hValue, mul_div_cancel_right₀ _ (unit_pos _).ne']
    exact describes_exact _
  have hStands := roundWithAccuracy_stands hLow hWhole (ordinary_natCast hPos hSmall).1
  unfold UnpackedFloat.round decreaseExponent
  dsimp only
  rw [hAmount, Nat.shiftLeft_eq, zero_sub]
  rwa [roundDouble_natCast hPos hSmall] at hStands

theorem toFloat_stands (hSmall : n < 2 ^ 53) : Stands n.toUInt64.toFloat.toModel.unpack n := by
  have hSame : n.toUInt64.toNat = n := Nat.mod_eq_of_lt (by omega)
  show Stands (Float.Model.pack
    (UnpackedFloat.normalize Format.binary64 (n.toUInt64.toNat : ℤ) 0 .positive)).unpack n
  rw [hSame]
  rcases Nat.eq_zero_or_pos n with rfl | hPos
  · exact .zero .positive
  · have hPositive : compare (n : ℤ) 0 = .gt := Int.compare_eq_gt.mpr (by omega)
    unfold UnpackedFloat.normalize
    rw [hPositive]
    exact stands_pack (round_stands hPos hSmall) (ordinary_natCast hPos hSmall)

theorem one_stands :
    Stands (getElem Float.exactlyRepresentablePowersOfTen 0 (by decide)).toModel.unpack 1 := by
  have hValue : ((2 ^ 52 : ℕ) : ℚ) * 2 ^ (-52 : ℤ) = 1 := by norm_num
  rw [← hValue]
  exact .normal (-52) (by decide) le_rfl (by decide)

theorem ofNat_stands (hSmall : n < 2 ^ 53) : Stands (Float.ofNat n).toModel.unpack n := by
  rcases Nat.eq_zero_or_pos n with rfl | hPos
  · have hZero : (Float.ofNat 0).toModel.unpack = .zero .positive := rfl
    rw [hZero, Nat.cast_zero]
    exact .zero .positive
  · show Stands (Float.ofScientific n false 0).toModel.unpack n
    unfold Float.ofScientific
    rw [dif_pos ⟨hSmall, by decide⟩]
    have hMade := stands_mul (toFloat_stands hSmall) one_stands
      (by rw [mul_one]; exact ordinary_natCast hPos hSmall)
    rwa [mul_one, roundDouble_natCast hPos hSmall] at hMade

end Integers

theorem stands_of_beq (h : (a == b) = true) (hb : Stands b.toModel.unpack x) :
    Stands a.toModel.unpack x := by
  have hSame : (a.toModel.unpack.compare b.toModel.unpack == some .eq) = true := h
  rw [beq_iff_eq] at hSame
  generalize a.toModel.unpack = u at hSame ⊢
  generalize b.toModel.unpack = v at hSame hb
  cases hb with
  | zero sign =>
    cases u with
    | zero sign' => exact .zero sign'
    | notANumber => cases hSame
    | infinity sign' => cases sign' <;> cases hSame
    | finite sign' m e hPos => cases sign' <;> cases hSame
  | normal e hPos hLow hHigh =>
    cases u with
    | zero sign' => cases hSame
    | notANumber => cases hSame
    | infinity sign' => cases sign' <;> cases hSame
    | finite sign' m' e' hPos' =>
      cases sign' with
      | negative => cases hSame
      | positive =>
        have hOrders := Option.some.inj hSame
        rw [Ordering.then_eq_eq, Int.compare_eq_eq, Nat.compare_eq_eq] at hOrders
        obtain ⟨rfl, rfl⟩ := hOrders
        exact .normal _ _ hLow hHigh

end Doubles

end Stepwise.Double
