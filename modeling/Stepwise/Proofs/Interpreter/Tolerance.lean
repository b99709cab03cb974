import Stepwise.Proofs.Interpreter.FanIn
import Stepwise.Proofs.Json.Rounding

/-!
# Tolerated failures

How many failures of branches a fork tolerates. The share of them is divided, rounded, made a
percentage and rounded again. Both roundings keep the order of shares, so it is enough to know what
becomes of a tolerated share itself and of the shares next to it: of the whole percentages, only a
few are rounded up.
-/

namespace Stepwise

set_option autoImplicit false

open Program Double

namespace Aggregation

section Percentages

def percentage (share : ℚ) : ℚ := roundDouble (roundDouble share * 100)

theorem percentage_mono {x y : ℚ} (hPos : 0 < x) (h : x ≤ y) : percentage x ≤ percentage y := by
  apply roundDouble_mono
  · exact mul_pos (roundDouble_pos hPos) (by norm_num)
  · exact mul_le_mul_of_nonneg_right (roundDouble_mono hPos h) (by norm_num)

variable {f n t : ℕ}

theorem hundred_stands : Stands (100.0 : Float).toModel.unpack 100 := by
  have hSame : (100.0 : Float) = Float.ofNat 100 :=
    congrArg Float.ofModel (by decide +kernel : (100.0 : Float).toModel = (Float.ofNat 100).toModel)
  rw [hSame]
  exact_mod_cast ofNat_stands (n := 100) (by norm_num)

theorem ordinary_share (hSome : 0 < f) (hPos : 0 < n) (hSmall : f < 2 ^ 53) (hSmall' : n < 2 ^ 53) :
    2 ^ (-53 : ℤ) ≤ (f : ℚ) / n ∧ (f : ℚ) / n ≤ 2 ^ (53 : ℤ) := by
  have hOne : (1 : ℚ) ≤ f := by exact_mod_cast hSome
  have hOne' : (1 : ℚ) ≤ n := by exact_mod_cast hPos
  have hLess : (f : ℚ) ≤ 2 ^ 53 := by exact_mod_cast hSmall.le
  have hLess' : (n : ℚ) ≤ 2 ^ 53 := by exact_mod_cast hSmall'.le
  constructor
  · rw [le_div_iff₀ (by linarith)]
    calc (2 : ℚ) ^ (-53 : ℤ) * n ≤ 2 ^ (-53 : ℤ) * 2 ^ 53 :=
      mul_le_mul_of_nonneg_left hLess' (unit_pos _).le
      _ = 1 := by norm_num
      _ ≤ f := hOne
  · exact (div_le_self (Nat.cast_nonneg f) hOne').trans hLess

/-- The comparison of doubles compares the percentage that is computed. -/
theorem share_le_iff {limit : Float} {x : ℚ} (hPos : 0 < f) (hSome : 0 < n) (hSmall : f < 2 ^ 53)
    (hSmall' : n < 2 ^ 53) (hStands : Stands limit.toModel.unpack x) :
    Float.ofNat f / Float.ofNat n * 100.0 ≤ limit ↔ percentage (f / n) ≤ x := by
  obtain ⟨hLow, hHigh⟩ := ordinary_share hPos hSome hSmall hSmall'
  have hLow' := roundDouble_mono (unit_pos _) hLow
  have hHigh' := roundDouble_mono ((unit_pos _).trans_le hLow) hHigh
  rw [roundDouble_zpow] at hLow' hHigh'
  have hShare : Ordinary ((f : ℚ) / n) :=
    ⟨(zpow_le_zpow_right₀ one_le_two (by decide)).trans hLow,
      hHigh.trans (zpow_le_zpow_right₀ one_le_two (by decide))⟩
  have hProduct : Ordinary (roundDouble ((f : ℚ) / n) * 100) := by
    constructor
    · calc (2 : ℚ) ^ (-900 : ℤ) ≤ 2 ^ (-53 : ℤ) := zpow_le_zpow_right₀ one_le_two (by decide)
        _ ≤ roundDouble (f / n) := hLow'
        _ ≤ roundDouble (f / n) * 100 :=
          le_mul_of_one_le_right ((unit_pos _).le.trans hLow') (by norm_num)
    · calc roundDouble ((f : ℚ) / n) * 100 ≤ 2 ^ (53 : ℤ) * 2 ^ (7 : ℤ) :=
            mul_le_mul hHigh' (by norm_num) (by norm_num) (unit_pos _).le
        _ = 2 ^ (60 : ℤ) := by norm_num
        _ ≤ 2 ^ (900 : ℤ) := zpow_le_zpow_right₀ one_le_two (by decide)
  exact le_iff
    (stands_mul (stands_div (ofNat_stands hSmall) (ofNat_stands hSmall') hShare) hundred_stands
      hProduct)
    hStands

theorem share_le_nat_iff (hPos : 0 < f) (hSome : 0 < n) (hSmall : f < 2 ^ 53) (hSmall' : n < 2 ^ 53)
    (hWhole : t ≤ 100) :
    Float.ofNat f / Float.ofNat n * 100.0 ≤ Float.ofNat t ↔ percentage (f / n) ≤ t :=
  share_le_iff hPos hSome hSmall hSmall' (ofNat_stands (by omega))

/-- The whole percentages for which a share of just so many is computed as more: 55 of 100 becomes
55.00000000000001. -/
def roundedUp : List ℕ := [7, 14, 28, 55, 56]

/-- A share that is larger, among so many branches, is computed as larger. -/
theorem lt_percentage_above (hWhole : t ≤ 100) :
    (t : ℚ) < percentage ((t * 2 ^ 45 + 1 : ℕ) / (100 * 2 ^ 45 : ℕ)) := by
  have hTable : ∀ t < 101,
      ¬ Float.ofNat (t * 2 ^ 45 + 1) / Float.ofNat (100 * 2 ^ 45) * 100.0 ≤ Float.ofNat t := by
      decide +kernel
  rw [← not_le, ← share_le_nat_iff (by omega) (by norm_num) (by omega) (by norm_num) hWhole]
  exact hTable t (by omega)

theorem percentage_below_le (hPos : 0 < t) (hWhole : t ≤ 100) :
    percentage ((t * 2 ^ 45 - 1 : ℕ) / (100 * 2 ^ 45 : ℕ)) ≤ t := by
  have hTable : ∀ t < 101, 0 < t →
      Float.ofNat (t * 2 ^ 45 - 1) / Float.ofNat (100 * 2 ^ 45) * 100.0 ≤ Float.ofNat t := by
        decide +kernel
  rw [← share_le_nat_iff (by omega) (by norm_num) (by omega) (by norm_num) hWhole]
  exact hTable t (by omega) hPos

theorem percentage_exact_le_iff (hPos : 0 < t) (hWhole : t ≤ 100) :
    percentage (t / (100 : ℕ)) ≤ t ↔ t ∉ roundedUp := by
  have hTable : ∀ t < 101, 0 < t →
      (Float.ofNat t / Float.ofNat 100 * 100.0 ≤ Float.ofNat t ↔ t ∉ roundedUp) := by decide +kernel
  rw [← share_le_nat_iff hPos (by norm_num) (by omega) (by norm_num) hWhole]
  exact hTable t (by omega) hPos

/-- A share of few enough branches that is smaller than t / 100 is smaller by 1 / (100 * n) at
least, which is no less than the share beside it that was computed. -/
theorem share_le_below (hFew : n ≤ 2 ^ 45) (hPos : 0 < n) (hLess : 100 * f < t * n) :
    (f : ℚ) / n ≤ (t * 2 ^ 45 - 1 : ℕ) / (100 * 2 ^ 45 : ℕ) := by
  rw [div_le_div_iff₀ (by exact_mod_cast hPos) (by norm_num)]
  have hScaled := Nat.mul_le_mul_left (2 ^ 45) hLess
  have hParts : (t * 2 ^ 45 - 1) * n = t * 2 ^ 45 * n - n := by rw [Nat.sub_mul, one_mul]
  have hCrosswise : f * (100 * 2 ^ 45) ≤ (t * 2 ^ 45 - 1) * n := by
    rw [hParts, mul_right_comm t]
    omega
  exact_mod_cast hCrosswise

theorem above_le_share (hFew : n ≤ 2 ^ 45) (hPos : 0 < n) (hMore : t * n < 100 * f) :
    ((t * 2 ^ 45 + 1 : ℕ) : ℚ) / (100 * 2 ^ 45 : ℕ) ≤ f / n := by
  rw [div_le_div_iff₀ (by norm_num) (by exact_mod_cast hPos)]
  have hScaled := Nat.mul_le_mul_left (2 ^ 45) hMore
  have hCrosswise : (t * 2 ^ 45 + 1) * n ≤ f * (100 * 2 ^ 45) := by
    rw [Nat.add_mul, one_mul, mul_right_comm t]
    omega
  exact_mod_cast hCrosswise

/-- Where there are few enough branches, the computed percentage is compared as the exact one,
except for a share that is rounded up. -/
theorem percentage_le_iff (hPos : 0 < f) (hFew : n ≤ 2 ^ 45) (hSome : 0 < n) (hWhole : t ≤ 100) :
    percentage (f / n) ≤ t ↔ 100 * f ≤ t * n ∧ ¬ (100 * f = t * n ∧ t ∈ roundedUp) := by
  have hPositive : (0 : ℚ) < n := by exact_mod_cast hSome
  rcases lt_trichotomy (100 * f) (t * n) with hLess | hSame | hMore
  · have hPos' : 0 < t := Nat.pos_of_mul_pos_right (Nat.zero_lt_of_lt hLess)
    have hShare : (0 : ℚ) < f / n := div_pos (by exact_mod_cast hPos) hPositive
    refine iff_of_true ?_ ⟨hLess.le, fun h => absurd h.1 hLess.ne⟩
    exact (percentage_mono hShare (share_le_below hFew hSome hLess)).trans
      (percentage_below_le hPos' hWhole)
  · have hPos' : 0 < t := Nat.pos_of_mul_pos_right (hSame ▸ Nat.mul_pos (by norm_num) hPos)
    have hShare : (f : ℚ) / n = t / (100 : ℕ) := by
      rw [div_eq_div_iff hPositive.ne' (by norm_num)]
      have hCrosswise : f * 100 = t * n := by omega
      exact_mod_cast hCrosswise
    rw [hShare, percentage_exact_le_iff hPos' hWhole]
    simp [hSame]
  · have hShare : (0 : ℚ) < (t * 2 ^ 45 + 1 : ℕ) / (100 * 2 ^ 45 : ℕ) := by positivity
    refine iff_of_false ?_ fun h => absurd hMore (not_lt.mpr h.1)
    exact not_le.mpr ((lt_percentage_above hWhole).trans_le
      (percentage_mono hShare (above_le_share hFew hSome hMore)))

end Percentages

section Policy

variable {a : Aggregation} {results : List BranchResult}

theorem failure?_eq_none_iff :
    a.failure? results = none ↔ (results.filter fun r => !r.succeeded).length = 0 ∨
      a.tolerates (results.filter fun r => !r.succeeded).length results.length = true := by
  unfold failure?
  dsimp only
  rw [List.length_eq_zero_iff, ← List.isEmpty_iff]
  split
  next hTolerated => exact iff_of_true rfl hTolerated
  next hTolerated => exact iff_of_false nofun hTolerated

theorem failure?_eq_none_or (a : Aggregation) (results : List BranchResult) :
    a.failure? results = none ∨
      ∃ message, a.failure? results = some (.unclassified "BranchFailureError" message) := by
  unfold failure?
  dsimp only
  split
  · exact .inl rfl
  · exact .inr ⟨_, rfl⟩

variable {limit : Float} {failed total t : ℕ}

theorem tolerates_iff (hConfigured : a.toleratedFailurePercentage = some limit)
    (hWhole : (limit == Float.ofNat t) = true) (hPercent : t ≤ 100) (hPos : 0 < failed)
    (hAmong : failed ≤ total) (hFew : total ≤ 2 ^ 45) :
    a.tolerates failed total = true ↔
      100 * failed ≤ t * total ∧ ¬ (100 * failed = t * total ∧ t ∈ roundedUp) := by
  have hStands := stands_of_beq hWhole (ofNat_stands (by omega))
  have hSome : 0 < total := hPos.trans_le hAmong
  rw [tolerates, hConfigured, decide_eq_true_iff]
  exact (share_le_iff hPos hSome (by omega) (by omega) hStands).trans
    (percentage_le_iff hPos hFew hSome hPercent)

/-- A fork with a whole percentage of tolerated failures merges its results exactly if no more
branches than that have failed, except that for a few percentages just so many are too many. -/
theorem merge_within_tolerance (step : Step) (state : ExecutionState)
    (hConfigured : a.toleratedFailurePercentage = some limit)
    (hWhole : (limit == Float.ofNat t) = true) (hPercent : t ≤ 100)
    (hCounted : (results.filter fun r => !r.succeeded).length = failed)
    (hFew : results.length ≤ 2 ^ 45) :
    if failed = 0 ∨ 100 * failed ≤ t * results.length ∧
        ¬ (100 * failed = t * results.length ∧ t ∈ roundedUp) then
      a.merge results step state = a.collect (inOrder results) step state
    else ∃ message,
      a.merge results step state = throw (.unclassified "BranchFailureError" message) := by
  have hPerm := inOrder_perm results
  have hCounted' : ((inOrder results).filter fun r => !r.succeeded).length = failed :=
    (hPerm.filter _).length_eq.trans hCounted
  have hAmong : failed ≤ results.length := hCounted ▸ List.length_filter_le _ _
  have hPolicy : a.failure? (inOrder results) = none ↔
    failed = 0 ∨ 100 * failed ≤ t * results.length ∧
      ¬ (100 * failed = t * results.length ∧ t ∈ roundedUp) := by
    rw [failure?_eq_none_iff, hCounted', hPerm.length_eq]
    rcases Nat.eq_zero_or_pos failed with hZero | hSome
    · exact iff_of_true (.inl hZero) (.inl hZero)
    · rw [tolerates_iff hConfigured hWhole hPercent hSome hAmong hFew]
  rw [merge]
  split
  next hTolerated => rw [hPolicy.mpr hTolerated]
  next hTooMany =>
    obtain ⟨message, hFailure⟩ := (failure?_eq_none_or a (inOrder results)).resolve_left
      fun hNone => hTooMany (hPolicy.mp hNone)
    rw [hFailure]
    exact ⟨message, rfl⟩

def sighted (hidden total : ℕ) : List BranchResult :=
  (List.range total).map fun n =>
    { branchId := "hill" ++ toString n
      index := UInt64.ofNat n
      succeeded := hidden ≤ n
      output := if hidden ≤ n then some (.num (.int n)) else none }

theorem inOrder_sighted : inOrder (sighted 2 5) = sighted 2 5 ∧
    inOrder (sighted 11 20) = sighted 11 20 := by
  constructor
  · exact List.mergeSort_of_pairwise (by decide)
  · exact List.mergeSort_of_pairwise (by decide)

theorem two_hidden_tolerated :
    ((50.0 : Float) == Float.ofNat 50) = true ∧
      ((sighted 2 5).filter fun r => !r.succeeded).length = 2 ∧ (sighted 2 5).length ≤ 2 ^ 45 ∧
      merge { toleratedFailurePercentage := some 50.0 } (sighted 2 5) Interpreter.measuring
          Interpreter.inWinter = pure (.arr [.num (.int 2), .num (.int 3), .num (.int 4)]) := by
  have hWhole : ((50.0 : Float) == Float.ofNat 50) = true := by decide +kernel
  have hCounted : ((sighted 2 5).filter fun r => !r.succeeded).length = 2 := rfl
  have hMerged := merge_within_tolerance (a := { toleratedFailurePercentage := some 50.0 })
    Interpreter.measuring Interpreter.inWinter rfl hWhole (by decide) hCounted (by decide)
  rw [if_pos (by decide), inOrder_sighted.1] at hMerged
  exact ⟨hWhole, hCounted, by decide, hMerged⟩

/-- Eleven of twenty are 55 per cent, and yet too many for a fork that tolerates as many. -/
theorem eleven_hidden_not_tolerated :
    ((sighted 11 20).map BranchResult.index).Nodup ∧
      ((sighted 11 20).filter fun r => !r.succeeded).length = 11 ∧
      ((55.0 : Float) == Float.ofNat 55) = true ∧ 100 * 11 ≤ 55 * (sighted 11 20).length ∧
      ∃ message,
        merge { toleratedFailurePercentage := some 55.0 } (sighted 11 20) Interpreter.measuring
        Interpreter.inWinter = throw (.unclassified "BranchFailureError" message) := by
  have hExceeded : ¬ tolerates { toleratedFailurePercentage := some 55.0 } 11 20 = true := by
    decide +kernel
  have hFailing : ¬ failure? { toleratedFailurePercentage := some 55.0 } (sighted 11 20) =
    none := by
    rw [failure?_eq_none_iff, not_or]
    exact ⟨by decide, hExceeded⟩
  obtain ⟨message, hFailure⟩ := (failure?_eq_none_or _ _).resolve_left hFailing
  refine ⟨by decide, rfl, by decide +kernel, by decide, message, ?_⟩
  rw [merge, inOrder_sighted.2, hFailure]

end Policy

end Aggregation

end Stepwise
