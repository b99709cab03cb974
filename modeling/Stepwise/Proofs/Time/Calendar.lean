import Stepwise.Time.Calendar

/-!
# Days and dates

Every count of days is the count of a valid date. An era of 400 years is cut into centuries, and a
century into years; in both only the last part can be longer than the others.
-/

namespace Stepwise.Time

set_option autoImplicit false

section Years

/-- The years of a century, where `c` centuries of the era went before. -/
theorem century_bounds {c k z : Nat} (hc : c ≤ 3) (hk : k < 36524)
    (hz : z = (k - (k + 24 * c) / 1460) / 365) :
    z ≤ 99 ∧ 365 * z + z / 4 ≤ k ∧ k ≤ 365 * z + z / 4 + 365 ∧
      (k = 365 * z + z / 4 + 365 → z % 4 = 3 ∧ z ≠ 99) := by
  have hParts := Nat.div_add_mod (k + 24 * c) 1460
  have hSmall : (k + 24 * c) % 1460 < 1460 := Nat.mod_lt _ (by decide)
  generalize (k + 24 * c) / 1460 = q at *
  generalize (k + 24 * c) % 1460 = r at *
  have hLow : z / 4 ≤ q := by omega
  have hHigh : q ≤ z / 4 + 1 := by omega
  exact ⟨by omega, by omega, by omega, fun hLast => ⟨by omega, by omega⟩⟩

/-- The year that holds a day of an era, and that its last day is the 366th only in a leap year. -/
theorem era_bounds {d y : Nat} (h : d < 146097)
    (hy : y = (d - d / 1460 + d / 36524 - d / 146096) / 365) :
    y < 400 ∧ 365 * y + y / 4 - y / 100 ≤ d ∧ d ≤ 365 * y + y / 4 - y / 100 + 365 ∧
      (d = 365 * y + y / 4 - y / 100 + 365 → y % 4 = 3 ∧ (y % 100 = 99 → y = 399)) := by
  by_cases hLast : d = 146096
  · -- The last day of the era belongs to no century.
    subst hLast
    have hFinal : y = 399 := hy
    subst hFinal
    decide
  · have hEarly : d / 36524 ≤ 3 := by omega
    have hEra : d / 146096 = 0 := by omega
    have hInside := century_bounds (c := d / 36524) (k := d % 36524) hEarly (by omega) rfl
    have hSplit := Nat.div_add_mod d 36524
    generalize d / 36524 = c at *
    generalize d % 36524 = k at *
    have hSpans : d / 1460 = 25 * c + (k + 24 * c) / 1460 := by omega
    generalize (k + 24 * c) / 1460 = q at *
    generalize (k - q) / 365 = z at *
    have hYear : y = 100 * c + z := by omega
    have hHundreds : y / 100 = c := by omega
    have hFours : y / 4 = 25 * c + z / 4 := by omega
    have hStart : 365 * y + y / 4 - y / 100 = 36524 * c + (365 * z + z / 4) := by omega
    clear hy hSpans
    rw [hStart]
    exact ⟨by omega, by omega, by omega, fun hLast => ⟨by omega, by omega⟩⟩

end Years

theorem daysInMonth_le (year : Int) (month : Nat) : daysInMonth year month ≤ 31 := by
  unfold daysInMonth
  split
  · split <;> decide
  all_goals decide

namespace Date

/-- The date on day `n` of year `y` of an era, where years begin in March. -/
def ofParts (era : Int) (y n : Nat) : Date :=
  let m := (5 * n + 2) / 153
  let month := if m < 10 then m + 3 else m - 9
  let year := (y : Int) + era * 400
  ⟨if month ≤ 2 then year + 1 else year, month, n - (153 * m + 2) / 5 + 1⟩

section Parts

variable {era : Int} {y n : Nat}

theorem ofParts_of_lt (h : (5 * n + 2) / 153 < 10) :
    ofParts era y n = ⟨y + era * 400, (5 * n + 2) / 153 + 3,
      n - (153 * ((5 * n + 2) / 153) + 2) / 5 + 1⟩ := by
  have hMonth : ¬ (5 * n + 2) / 153 + 3 ≤ 2 := by omega
  simp only [ofParts, if_pos h, if_neg hMonth]

theorem ofParts_of_not_lt (h : ¬ (5 * n + 2) / 153 < 10) (hn : n ≤ 365) :
    ofParts era y n = ⟨y + era * 400 + 1, (5 * n + 2) / 153 - 9,
      n - (153 * ((5 * n + 2) / 153) + 2) / 5 + 1⟩ := by
  have hMonth : (5 * n + 2) / 153 - 9 ≤ 2 := by omega
  simp only [ofParts, if_neg h, if_pos hMonth]

theorem toDays_ofParts (hy : y < 400) (hn : n ≤ 365) :
    (ofParts era y n).toDays =
      era * 146097 + ((365 * y + y / 4 - y / 100 + n : Nat) : Int) - 719468 := by
  have hBegun : (153 * ((5 * n + 2) / 153) + 2) / 5 ≤ n := by omega
  have hEras : ((y : Int) + era * 400) / 400 = era := by omega
  have hYears : ((y : Int) + era * 400) % 400 = y := by omega
  by_cases hEarly : (5 * n + 2) / 153 < 10
  · have hMonth : ¬ (5 * n + 2) / 153 + 3 ≤ 2 := by omega
    simp only [ofParts_of_lt hEarly, toDays, if_neg hMonth, hEras, hYears, Nat.add_sub_cancel]
    omega
  · have hMonth : (5 * n + 2) / 153 - 9 ≤ 2 := by omega
    have hCounted : (5 * n + 2) / 153 - 9 + 9 = (5 * n + 2) / 153 := by omega
    simp only [ofParts_of_not_lt hEarly hn, toDays, if_pos hMonth, Int.add_sub_cancel, hEras,
      hYears, hCounted]
    omega

theorem isValid_iff {year : Int} {month day : Nat} :
    (Date.mk year month day).isValid = true ↔
      1 ≤ month ∧ month ≤ 12 ∧ 1 ≤ day ∧ day ≤ daysInMonth year month := by
  simp only [isValid, Bool.and_eq_true, decide_eq_true_eq, and_assoc]

theorem isLeapYear_of_long (h : y % 4 = 3 ∧ (y % 100 = 99 → y = 399)) :
    isLeapYear (y + era * 400 + 1) = true := by
  simp only [isLeapYear, Bool.and_eq_true, Bool.or_eq_true, decide_eq_true_eq]
  omega

theorem day_le_of_lt {m : Nat} (year : Int) (hm : m < 10) (hFirst : 153 * m ≤ 5 * n + 2)
    (hLast : 5 * n + 2 < 153 * (m + 1)) : n - (153 * m + 2) / 5 + 1 ≤ daysInMonth year (m + 3) := by
  match m, hm with
  | 0, _ | 1, _ | 2, _ | 3, _ | 4, _ | 5, _ | 6, _ | 7, _ | 8, _ | 9, _ =>
    simp only [daysInMonth]
    omega

theorem isValid_ofParts (hn : n ≤ 365)
    (hLong : n = 365 → y % 4 = 3 ∧ (y % 100 = 99 → y = 399)) :
    (ofParts era y n).isValid = true := by
  have hSome : 1 ≤ n - (153 * ((5 * n + 2) / 153) + 2) / 5 + 1 := Nat.le_add_left 1 _
  by_cases hEarly : (5 * n + 2) / 153 < 10
  · rw [ofParts_of_lt hEarly]
    exact isValid_iff.mpr ⟨Nat.le_add_left 1 _, by omega, hSome,
      day_le_of_lt _ hEarly (by omega) (by omega)⟩
  · rw [ofParts_of_not_lt hEarly hn]
    by_cases hJanuary : (5 * n + 2) / 153 = 10
    · have hWithin : n - (153 * 10 + 2) / 5 + 1 ≤ 31 := by omega
      rw [hJanuary] at hSome ⊢
      exact isValid_iff.mpr ⟨by decide, by decide, hSome, hWithin⟩
    · have hFebruary : (5 * n + 2) / 153 = 11 := by omega
      rw [hFebruary] at hSome ⊢
      refine isValid_iff.mpr ⟨by decide, by decide, hSome, ?_⟩
      by_cases hLast : n = 365
      · simp only [daysInMonth, isLeapYear_of_long (hLong hLast), if_true]
        omega
      · simp only [daysInMonth]
        split <;> omega

end Parts

theorem exists_parts (days : Int) :
    ∃ (era : Int) (y n : Nat), Date.ofDays days = ofParts era y n ∧ y < 400 ∧ n ≤ 365 ∧
      (n = 365 → y % 4 = 3 ∧ (y % 100 = 99 → y = 399)) ∧
      days = era * 146097 + ((365 * y + y / 4 - y / 100 + n : Nat) : Int) - 719468 := by
  have hInEra : ((days + 719468) % 146097).toNat < 146097 := by omega
  have hEras : (days + 719468) / 146097 * 146097 + ((days + 719468) % 146097).toNat =
    days + 719468 := by
    omega
  obtain ⟨d, hDay⟩ : ∃ d, d = ((days + 719468) % 146097).toNat := ⟨_, rfl⟩
  obtain ⟨y, hYear⟩ : ∃ y, y = (d - d / 1460 + d / 36524 - d / 146096) / 365 := ⟨_, rfl⟩
  rw [← hDay] at hInEra hEras
  obtain ⟨hShort, hStart, hFinish, hLong⟩ := era_bounds hInEra hYear
  refine ⟨(days + 719468) / 146097, y, d - (365 * y + y / 4 - y / 100), ?_, hShort, by omega,
    fun hLast => hLong (by omega), by omega⟩
  subst hDay hYear
  rfl

theorem toDays_ofDays (days : Int) : (ofDays days).toDays = days := by
  obtain ⟨era, y, n, hParts, hy, hn, -, hTotal⟩ := exists_parts days
  rw [hParts, toDays_ofParts hy hn, ← hTotal]

theorem isValid_ofDays (days : Int) : (ofDays days).isValid = true := by
  obtain ⟨era, y, n, hParts, -, hn, hLong, -⟩ := exists_parts days
  rw [hParts, isValid_ofParts hn hLong]

end Date

end Stepwise.Time
