import Stepwise.Time.Instant
import Stepwise.Proofs.Text.Runs
import Stepwise.Proofs.Time.Calendar

/-!
# Rereading instants

An instant that was read is read again from its text, in years of any size and at leap seconds.
-/

namespace Stepwise.Instant

set_option autoImplicit false

section Digits

variable {width n : Nat}

theorem toList_pad (width n : Nat) :
    (pad width n).toList =
      List.replicate (width - (Nat.toDigits 10 n).length) '0' ++ Nat.toDigits 10 n := by
  have hDigits : (toString n).toList = Nat.toDigits 10 n := Nat.toList_repr
  rw [pad, String.toList_append, String.toList_ofList, ← String.length_toList, hDigits]

theorem isDigit_of_mem_pad {c : Char} (h : c ∈ (pad width n).toList) : c.isDigit = true := by
  rw [toList_pad] at h
  rcases List.mem_append.mp h with hZero | hDigit
  · rw [List.eq_of_mem_replicate hZero]
    rfl
  · exact Nat.isDigit_of_mem_toDigits (by decide) (by decide) hDigit

theorem pad_ne_nil : (pad width n).toList ≠ [] := by
  rw [toList_pad]
  exact List.append_ne_nil_of_right_ne_nil _ Nat.toDigits_ne_nil

theorem exists_pad (width n : Nat) : ∃ c cs, (pad width n).toList = c :: cs ∧ c.isDigit = true := by
  obtain ⟨c, cs, hDigits⟩ := List.exists_cons_of_ne_nil (@pad_ne_nil width n)
  exact ⟨c, cs, hDigits, @isDigit_of_mem_pad width n c (hDigits ▸ List.mem_cons_self)⟩

theorem length_pad (hPos : 0 < width) (h : n < Nat.pow 10 width) :
    (pad width n).toList.length = width := by
  have hShort := (Nat.length_toDigits_le_iff (by decide) hPos).mpr h
  rw [toList_pad, List.length_append, List.length_replicate]
  omega

theorem foldl_eq_ofDigitChars (cs : List Char) (start : Nat) :
    cs.foldl (fun n c => n * 10 + (c.toNat - 48)) start = Nat.ofDigitChars 10 cs start := by
  rw [Nat.ofDigitChars_eq_foldl]
  simp only [Nat.mul_comm 10]
  rfl

theorem natOfDigits_pad (width n : Nat) : Text.natOfDigits (pad width n).toList = n := by
  rw [Text.natOfDigits, foldl_eq_ofDigitChars, toList_pad, Nat.ofDigitChars_append,
    Nat.ofDigitChars_replicate_zero, Nat.mul_zero, Nat.ofDigitChars_ten_toDigits]

theorem isBlank_of_isDigit {c : Char} (h : c.isDigit = true) : Text.isBlank c = false :=
  Text.not_isBlank_of_class (by decide) h

theorem trimStart_of_ends {cs : List Char} (h : Text.Ends Text.isBlank cs) :
    Text.trimStart cs = cs := by
  have hNone : ∀ c ∈ ([] : List Char), Text.isBlank c = true := fun _ hMember => nomatch hMember
  exact Text.dropWhile_run hNone h

theorem ends_isBlank_pad (rest : List Char) :
    Text.Ends Text.isBlank ((pad width n).toList ++ rest) :=
  (Text.ends_of_forall fun _ hMember => isBlank_of_isDigit
  (isDigit_of_mem_pad hMember)).append_of_ne_nil
    pad_ne_nil

theorem readNumber_pad {limit : Nat} {rest : List Char}
    (hFits : (pad width n).toList.length ≤ limit)
    (hEnds : Text.Ends Char.isDigit (rest.take (limit - (pad width n).toList.length))) :
    readNumber limit ((pad width n).toList ++ rest) = some (n, rest) := by
  have hDigits : (((pad width n).toList ++ rest).take limit).takeWhile Char.isDigit =
      (pad width n).toList := by
    rw [List.take_append, List.take_of_length_le hFits]
    exact Text.takeWhile_run (fun _ hMember => isDigit_of_mem_pad hMember) hEnds
  have hNonempty : (pad width n).toList.isEmpty = false := List.isEmpty_eq_false_iff.mpr pad_ne_nil
  simp only [readNumber, trimStart_of_ends (ends_isBlank_pad rest), hDigits, hNonempty,
    natOfDigits_pad, List.drop_left]
  rfl

theorem readNumber_two (h : n < 100) (rest : List Char) :
    readNumber 2 ((pad 2 n).toList ++ rest) = some (n, rest) := by
  have hTwo : (pad 2 n).toList.length = 2 := length_pad (by decide) h
  refine readNumber_pad (Nat.le_of_eq hTwo) ?_
  rw [hTwo]
  exact Text.ends_nil

end Digits

section Parts

theorem readMark_self (mark : Char) (h : Text.isBlank mark = false) (rest : List Char) :
    readMark mark (mark :: rest) = some rest := by
  rw [readMark, trimStart_of_ends (Text.ends_cons h)]
  exact if_pos rfl

theorem ends_take {cs : List Char} (h : Text.Ends Char.isDigit cs) (n : Nat) :
    Text.Ends Char.isDigit (cs.take n) := by
  cases n with
  | zero => exact Text.ends_nil
  | succ n =>
    cases cs with
    | nil => exact Text.ends_nil
    | cons c cs => exact Text.ends_cons (h c rfl)

/-- After a sign all the digits are read, however many there are. -/
theorem readNumber_all {width n : Nat} {rest : List Char} (hEnds : Text.Ends Char.isDigit rest) :
    readNumber ((pad width n).toList ++ rest).length ((pad width n).toList ++ rest) =
      some (n, rest) := by
  refine readNumber_pad ?_ (ends_take hEnds _)
  rw [List.length_append]
  exact Nat.le_add_right _ _

theorem readYear_of_digit {cs : List Char} (h : ∃ c rest, cs = c :: rest ∧ c.isDigit = true) :
    readYear cs = (readNumber 4 cs).map fun p => ((p.1 : Int), p.2) := by
  obtain ⟨c, rest, rfl, hDigit⟩ := h
  rw [readYear, trimStart_of_ends (Text.ends_cons (isBlank_of_isDigit hDigit))]
  split
  · next hSame =>
    cases hSame
    cases hDigit
  · next hSame =>
    cases hSame
    cases hDigit
  · rfl

theorem readYear_plus {cs : List Char} (h : ∃ c rest, cs = c :: rest ∧ c.isDigit = true) :
    readYear ('+' :: cs) = (readNumber cs.length cs).map fun p => ((p.1 : Int), p.2) := by
  obtain ⟨c, rest, rfl, hDigit⟩ := h
  exact if_pos hDigit

theorem readYear_minus {cs : List Char} (h : ∃ c rest, cs = c :: rest ∧ c.isDigit = true) :
    readYear ('-' :: cs) = (readNumber cs.length cs).map fun p => (-(p.1 : Int), p.2) := by
  obtain ⟨c, rest, rfl, hDigit⟩ := h
  exact if_pos hDigit

theorem readYear_text (year : Int) {rest : List Char} (hEnds : Text.Ends Char.isDigit rest) :
    readYear ((yearText year).toList ++ rest) = some (year, rest) := by
  have hBegins (n : Nat) : ∃ c cs, (pad 4 n).toList ++ rest = c :: cs ∧ c.isDigit = true := by
    obtain ⟨c, cs, hDigits, hDigit⟩ := exists_pad 4 n
    exact ⟨c, cs ++ rest, by rw [hDigits]; rfl, hDigit⟩
  unfold yearText
  split
  · next hPlain =>
    have hSmall : year.toNat < 10000 := by omega
    have hFour : (pad 4 year.toNat).toList.length = 4 := length_pad (by decide) hSmall
    have hRead : readNumber 4 ((pad 4 year.toNat).toList ++ rest) = some (year.toNat, rest) := by
      refine readNumber_pad (Nat.le_of_eq hFour) ?_
      rw [hFour]
      exact Text.ends_nil
    rw [readYear_of_digit (hBegins _), hRead, Option.map_some, Int.toNat_of_nonneg hPlain.1]
  · next hSigned =>
    split
    · next hNegative =>
      rw [String.toList_append]
      have hSame : -(year.natAbs : Int) = year := by omega
      exact (readYear_minus (hBegins _)).trans
        (by rw [readNumber_all hEnds, Option.map_some, hSame])
    · next hPositive =>
      rw [String.toList_append]
      have hSame : (year.natAbs : Int) = year := by omega
      exact (readYear_plus (hBegins _)).trans (by rw [readNumber_all hEnds, Option.map_some, hSame])

theorem readFraction_point {width n : Nat} (hPos : 0 < width) (hSmall : n < Nat.pow 10 width)
    (hLe : width ≤ 9) :
    readFraction (("." ++ pad width n).toList ++ ['Z']) =
      .some (n * Nat.pow 10 (9 - width), ['Z']) := by
  have hInside : ∀ c ∈ (pad width n).toList, c.isDigit = true :=
    fun _ hMember => isDigit_of_mem_pad hMember
  have hEnds : Text.Ends Char.isDigit ['Z'] := Text.ends_cons (by decide)
  have hLong := length_pad hPos hSmall
  have hDigits : (((pad width n).toList ++ ['Z']).takeWhile Char.isDigit).take 9 =
      (pad width n).toList := by
    rw [Text.takeWhile_run hInside hEnds,
      List.take_of_length_le (Nat.le_trans (Nat.le_of_eq hLong) hLe)]
  have hNonempty : (pad width n).toList.isEmpty = false := List.isEmpty_eq_false_iff.mpr pad_ne_nil
  rw [String.toList_append]
  change readFraction ('.' :: ((pad width n).toList ++ ['Z'])) = _
  simp only [readFraction, hDigits, hNonempty, natOfDigits_pad, Text.dropWhile_run hInside hEnds,
    hLong]
  rfl

/-- A fraction is cut at the third, sixth or ninth digit only behind zeros. -/
theorem readFraction_text {nano : Nat} (h : nano < nanosPerSecond) :
    readFraction ((fractionText nano).toList ++ ['Z']) = some (nano, ['Z']) := by
  have hBound : nano < 1000000000 := h
  unfold fractionText
  split
  · next hZero =>
    subst hZero
    rfl
  · split
    · next hMillis =>
      have hSmall : nano / 1000000 < 1000 := by omega
      have hWhole : nano / 1000000 * Nat.pow 10 (9 - 3) = nano := by
        change nano / 1000000 * 1000000 = nano
        omega
      rw [readFraction_point (by decide) hSmall (by decide), hWhole]
    · split
      · next hMicros =>
        have hSmall : nano / 1000 < 1000000 := by omega
        have hWhole : nano / 1000 * Nat.pow 10 (9 - 6) = nano := by
          change nano / 1000 * 1000 = nano
          omega
        rw [readFraction_point (by decide) hSmall (by decide), hWhole]
      · rw [readFraction_point (by decide) hBound (by decide), Nat.sub_self]
        exact congrArg (fun n => some (n, ['Z'])) (Nat.mul_one nano)

end Parts

section Whole

variable {t : Instant}

/-- What is read as an instant: a leap second ends a minute of universal time. -/
structure Readable (t : Instant) : Prop where
  inRange : t.inRange = true
  nano : t.nano < 2 * nanosPerSecond
  leap : t.isLeap = true → t.second % 60 = 59

theorem toList_text (t : Instant) :
    t.text.toList =
      (yearText (Time.Date.ofDays (t.second / 86400)).year).toList
        ++ '-' :: ((pad 2 (Time.Date.ofDays (t.second / 86400)).month).toList
        ++ '-' :: ((pad 2 (Time.Date.ofDays (t.second / 86400)).day).toList
        ++ 'T' :: ((pad 2 ((t.second % 86400).toNat / 3600)).toList
        ++ ':' :: ((pad 2 ((t.second % 86400).toNat / 60 % 60)).toList
        ++ ':' :: ((pad 2 ((t.second % 86400).toNat % 60 + if t.isLeap then 1 else 0)).toList
        ++ ((fractionText (if t.isLeap then t.nano - nanosPerSecond else t.nano)).toList
        ++ ['Z'])))))) := by
  simp [text]

theorem bind_of_eq_some {α β : Type} {x : Option α} {f : α → Option β} {a : α} {r : Option β}
    (h : x = some a) (hRest : f a = r) : (x >>= f) = r := by
  rw [h]
  exact hRest

/-- The parts of a written instant, read one by one. -/
theorem ofText?_parts {year : Int} {month day hour minute second nano : Nat} (hMonth : month < 100)
    (hday : day < 100) (hHour : hour < 100) (hMinute : minute < 100) (hSecond : second < 100)
    (hNano : nano < nanosPerSecond) {s : String}
    (hWritten : s.toList = (yearText year).toList ++ '-' :: ((pad 2 month).toList
      ++ '-' :: ((pad 2 day).toList ++ 'T' :: ((pad 2 hour).toList ++ ':' :: ((pad 2 minute).toList
      ++ ':' :: ((pad 2 second).toList ++ ((fractionText nano).toList ++ ['Z']))))))) :
    ofText? s =
      if ¬ (Time.Date.mk year month day).isValid ∨ 23 < hour ∨ 59 < minute ∨ 60 < second then none
      else
        let utc : Instant := ⟨(Time.Date.mk year month day).toDays * 86400
            + ((hour * 3600 + minute * 60 + if second = 60 then 59 else second : Nat) : Int),
          if second = 60 then nano + nanosPerSecond else nano⟩
        if utc.inRange then some utc else none := by
  have hEnds {rest : List Char} : Text.Ends Char.isDigit ('-' :: rest) := Text.ends_cons (by decide)
  have hZone : readOffset ['Z'] = some (0, []) := by decide
  rw [ofText?, hWritten]
  refine bind_of_eq_some (readYear_text year hEnds) ?_
  refine bind_of_eq_some (readMark_self '-' (by decide) _) ?_
  refine bind_of_eq_some (readNumber_two hMonth _) ?_
  refine bind_of_eq_some (readMark_self '-' (by decide) _) ?_
  refine bind_of_eq_some (readNumber_two hday _) ?_
  refine bind_of_eq_some rfl ?_
  refine bind_of_eq_some (readNumber_two hHour _) ?_
  refine bind_of_eq_some (readMark_self ':' (by decide) _) ?_
  refine bind_of_eq_some (readNumber_two hMinute _) ?_
  refine bind_of_eq_some (readMark_self ':' (by decide) _) ?_
  refine bind_of_eq_some (readNumber_two hSecond _) ?_
  refine bind_of_eq_some (readFraction_text hNano) ?_
  refine bind_of_eq_some hZone ?_
  refine (if_neg (by decide)).trans (congrArg (ite _ none) ?_)
  refine (if_neg (by decide)).trans ?_
  change (if (Instant.mk (_ - 0) _).inRange then some (Instant.mk (_ - 0) _) else none) = _
  rw [Int.sub_zero]

theorem ofText?_text (h : t.Readable) : ofText? t.text = some t := by
  have hWritten := toList_text t
  have hValid := Time.Date.isValid_ofDays (t.second / 86400)
  have hDays := Time.Date.toDays_ofDays (t.second / 86400)
  generalize Time.Date.ofDays (t.second / 86400) = date at hWritten hValid hDays
  obtain ⟨year, month, day⟩ := date
  have hFields := Time.Date.isValid_iff.mp hValid
  have hMonthLe := Time.daysInMonth_le year month
  have hClock : ((t.second % 86400).toNat : Int) = t.second % 86400 := by omega
  generalize (t.second % 86400).toNat = seconds at hWritten hClock
  have hShort : seconds < 86400 := by omega
  have hNano := h.nano
  cases hLeap : t.isLeap with
  | true =>
    have hLate : nanosPerSecond ≤ t.nano := of_decide_eq_true hLeap
    have hLast : seconds % 60 + 1 = 60 := by
      have := h.leap hLeap
      omega
    have hTotal : t.second / 86400 * 86400
        + ((seconds / 3600 * 3600 + seconds / 60 % 60 * 60 + 59 : Nat) : Int) = t.second := by
      omega
    have hAllowed : ¬ (¬ (Time.Date.mk year month day).isValid = true ∨ 23 < seconds / 3600 ∨
        59 < seconds / 60 % 60 ∨ 60 < 60) := by
      simp only [hValid, not_true, false_or]
      omega
    simp only [hLeap, if_true, hLast] at hWritten
    rw [ofText?_parts (by omega) (by omega) (by omega) (by omega) (by decide) (by omega) hWritten,
      if_neg hAllowed]
    simp only [if_true, hDays, hTotal, Nat.sub_add_cancel hLate]
    exact if_pos h.inRange
  | false =>
    have hEarly : t.nano < nanosPerSecond := Nat.not_le.mp (of_decide_eq_false hLeap)
    have hInside : seconds % 60 ≠ 60 := by omega
    have hTotal : t.second / 86400 * 86400
        + ((seconds / 3600 * 3600 + seconds / 60 % 60 * 60 + seconds % 60 : Nat) : Int) =
          t.second := by
      omega
    have hAllowed : ¬ (¬ (Time.Date.mk year month day).isValid = true ∨ 23 < seconds / 3600 ∨
        59 < seconds / 60 % 60 ∨ 60 < seconds % 60) := by
      simp only [hValid, not_true, false_or]
      omega
    simp only [hLeap, Bool.false_eq_true, if_false, Nat.add_zero] at hWritten
    rw [ofText?_parts (by omega) (by omega) (by omega) (by omega) (by omega) hEarly hWritten,
      if_neg hAllowed]
    simp only [hInside, if_false, hDays, hTotal]
    exact if_pos h.inRange

section Reading

theorem readOffset_minutes {cs rest : List Char} {offset : Int}
    (h : readOffset cs = some (offset, rest)) :
    offset % 60 = 0 := by
  simp only [readOffset] at h
  split at h
  · cases h
    rfl
  · split at h
    · cases h
    · split at h
      · cases h
        rfl
      · split at h
        · simp only [Option.bind_eq_bind, Option.bind_eq_some_iff] at h
          obtain ⟨⟨hours, _⟩, -, ⟨minutes, _⟩, -, h⟩ := h
          dsimp only at h
          split at h
          · cases h
          · simp only [Option.some.injEq, Prod.mk.injEq] at h
            obtain ⟨rfl, -⟩ := h
            split <;> omega
        · cases h

theorem foldl_digits_lt (cs : List Char) (h : ∀ c ∈ cs, c.isDigit = true) (start : Nat) :
    cs.foldl (fun n c => n * 10 + (c.toNat - 48)) start <
      (start + 1) * Nat.pow 10 cs.length := by
  induction cs generalizing start with
  | nil => exact Nat.lt_of_lt_of_eq (Nat.lt_succ_self start) (Nat.mul_one _).symm
  | cons c cs ih =>
    have hDigit : c.toNat ≤ 57 := (Char.isDigit_iff_toNat.mp (h c List.mem_cons_self)).2
    have hStep : start * 10 + (c.toNat - 48) + 1 ≤ (start + 1) * 10 := by omega
    calc cs.foldl (fun n c => n * 10 + (c.toNat - 48)) (start * 10 + (c.toNat - 48))
        < (start * 10 + (c.toNat - 48) + 1) * Nat.pow 10 cs.length :=
          ih (fun d hMember => h d (List.mem_cons_of_mem _ hMember)) _
      _ ≤ (start + 1) * 10 * Nat.pow 10 cs.length := Nat.mul_le_mul_right _ hStep
      _ = (start + 1) * Nat.pow 10 (cs.length + 1) := by
        rw [Nat.mul_assoc, Nat.mul_comm 10]
        rfl

theorem readFraction_lt {cs rest : List Char} {nano : Nat}
    (h : readFraction cs = some (nano, rest)) :
    nano < nanosPerSecond := by
  unfold readFraction at h
  split at h
  · next more =>
    have hFew : ((more.takeWhile Char.isDigit).take 9).length ≤ 9 := List.length_take_le 9 _
    have hDigits : ∀ c ∈ (more.takeWhile Char.isDigit).take 9, c.isDigit = true := fun c hMember =>
      List.all_eq_true.mp List.all_takeWhile c (List.mem_of_mem_take hMember)
    have hBound := foldl_digits_lt _ hDigits 0
    clear hDigits
    generalize (more.takeWhile Char.isDigit).take 9 = digits at h hFew hBound
    dsimp only at h
    split at h
    · cases h
    · cases h
      have hTen : 0 < 10 := by decide
      have hScaled := Nat.mul_lt_mul_of_pos_right hBound (Nat.pow_pos (n := 9 - digits.length) hTen)
      refine Nat.lt_of_lt_of_eq hScaled ?_
      calc (0 + 1) * Nat.pow 10 digits.length * Nat.pow 10 (9 - digits.length)
          = Nat.pow 10 (digits.length + (9 - digits.length)) := by
            rw [Nat.one_mul]
            exact (Nat.pow_add 10 _ _).symm
        _ = nanosPerSecond := by
            rw [Nat.add_sub_cancel' hFew]
            rfl
  · cases h
    decide

end Reading

theorem readable_of_ofText? {s : String} (h : ofText? s = some t) : t.Readable := by
  unfold ofText? at h
  obtain ⟨⟨year, _⟩, -, h⟩ := Option.bind_eq_some_iff.mp h
  obtain ⟨_, -, h⟩ := Option.bind_eq_some_iff.mp h
  obtain ⟨⟨month, _⟩, -, h⟩ := Option.bind_eq_some_iff.mp h
  obtain ⟨_, -, h⟩ := Option.bind_eq_some_iff.mp h
  obtain ⟨⟨day, separated⟩, -, h⟩ := Option.bind_eq_some_iff.mp h
  obtain ⟨c, cs, rfl⟩ : ∃ c cs, separated = c :: cs := by
    cases separated with
    | nil => cases h
    | cons c cs => exact ⟨c, cs, rfl⟩
  have hMark : c = 'T' ∨ c = 't' ∨ c = ' ' := Classical.byContradiction fun hOther =>
    nomatch (if_neg hOther).symm.trans h
  have h := (if_pos hMark).symm.trans h
  obtain ⟨_, -, h⟩ := Option.bind_eq_some_iff.mp h
  obtain ⟨⟨hour, _⟩, -, h⟩ := Option.bind_eq_some_iff.mp h
  obtain ⟨_, -, h⟩ := Option.bind_eq_some_iff.mp h
  obtain ⟨⟨minute, _⟩, -, h⟩ := Option.bind_eq_some_iff.mp h
  obtain ⟨_, -, h⟩ := Option.bind_eq_some_iff.mp h
  obtain ⟨⟨second, _⟩, -, h⟩ := Option.bind_eq_some_iff.mp h
  obtain ⟨⟨nano, _⟩, hFraction, h⟩ := Option.bind_eq_some_iff.mp h
  obtain ⟨⟨offset, _⟩, hZone, h⟩ := Option.bind_eq_some_iff.mp h
  have hSmall := readFraction_lt hFraction
  have hMinutes := readOffset_minutes hZone
  obtain ⟨-, h⟩ := Option.ite_none_left_eq_some.mp h
  obtain ⟨-, h⟩ := Option.ite_none_left_eq_some.mp h
  obtain ⟨-, h⟩ := Option.ite_none_left_eq_some.mp h
  obtain ⟨hWithin, hSame⟩ := Option.ite_none_right_eq_some.mp h
  obtain rfl := Option.some.inj hSame
  refine ⟨hWithin, ?_, fun hLeap => ?_⟩
  · dsimp only
    split <;> omega
  · have hLate : nanosPerSecond ≤ if second = 60 then nano + nanosPerSecond else nano :=
      of_decide_eq_true hLeap
    split at hLate
    · next hLast =>
      simp only [hLast, if_true]
      omega
    · omega

end Whole

end Stepwise.Instant
