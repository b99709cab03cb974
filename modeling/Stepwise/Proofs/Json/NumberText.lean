import Stepwise.Proofs.Json.Numeral

/-!
# The text of a number

The text of a number, and how far reading a number can go: over characters of numbers only.
-/

namespace Stepwise

set_option autoImplicit false

namespace Number

open Numeral (isChar isChar_of_isDigit)

/-- The text begins with characters of numbers, and the rest stands behind them. -/
def Passes (cs rest : List Char) : Prop := ∃ taken, cs = taken ++ rest ∧
    ∀ c ∈ taken, isChar c = true

section Reading

variable {cs rest : List Char} {c : Char} {m : Number}

theorem passes_self (cs : List Char) : Passes cs cs := ⟨[], rfl, fun _ hAmong => nomatch hAmong⟩

theorem Passes.cons (h : Passes cs rest) (hFirst : isChar c = true) : Passes (c :: cs) rest := by
  obtain ⟨taken, rfl, hInside⟩ := h
  exact ⟨c :: taken, rfl, List.forall_mem_cons.mpr ⟨hFirst, hInside⟩⟩

theorem Passes.trans {between : List Char} (h : Passes cs between) (h' : Passes between rest) :
    Passes cs rest := by
  obtain ⟨taken, rfl, hInside⟩ := h
  obtain ⟨more, rfl, hInside'⟩ := h'
  exact ⟨taken ++ more, (List.append_assoc ..).symm, List.forall_mem_append.mpr ⟨hInside, hInside'⟩⟩

theorem passes_dropWhile (cs : List Char) : Passes cs (cs.dropWhile Char.isDigit) :=
  ⟨cs.takeWhile Char.isDigit, List.takeWhile_append_dropWhile.symm,
    fun _ hAmong => isChar_of_isDigit (List.all_eq_true.mp List.all_takeWhile _ hAmong)⟩

theorem passes_readWhole (n : Nat) (cs : List Char) : Passes cs (readWhole n cs).2.2 := by
  induction cs generalizing n with
  | nil => exact passes_self []
  | cons c rest ih =>
    unfold readWhole
    split
    · next hDigit =>
      split
      · exact (ih _).cons (isChar_of_isDigit hDigit)
      · exact passes_dropWhile (c :: rest)
    · exact passes_self (c :: rest)

theorem passes_readFraction (n taken : Nat) (cs : List Char) :
    Passes cs (readFraction n taken cs).2.2 := by
  induction cs generalizing n taken with
  | nil => exact passes_self []
  | cons c rest ih =>
    unfold readFraction
    split
    · next hDigit =>
      split
      · exact (ih _ _).cons (isChar_of_isDigit hDigit)
      · exact passes_dropWhile (c :: rest)
    · exact passes_self (c :: rest)

theorem passes_scaled {negative : Bool} {n : Nat} {e : Int} {after : List Char}
    (h : ((scale? n e).map fun x => (Number.double (signed negative x), after)) = some (m, rest)) :
    Passes after rest := by
  obtain ⟨x, -, hSame⟩ := Option.map_eq_some_iff.mp h
  cases hSame
  exact passes_self _

def readPower (negative : Bool) (n : Nat) (e : Int) (down : Bool) (cs : List Char) :
    Option (Number × List Char) :=
  match cs with
  | d :: _ =>
    if d.isDigit then
      if (readDigits cs).1 < 0x80000000 then
        (scale? n (if down then e - (readDigits cs).1 else e + (readDigits cs).1)).map fun x =>
          (Number.double (signed negative x), (readDigits cs).2)
      else if n ≠ 0 ∧ ¬ down then none
      else some (.double (signed negative 0.0), (readDigits cs).2)
    else none
  | [] => none

theorem passes_readPower {negative down : Bool} {n : Nat} {e : Int}
    (h : readPower negative n e down cs = some (m, rest)) : Passes cs rest := by
  have hRead : Passes cs (readDigits cs).2 := passes_dropWhile cs
  unfold readPower at h
  split at h
  · split at h
    · split at h
      · exact hRead.trans (passes_scaled h)
      · split at h
        · cases h
        · cases h
          exact hRead
    · cases h
  · cases h

theorem passes_readExponent {negative : Bool} {n : Nat} {e : Int}
    (h : readExponent negative n e cs = some (m, rest)) : Passes cs rest := by
  cases cs with
  | nil => exact passes_scaled h
  | cons c more =>
    simp only [readExponent] at h
    split at h
    · next hLetter =>
      have hFirst : isChar c = true := by
        rcases hLetter with rfl | rfl
        · rfl
        · rfl
      have hDigits (p : Bool × List Char) (h : readPower negative n e p.1 p.2 = some (m, rest)) :
          Passes p.2 rest := passes_readPower h
      refine Passes.cons (Passes.trans ?_ (hDigits _ h)) hFirst
      split
      · exact (passes_self _).cons rfl
      · exact (passes_self _).cons rfl
      · exact passes_self _
    · exact passes_scaled h

theorem passes_readTail {negative : Bool} {n dropped : Nat}
    (h : readTail negative n dropped cs = some (m, rest)) : Passes cs rest := by
  unfold readTail at h
  split at h
  · split at h
    · split at h
      · next more _ =>
        exact ((passes_readFraction n 0 _).trans (passes_readExponent h)).cons rfl
      · cases h
    · cases h
  · exact passes_readExponent h
  · exact passes_readExponent h
  · split at h
    · cases h
      exact passes_self _
    · exact passes_readExponent h

def readUnsigned (negative : Bool) (cs : List Char) : Option (Number × List Char) :=
  match cs with
  | '0' :: rest =>
    match rest with
    | d :: _ => if d.isDigit then none else readTail negative 0 0 rest
    | [] => readTail negative 0 0 []
  | c :: rest =>
    if c.isDigit then
      readTail negative (readWhole 0 (c :: rest)).1 (readWhole 0 (c :: rest)).2.1
        (readWhole 0 (c :: rest)).2.2
    else none
  | [] => none

theorem passes_readUnsigned {negative : Bool} (h : readUnsigned negative cs = some (m, rest)) :
    Passes cs rest := by
  unfold readUnsigned at h
  split at h
  · split at h
    · split at h
      · cases h
      · exact (passes_readTail h).cons rfl
    · exact (passes_readTail h).cons rfl
  · split at h
    · exact (passes_readWhole 0 _).trans (passes_readTail h)
    · cases h
  · cases h

theorem passes_read (h : Number.read cs = some (m, rest)) : Passes cs rest := by
  have hUnsigned (p : Bool × List Char) (h : readUnsigned p.1 p.2 = some (m, rest)) :
      Passes p.2 rest :=
    passes_readUnsigned h
  refine Passes.trans ?_ (hUnsigned _ h)
  split
  · exact (passes_self _).cons rfl
  · exact passes_self _

end Reading

section Writing

structure Digits (cs : List Char) : Prop where
  inside : ∀ c ∈ cs, isChar c = true
  first : ∃ d more, cs = d :: more ∧ d.isDigit = true

theorem Digits.append {cs more : List Char} (h : Digits cs)
    (hInside : ∀ c ∈ more, isChar c = true) :
    Digits (cs ++ more) := by
  obtain ⟨d, rest, rfl, hDigit⟩ := h.first
  exact ⟨List.forall_mem_append.mpr ⟨h.inside, hInside⟩, d, rest ++ more, rfl, hDigit⟩

theorem digits_toString (n : Nat) : Digits (toString n).toList := by
  have hText : (toString n).toList = Nat.toDigits 10 n := Nat.toList_repr
  have hDigit {c : Char} (hAmong : c ∈ Nat.toDigits 10 n) : c.isDigit = true :=
    Nat.isDigit_of_mem_toDigits (by decide) (by decide) hAmong
  obtain ⟨d, more, hSame⟩ := List.exists_cons_of_ne_nil (Nat.toDigits_ne_nil (n := n) (b := 10))
  rw [hText]
  exact ⟨fun c hAmong => isChar_of_isDigit (hDigit hAmong), d, more, hSame,
    hDigit (hSame ▸ List.mem_cons_self)⟩

theorem isChar_of_mem_zeros {n : Nat} {c : Char} (hAmong : c ∈ (Decimal.zeros n).toList) :
    isChar c = true := by
  rw [Decimal.zeros, String.toList_ofList] at hAmong
  rw [List.eq_of_mem_replicate hAmong]
  rfl

theorem digits_write (style : Decimal.Style) (d : Decimal) :
    Digits (Decimal.write style d).toList := by
  have hText := digits_toString d.digits
  obtain ⟨c, more, hSame, hDigit⟩ := hText.first
  have hInside := hText.inside
  rw [hSame] at hInside
  have hFirst := hInside c List.mem_cons_self
  have hOthers := fun e hAmong => hInside e (List.mem_cons_of_mem c hAmong)
  unfold Decimal.write
  dsimp only
  split
  · exact ⟨List.all_eq_true.mp rfl, '0', ['.', '0'], rfl, rfl⟩
  · split
    · split
      · rw [String.toList_append, String.toList_append]
        exact (hText.append fun _ => isChar_of_mem_zeros).append (List.all_eq_true.mp rfl)
      · split
        · rw [String.toList_append, String.toList_append]
          have hZero : Digits "0.".toList := ⟨List.all_eq_true.mp rfl, '0', ['.'], rfl, rfl⟩
          exact (hZero.append fun _ => isChar_of_mem_zeros).append hText.inside
        · simp only [String.toList_append, String.toList_ofList, hSame, List.take_succ_cons,
            List.drop_succ_cons]
          have hWhole (n : Nat) : Digits (c :: more.take n) :=
            ⟨List.forall_mem_cons.mpr
            ⟨hFirst, fun e hAmong => hOthers e (List.mem_of_mem_take hAmong)⟩, c, _,
              rfl, hDigit⟩
          exact ((hWhole _).append (List.all_eq_true.mp rfl)).append fun e hAmong =>
            hOthers e (List.mem_of_mem_drop hAmong)
    · have hExponent (n : Nat) := (digits_toString n).inside
      rw [String.toList_append, String.toList_append, hSame]
      refine Digits.append (Digits.append ?_ ?_) (hExponent _)
      · rcases more with _ | ⟨e, more⟩
        · exact ⟨by simpa using hFirst, c, [], String.toList_ofList, hDigit⟩
        · have hPoint : isChar '.' = true := rfl
          exact ⟨by simpa [hFirst, hPoint] using hOthers, c, '.' :: e :: more, String.toList_ofList,
            hDigit⟩
      · split <;> exact List.all_eq_true.mp rfl

/-- The text of a number begins like a number and has characters of numbers only; a double that is
no number is written as null. -/
theorem text_cases (n : Number) : n.text = "null" ∨
    (∀ c ∈ n.text.toList, isChar c = true) ∧
      ∃ c more, n.text.toList = c :: more ∧ (c = '-' ∨ c.isDigit = true) := by
  have hPlain {cs : List Char} (h : Digits cs) : (∀ c ∈ cs, isChar c = true) ∧
      ∃ c more, cs = c :: more ∧ (c = '-' ∨ c.isDigit = true) := by
    obtain ⟨d, more, hSame, hDigit⟩ := h.first
    exact ⟨h.inside, d, more, hSame, .inr hDigit⟩
  have hSigned {cs : List Char} (h : Digits cs) : (∀ c ∈ '-' :: cs, isChar c = true) ∧
      ∃ c more, '-' :: cs = c :: more ∧ (c = '-' ∨ c.isDigit = true) :=
    ⟨List.forall_mem_cons.mpr ⟨rfl, h.inside⟩, '-', cs, rfl, .inl rfl⟩
  cases n with
  | int n =>
    refine .inr ?_
    cases n with
    | ofNat n => exact hPlain (digits_toString n)
    | negSucc n =>
      have hText : (text (.int (.negSucc n))).toList = '-' :: (toString (n + 1)).toList :=
        String.toList_append
      rw [hText]
      exact hSigned (digits_toString (n + 1))
  | double x =>
    rw [text]
    split
    · exact .inl rfl
    · next negative d _ =>
      refine .inr ?_
      rw [String.toList_append]
      cases negative with
      | false => exact hPlain (digits_write style d)
      | true => exact hSigned (digits_write style d)

end Writing

end Number

end Stepwise
