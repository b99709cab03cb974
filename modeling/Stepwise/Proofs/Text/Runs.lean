import Stepwise.Text.CharClass

/-!
# Runs of characters

Runs of characters of one class: where they end, and where trimming cuts.
-/

namespace Stepwise.Text

set_option autoImplicit false

section Ends

variable {p : Char → Bool} {run rest : List Char}

def Ends (p : Char → Bool) (rest : List Char) : Prop := ∀ c ∈ rest.head?, p c = false

theorem ends_nil : Ends p [] := by simp [Ends]

theorem ends_cons {c : Char} (h : p c = false) : Ends p (c :: rest) := by
  intro d hFirst
  cases hFirst
  exact h

theorem ends_of_forall (h : ∀ c ∈ rest, p c = false) : Ends p rest :=
  fun c hFirst => h c (List.mem_of_mem_head? hFirst)

theorem Ends.append (hFirst : Ends p run) (hSecond : Ends p rest) : Ends p (run ++ rest) := by
  cases run with
  | nil => exact hSecond
  | cons c run => exact ends_cons (hFirst c rfl)

theorem Ends.append_of_ne_nil (hFirst : Ends p run) (hNonempty : run ≠ []) :
    Ends p (run ++ rest) := by
  obtain ⟨c, run, rfl⟩ := List.exists_cons_of_ne_nil hNonempty
  exact ends_cons (hFirst c rfl)

theorem takeWhile_run (hInside : ∀ c ∈ run, p c = true) (hEnds : Ends p rest) :
    (run ++ rest).takeWhile p = run := by
  rw [List.takeWhile_append_of_pos hInside]
  cases rest with
  | nil => simp
  | cons c rest => simp [hEnds c rfl]

theorem dropWhile_run (hInside : ∀ c ∈ run, p c = true) (hEnds : Ends p rest) :
    (run ++ rest).dropWhile p = rest := by
  rw [List.dropWhile_append_of_pos hInside]
  cases rest with
  | nil => rfl
  | cons c rest => simp [hEnds c rfl]

end Ends

theorem ranges_of_isAlphanum {c : Char} (h : c.isAlphanum = true) :
    (65 ≤ c.toNat ∧ c.toNat ≤ 90) ∨ (97 ≤ c.toNat ∧ c.toNat ≤ 122) ∨
    (48 ≤ c.toNat ∧ c.toNat ≤ 57) := by
  unfold Char.isAlphanum Char.isAlpha Char.isUpper Char.isLower Char.isDigit at h
  simp only [Bool.or_eq_true, Bool.and_eq_true, decide_eq_true_eq, UInt32.le_iff_toNat_le,
    ge_iff_le, or_assoc] at h
  exact h

abbrev Blanks := {cs : List Char // ∀ c ∈ cs, isBlank c = true}

def blanks : List Nat :=
  [9, 10, 11, 12, 13, 0x20, 0x85, 0xA0, 0x1680, 0x2000, 0x2001, 0x2002, 0x2003, 0x2004, 0x2005,
    0x2006, 0x2007, 0x2008, 0x2009, 0x200A, 0x2028, 0x2029, 0x202F, 0x205F, 0x3000]

theorem mem_blanks {c : Char} (h : isBlank c = true) : c.toNat ∈ blanks := by
  simp only [isBlank, Bool.or_eq_true, Bool.and_eq_true, decide_eq_true_eq] at h
  simp only [blanks, List.mem_cons, List.not_mem_nil, or_false]
  omega

theorem not_isBlank_of_class {p : Char → Bool}
    (hApart : blanks.all (fun n => !p (Char.ofNat n)) = true) {c : Char} (h : p c = true) :
    isBlank c = false := by
  cases hBlank : isBlank c with
  | false => rfl
  | true =>
    have hSame := List.all_eq_true.mp hApart _ (mem_blanks hBlank)
    rw [Char.ofNat_toNat, h] at hSame
    cases hSame

/-- A text with no blank at its ends. -/
structure Trimmed (cs : List Char) : Prop where
  nonempty : cs ≠ []
  first : Ends isBlank cs
  last : Ends isBlank cs.reverse

namespace Trimmed

variable {cs more : List Char}

theorem of_forall (hNonempty : cs ≠ []) (h : ∀ c ∈ cs, isBlank c = false) : Trimmed cs where
  nonempty := hNonempty
  first := ends_of_forall h
  last := ends_of_forall fun c hMember => h c (List.mem_reverse.mp hMember)

theorem of_all (hNonempty : cs ≠ []) (h : cs.all (fun c => !isBlank c) = true) : Trimmed cs :=
  of_forall hNonempty fun c hMember => by simpa using List.all_eq_true.mp h c hMember

theorem around (h : Trimmed cs) (between : List Char) (h' : Trimmed more) :
    Trimmed (cs ++ (between ++ more)) where
  nonempty := List.append_ne_nil_of_left_ne_nil h.nonempty _
  first := h.first.append_of_ne_nil h.nonempty
  last := by
    rw [List.reverse_append, List.reverse_append, List.append_assoc]
    exact h'.last.append_of_ne_nil (List.reverse_ne_nil_iff.mpr h'.nonempty)

theorem append (h : Trimmed cs) (h' : Trimmed more) : Trimmed (cs ++ more) := h.around [] h'

theorem enclosed {c d : Char} (between : List Char) (h : isBlank c = false)
    (h' : isBlank d = false) :
    Trimmed (c :: (between ++ [d])) := by
  have hSingle {e : Char} (h : isBlank e = false) : Trimmed [e] :=
    of_forall (List.cons_ne_nil _ _) fun f hMember => List.mem_singleton.mp hMember ▸ h
  exact (hSingle h).around between (hSingle h')

theorem trim_padded {before core after : List Char} (h : Trimmed core)
    (hLeft : ∀ c ∈ before, isBlank c = true) (hRight : ∀ c ∈ after, isBlank c = true) :
    trim (before ++ (core ++ after)) = core := by
  rw [trim, trimStart, dropWhile_run hLeft (h.first.append_of_ne_nil h.nonempty), trimEnd,
    List.reverse_append,
    dropWhile_run (fun c hMember => hRight c (List.mem_reverse.mp hMember)) h.last,
    List.reverse_reverse]

end Trimmed

end Stepwise.Text
