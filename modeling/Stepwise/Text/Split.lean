/-!
# Splitting

Splitting a text at a character.
-/

namespace Stepwise.Text

set_option autoImplicit false

/-- The parts between the separators; there is always at least one. -/
def splitAt (separator : Char) : List Char → List (List Char)
  | [] => [[]]
  | c :: rest =>
    if c = separator then [] :: splitAt separator rest
    else
      match splitAt separator rest with
      | [] => [[c]]
      | part :: parts => (c :: part) :: parts

theorem splitAt_ne_nil (separator : Char) (cs : List Char) : splitAt separator cs ≠ [] := by
  cases cs with
  | nil => simp [splitAt]
  | cons c rest =>
    unfold splitAt
    split
    · simp
    · split <;> simp

theorem splitAt_eq_splitOn (separator : Char) (cs : List Char) :
    splitAt separator cs = cs.splitOn separator := by
  induction cs with
  | nil => simp [splitAt]
  | cons c rest ih =>
    rw [splitAt, ih, List.splitOn_cons_eq_if_modifyHead]
    by_cases hSame : c = separator
    · simp [hSame]
    · simp only [hSame, if_false, beq_iff_eq]
      cases hParts : rest.splitOn separator with
      | nil => exact absurd (ih.trans hParts) (splitAt_ne_nil separator rest)
      | cons part parts => rfl

theorem not_mem_of_mem_splitAt {separator : Char} {cs part : List Char}
    (h : part ∈ splitAt separator cs) : separator ∉ part := by
  induction cs generalizing part with
  | nil =>
    rw [List.mem_singleton.mp h]
    exact List.not_mem_nil
  | cons c rest ih =>
    unfold splitAt at h
    split at h
    · rcases List.mem_cons.mp h with rfl | hLater
      · exact List.not_mem_nil
      · exact ih hLater
    · next hOther =>
      split at h
      · next hNone => exact absurd hNone (splitAt_ne_nil separator rest)
      · next first parts hFound =>
        rcases List.mem_cons.mp h with rfl | hLater
        · rw [List.mem_cons, not_or]
          exact ⟨Ne.symm hOther, ih (hFound ▸ List.mem_cons_self)⟩
        · exact ih (hFound ▸ List.mem_cons_of_mem first hLater)

theorem splitAt_of_not_mem {separator : Char} {cs : List Char} (h : separator ∉ cs) :
    splitAt separator cs = [cs] := by
  induction cs with
  | nil => rfl
  | cons c rest ih =>
    obtain ⟨hOther, hLater⟩ := List.ne_and_not_mem_of_not_mem_cons h
    rw [splitAt, if_neg (Ne.symm hOther), ih hLater]

theorem splitAt_injective (separator : Char) {cs ds : List Char}
    (h : splitAt separator cs = splitAt separator ds) : cs = ds := by
  rw [splitAt_eq_splitOn, splitAt_eq_splitOn] at h
  simpa only [List.intercalate_splitOn] using congrArg (List.intercalate [separator]) h

end Stepwise.Text
