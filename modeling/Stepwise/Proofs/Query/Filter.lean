import Stepwise.Proofs.Query.Total

/-!
# Filters that compare with a text

Filters that compare a field with a text. A filter is rewritten character by character, and the
rewriting does not know which of them stand inside quotes; a text that holds none of the pieces that
it looks for comes through as it is, and the filter then keeps the elements whose field is that
text.
-/

namespace Stepwise

set_option autoImplicit false

open Text

section Pieces

variable {piece ys cs rest : List Char} {c d : Char}

/-- A piece without the separating character stands before it or behind it. -/
theorem infix_of_separated (xs : List Char) (hApart : d ∉ piece) (h : piece <:+: xs ++ d :: ys) :
    piece <:+: xs ∨ piece <:+: ys := by
  have hPrefixed {xs : List Char} (h : piece <+: xs ++ d :: ys) : piece <+: xs := by
    by_cases hShorter : piece.length ≤ xs.length
    · exact List.prefix_of_prefix_length_le h (List.prefix_append xs _) hShorter
    · have hLonger : xs ++ [d] <+: piece := by
        refine List.prefix_of_prefix_length_le ?_ h ?_
        · exact (List.prefix_append_right_inj xs).mpr ⟨ys, rfl⟩
        · rw [List.length_append, List.length_singleton]
          omega
      exact absurd (hLonger.subset (by simp)) hApart
  induction xs with
  | nil =>
    rcases List.infix_cons_iff.mp h with hHere | hLater
    · exact .inl (@hPrefixed [] hHere).isInfix
    · exact .inr hLater
  | cons x xs ih =>
    rcases List.infix_cons_iff.mp h with hHere | hLater
    · exact .inl (@hPrefixed (x :: xs) hHere).isInfix
    · exact (ih hLater).imp_left fun hInside => List.infix_cons_iff.mpr (.inr hInside)

theorem dropWhile_append_stop {p : Char → Bool} (hStop : p d = false) (cs rest : List Char) :
    (cs ++ d :: rest).dropWhile p = cs.dropWhile p ++ d :: rest := by
  induction cs with
  | nil => simp [hStop]
  | cons c cs ih =>
    rw [List.cons_append, List.dropWhile_cons, List.dropWhile_cons]
    split
    · exact ih
    · rfl

end Pieces

namespace QueryText

section Passes

variable {old new cs rest : List Char} {steps : Nat}

theorem replaceAll_of_absent (hAbsent : ¬ old <:+: cs) : replaceAll old new steps cs = cs := by
  induction steps generalizing cs with
  | zero => rfl
  | succ steps ih =>
    cases cs with
    | nil => rfl
    | cons c rest =>
      have hHere : ¬ old.isPrefixOf (c :: rest) = true := fun hFound =>
        hAbsent (List.isPrefixOf_iff_prefix.mp hFound).isInfix
      rw [replaceAll, if_neg hHere,
        ih fun hLater => hAbsent (List.infix_cons_iff.mpr (.inr hLater))]

theorem replace_of_absent {old new : String} (hAbsent : ¬ old.toList <:+: cs) :
    replace old new cs = cs := replaceAll_of_absent hAbsent

theorem requote_of_not_mem (hAbsent : '\x22' ∉ cs) : requote steps cs = cs := by
  induction steps generalizing cs with
  | zero => rfl
  | succ steps ih =>
    cases cs with
    | nil => rfl
    | cons c rest =>
      rw [requote, if_neg (List.ne_of_not_mem_cons hAbsent).symm,
        ih (List.not_mem_of_not_mem_cons hAbsent)]

theorem requote_append (hAbsent : '\x22' ∉ cs) (rest : List Char) :
    requote (cs.length + steps) (cs ++ rest) = cs ++ requote steps rest := by
  induction cs with
  | nil => simp
  | cons c cs ih =>
    rw [List.length_cons, Nat.add_right_comm, List.cons_append, requote,
      if_neg (List.ne_of_not_mem_cons hAbsent).symm, ih (List.not_mem_of_not_mem_cons hAbsent)]
    rfl

theorem requote_quoted (hAbsent : '\x22' ∉ cs) (rest : List Char) :
    requote (steps + 1) ('\x22' :: (cs ++ '\x22' :: rest)) =
      '\x27' :: (cs ++ '\x27' :: requote steps rest) := by
  have hInside : ∀ c ∈ cs, decide (c ≠ '\x22') = true := by
    intro c hAmong
    exact decide_eq_true fun hSame => hAbsent (hSame ▸ hAmong)
  have hEnds : Ends (fun c => decide (c ≠ '\x22')) ('\x22' :: rest) := ends_cons (by decide)
  rw [requote, if_pos rfl, dropWhile_run hInside hEnds, takeWhile_run hInside hEnds]
  rfl

theorem markConstants_of_forall (hAbsent : ∀ t, t <:+ cs → operand? t = none) :
    markConstants steps cs = cs := by
  induction steps generalizing cs with
  | zero => rfl
  | succ steps ih =>
    cases cs with
    | nil => rfl
    | cons c rest =>
      rw [markConstants, hAbsent _ List.suffix_rfl]
      exact congrArg (c :: ·)
        (ih fun t hBehind => hAbsent t (hBehind.trans (List.suffix_cons c rest)))

end Passes

section Predicates

variable {cs rest : List Char}

theorem afterClosing?_of_absent {mark : Char} (hVisible : isBlank mark = false)
    (hOther : mark ≠ ')' ∧ mark ≠ ']') (hAbsent : ¬ [')', ']'] <:+: cs) (rest : List Char) :
    afterClosing? (cs ++ mark :: rest) = none := by
  unfold afterClosing?
  rw [dropWhile_append_stop hVisible]
  have hKept : ¬ [')', ']'] <:+: cs.dropWhile isBlank := fun hInside =>
    hAbsent (hInside.trans (List.dropWhile_suffix _).isInfix)
  split
  · next hFound =>
    match hShape : cs.dropWhile isBlank with
    | [] =>
      rw [hShape] at hFound
      exact absurd (List.cons.inj hFound).1 hOther.1
    | [c] =>
      rw [hShape] at hFound
      exact absurd (List.cons.inj (List.cons.inj hFound).2).1 hOther.2
    | c :: d :: more =>
      rw [hShape] at hFound hKept
      have hFirst : c = ')' := (List.cons.inj hFound).1
      have hSecond : d = ']' := (List.cons.inj (List.cons.inj hFound).2).1
      subst hFirst hSecond
      exact absurd ⟨[], more, rfl⟩ hKept
  · rfl

-- The equation that is made for the definition computes blanks, which takes long.
seal afterClosing? in
theorem predicate_cons (c : Char) (more : List Char) : predicate (c :: more) =
    match afterClosing? (c :: more) with
    | some after => some ([], after)
    | none => if c = '\n' then none else (predicate more).map fun p => (c :: p.1, p.2) := rfl

/-- The predicate of a filter ends at the first closing. -/
theorem predicate_of_absent {mark : Char} (hVisible : isBlank mark = false)
    (hOther : mark ≠ ')' ∧ mark ≠ ']') (hLine : mark ≠ '\n') (hOneLine : '\n' ∉ cs)
    (hAbsent : ¬ [')', ']'] <:+: cs) (rest : List Char) :
    predicate (cs ++ mark :: ')' :: ']' :: rest) = some (cs ++ [mark], rest) := by
  induction cs with
  | nil =>
    have hOpened : afterClosing? (mark :: ')' :: ']' :: rest) = none :=
      @afterClosing?_of_absent [] mark hVisible hOther hAbsent _
    have hClosed : afterClosing? (')' :: ']' :: rest) = some rest := by
      rw [afterClosing?, List.dropWhile_cons_of_neg (by decide)]
      rfl
    have hEnded : predicate (')' :: ']' :: rest) = some ([], rest) := by
      rw [predicate_cons, hClosed]
    rw [List.nil_append, predicate_cons, hOpened]
    dsimp only
    rw [if_neg hLine, hEnded]
    rfl
  | cons c cs ih =>
    have hLater : ¬ [')', ']'] <:+: cs :=
      fun hInside => hAbsent (List.infix_cons_iff.mpr (.inr hInside))
    have hHere := afterClosing?_of_absent hVisible hOther hAbsent (')' :: ']' :: rest)
    rw [List.cons_append] at hHere ⊢
    rw [predicate_cons, hHere]
    dsimp only
    rw [if_neg (List.ne_of_not_mem_cons hOneLine).symm,
      ih (List.not_mem_of_not_mem_cons hOneLine) hLater]
    rfl

end Predicates

/-- A text without the pieces that the rewriting of filters and the end of a filter are recognized
by. -/
structure Untouched (s : String) : Prop where
  quotes : ∀ c ∈ s.toList, c ≠ '\x22' ∧ c ≠ '\x27' ∧ c ≠ '\x5c' ∧ c ≠ '\n'
  pieces : ∀ piece ∈ ["..", ")]", "===", "!==", "@."], ¬ piece.toList <:+: s.toList
  /-- A constant behind a comparison, where the closing quote counts as what follows the
  constant. -/
  operands : ∀ t, t <:+ s.toList ++ ['\x27'] → operand? t = none

def IsQuote (mark : Char) : Prop := mark = '\x27' ∨ mark = '\x22'

/-- A comparison with a text in quotes, behind the name that is compared. -/
def comparand (mark : Char) (s : String) (rest : List Char) : List Char :=
  ' ' :: '=' :: '=' :: ' ' :: mark :: (s.toList ++ mark :: rest)

section Rewriting

variable {field : PlainName} {mark : Char} {s : String}

/-- None of the pieces stands across the parts of a comparison. -/
theorem not_infix_comparand {piece : String} {front rest : List Char} (hQuote : IsQuote mark)
    (h : Untouched s) (hListed : piece ∈ ["..", ")]", "===", "!==", "@."])
    (hBefore : ¬ piece.toList <:+: front) (hBehind : ¬ piece.toList <:+: rest) :
    ¬ piece.toList <:+: front ++ comparand mark s rest := by
  have hShapes : ∀ piece ∈ ["..", ")]", "===", "!==", "@."], piece.toList ≠ [] ∧
    ' ' ∉ piece.toList ∧
      '\x27' ∉ piece.toList ∧ '\x22' ∉ piece.toList ∧ ¬ piece.toList <:+: ['=', '='] := by decide
  obtain ⟨hSome, hBlank, hSingle, hDouble, hBetween⟩ := hShapes piece hListed
  have hApart : mark ∉ piece.toList := by
    rcases hQuote with rfl | rfl
    · exact hSingle
    · exact hDouble
  intro hFound
  rcases infix_of_separated front hBlank hFound with hFound | hFound
  · exact hBefore hFound
  rcases infix_of_separated ['=', '='] hBlank hFound with hFound | hFound
  · exact hBetween hFound
  rcases infix_of_separated [] hApart hFound with hFound | hFound
  · exact hSome (List.infix_nil.mp hFound)
  rcases infix_of_separated s.toList hApart hFound with hFound | hFound
  · exact h.pieces piece hListed hFound
  · exact hBehind hFound

theorem not_infix_of_mem {piece front : List Char} {c : Char} (hAmong : c ∈ piece)
    (hApart : c ∉ front) :
    ¬ piece <:+: front := fun hFound => hApart (hFound.subset hAmong)

theorem not_mem_name {c : Char} (field : PlainName) (hOther : Query.Token.continuesName c = false) :
    c ∉ field.chars := fun hAmong =>
  PlainPath.ne_of_continuesName (PlainPath.continuesName_of_mem field hAmong) hOther rfl

theorem quote_not_mem (h : Untouched s) {c : Char} (hQuote : IsQuote c) : c ∉ s.toList := by
  intro hAmong
  obtain ⟨hDouble, hSingle, -⟩ := h.quotes c hAmong
  rcases hQuote with rfl | rfl
  · exact hSingle rfl
  · exact hDouble rfl

/-- Whichever the quotes are, they become single ones. -/
theorem requote_comparand (hQuote : IsQuote mark) (h : Untouched s) :
    requote (field.chars ++ comparand mark s []).length (field.chars ++ comparand mark s []) =
      field.chars ++ comparand '\x27' s [] := by
  have hNameless : '\x22' ∉ field.chars := not_mem_name field rfl
  have hTextless : '\x22' ∉ s.toList := quote_not_mem h (.inr rfl)
  rcases hQuote with rfl | rfl
  · refine requote_of_not_mem ?_
    simp [comparand, hNameless, hTextless]
  · have hFront : '\x22' ∉ field.chars ++ [' ', '=', '=', ' '] := by simp [hNameless]
    have hText : field.chars ++ comparand '\x22' s [] =
        (field.chars ++ [' ', '=', '=', ' ']) ++ '\x22' :: (s.toList ++ '\x22' :: []) := by
        simp [comparand]
    have hLength : (field.chars ++ comparand '\x22' s []).length =
        (field.chars ++ [' ', '=', '=', ' ']).length + (s.toList.length + 1 + 1) := by
      rw [hText]
      simp only [List.length_append, List.length_cons, List.length_nil]
    rw [hLength, hText, requote_append hFront, requote_quoted hTextless]
    cases s.toList.length <;> simp [comparand, requote]

theorem suffix_append {t xs ys : List Char} (h : t <:+ xs ++ ys) :
    t <:+ ys ∨ ∃ c ∈ xs, ∃ more, t = c :: more := by
  induction xs with
  | nil => exact .inl h
  | cons x xs ih =>
    rcases List.suffix_cons_iff.mp h with rfl | hLater
    · exact .inr ⟨x, List.mem_cons_self, _, rfl⟩
    · exact (ih hLater).imp_right fun ⟨c, hAmong, more, hShape⟩ =>
        ⟨c, List.mem_cons_of_mem _ hAmong, more, hShape⟩

theorem comparison?_of_continuesName {c : Char} (h : Query.Token.continuesName c = true)
    (more : List Char) :
    comparison? (c :: more) = none := by
  have hApart {d : Char} (hOther : Query.Token.continuesName d = false) : c ≠ d :=
    PlainPath.ne_of_continuesName h hOther
  unfold comparison?
  split <;> first | rfl | (next hShape => exact absurd (List.cons.inj hShape).1 (hApart rfl))

/-- No constant stands behind the comparison itself, as a quote does. -/
theorem operand?_comparand (h : Untouched s) {t : List Char}
    (hBehind : t <:+ field.chars ++ comparand '\x27' s []) : operand? t = none := by
  have hNothing {t : List Char} (h : comparison? t = none) : operand? t = none := by
    rw [operand?, h]
    rfl
  rcases suffix_append hBehind with hBehind | ⟨c, hAmong, more, rfl⟩
  · have hDigitless : isDecimalDigit '\x27' = false := by decide +kernel
    have hQuoted : constant? ('\x27' :: (s.toList ++ ['\x27'])) = none := by
      simp [constant?, number?, named?, hDigitless, List.isPrefixOf]
    rcases List.suffix_cons_iff.mp hBehind with rfl | hBehind
    · exact hNothing rfl
    rcases List.suffix_cons_iff.mp hBehind with rfl | hBehind
    · have hCompared : comparison? ('=' :: '=' :: ' ' :: '\x27' :: (s.toList ++ ['\x27'])) =
          some (['=', '='], ' ' :: '\x27' :: (s.toList ++ ['\x27'])) := rfl
      rw [operand?, hCompared]
      dsimp only [Option.bind_eq_bind, Option.bind_some]
      rw [List.dropWhile_cons_of_pos (by decide), List.dropWhile_cons_of_neg (by decide), hQuoted]
      rfl
    rcases List.suffix_cons_iff.mp hBehind with rfl | hBehind
    · exact hNothing rfl
    rcases List.suffix_cons_iff.mp hBehind with rfl | hBehind
    · exact hNothing rfl
    rcases List.suffix_cons_iff.mp hBehind with rfl | hBehind
    · exact hNothing rfl
    exact h.operands t hBehind
  · exact hNothing (comparison?_of_continuesName (PlainPath.continuesName_of_mem field hAmong) more)

/-- The predicate comes through as it is, but for the sign of the element and the quotes. -/
theorem predicateQuery_comparand (hQuote : IsQuote mark) (h : Untouched s) :
    predicateQuery ('@' :: '.' :: (field.chars ++ comparand mark s [])) =
      field.chars ++ comparand '\x27' s [] := by
  have hThird : ¬ "===".toList <:+: '@' :: '.' :: field.chars ++ comparand mark s [] := by
    refine not_infix_comparand hQuote h (by simp) ?_ (by decide)
    exact not_infix_of_mem (c := '=') (by decide) (by simp [not_mem_name field (c := '=') rfl])
  have hUnequal : ¬ "!==".toList <:+: '@' :: '.' :: field.chars ++ comparand mark s [] := by
    refine not_infix_comparand hQuote h (by simp) ?_ (by decide)
    exact not_infix_of_mem (c := '!') (by decide) (by simp [not_mem_name field (c := '!') rfl])
  have hSigned : ¬ "@.".toList <:+: field.chars ++ comparand mark s [] := by
    refine not_infix_comparand hQuote h (by simp) ?_ (by decide)
    exact not_infix_of_mem (c := '@') (by decide) (not_mem_name field rfl)
  have hRemoved : replace "@." "" ('@' :: '.' :: (field.chars ++ comparand mark s [])) =
      field.chars ++ comparand mark s [] := replaceAll_of_absent hSigned
  have hText : '@' :: '.' :: field.chars ++ comparand mark s [] =
      '@' :: '.' :: (field.chars ++ comparand mark s []) := rfl
  rw [hText] at hThird hUnequal
  unfold predicateQuery
  rw [replace_of_absent hThird, replace_of_absent hUnequal, hRemoved]
  dsimp only
  rw [requote_comparand hQuote h]
  exact markConstants_of_forall fun t hBehind => operand?_comparand h hBehind

/-- A predicate in its brackets, behind the name of what is filtered. -/
def bracketed (field : PlainName) (mark : Char) (s : String) : List Char :=
  '[' :: '?' :: '(' :: '@' :: '.' :: (field.chars ++ comparand mark s [')', ']'])

theorem filter?_bracketed (hQuote : IsQuote mark) (h : Untouched s) :
    filter? (bracketed field mark s) =
      some ('@' :: '.' :: (field.chars ++ comparand mark s []), []) := by
  have hVisible : isBlank mark = false := by rcases hQuote with rfl | rfl <;> decide
  have hOther : mark ≠ ')' ∧ mark ≠ ']' := by rcases hQuote with rfl | rfl <;> decide
  have hLine : mark ≠ '\n' := by rcases hQuote with rfl | rfl <;> decide
  have hShape (rest : List Char) : '@' :: '.' :: (field.chars ++ comparand mark s rest) =
      ('@' :: '.' :: (field.chars ++ ' ' :: '=' :: '=' :: ' ' :: mark :: s.toList)) ++
      mark :: rest := by
    simp [comparand]
  have hOneLine :
      '\n' ∉ '@' :: '.' :: (field.chars ++ ' ' :: '=' :: '=' :: ' ' :: mark :: s.toList) := by
    have hInside : '\n' ∉ s.toList := fun hAmong => (h.quotes _ hAmong).2.2.2 rfl
    simp [not_mem_name field (c := '\n') rfl, hInside, hLine.symm]
  have hUnclosed : ¬ [')', ']'] <:+: '@' :: '.' :: field.chars ++ comparand mark s [] := by
    refine @not_infix_comparand mark s ")]" _ _ hQuote h (by simp) ?_ (by decide)
    exact not_infix_of_mem (c := ')') (by decide) (by simp [not_mem_name field (c := ')') rfl])
  have hBefore : '@' :: '.' :: (field.chars ++ ' ' :: '=' :: '=' :: ' ' :: mark :: s.toList) <:+:
      '@' :: '.' :: field.chars ++ comparand mark s [] := by
    refine (List.prefix_append _ [mark]).isInfix.trans ?_
    rw [← hShape []]
    exact List.infix_rfl
  show predicate (('@' :: '.' :: (field.chars ++ comparand mark s [')', ']'])).dropWhile isBlank) =
    _
  rw [List.dropWhile_cons_of_neg (by decide), hShape, hShape]
  exact predicate_of_absent hVisible hOther hLine hOneLine
    (fun hInside => hUnclosed (hInside.trans hBefore)) []

theorem filterQueries_append {front : List Char} (hAbsent : '[' ∉ front) (steps : Nat)
    (rest : List Char) :
    filterQueries (front.length + steps) (front ++ rest) = front ++ filterQueries steps rest := by
  induction front with
  | nil => simp
  | cons c front ih =>
    have hHere : filter? (c :: (front ++ rest)) = none := by
      unfold filter?
      split
      · next hShape => exact absurd (List.cons.inj hShape).1.symm (List.ne_of_not_mem_cons hAbsent)
      · rfl
    rw [List.length_cons, Nat.add_right_comm, List.cons_append, filterQueries, hHere,
      ih (List.not_mem_of_not_mem_cons hAbsent)]
    rfl

theorem filterQueries_bracketed (list : PlainName) (hQuote : IsQuote mark) (h : Untouched s)
    (steps : Nat) :
    filterQueries (list.chars.length + (steps + 1)) (list.chars ++ bracketed field mark s) =
      list.chars ++ '[' :: '?' :: (field.chars ++ comparand '\x27' s [']']) := by
  have hFound : filter? (bracketed field mark s) = _ := filter?_bracketed hQuote h
  have hNothing : filterQueries steps [] = [] := by cases steps <;> rfl
  rw [filterQueries_append (not_mem_name list rfl), bracketed]
  rw [bracketed] at hFound
  rw [filterQueries, hFound]
  dsimp only
  rw [predicateQuery_comparand hQuote h, hNothing]
  simp [comparand]

def ofField (list field : PlainName) (mark : Char) (s : String) : String :=
  "$." ++ list.text ++ "[?(@." ++ field.text ++ " == " ++ mark.toString ++ s ++ mark.toString ++
    ")]"

theorem toList_ofField (list field : PlainName) (mark : Char) (s : String) :
    (ofField list field mark s).toList = '$' :: '.' :: (list.chars ++ bracketed field mark s) := by
  simp [ofField, bracketed, comparand, PlainName.text]

theorem isRecursive_of_absent {cs : List Char} (hAbsent : ¬ ['.', '.'] <:+: cs) :
    isRecursive cs = false := by
  induction cs with
  | nil => rfl
  | cons c rest ih =>
    rw [isRecursive]
    · exact ih fun hLater => hAbsent (List.infix_cons_iff.mpr (.inr hLater))
    · rintro more rfl rfl
      exact hAbsent ⟨[], more, rfl⟩

theorem not_infix_dotted (name : PlainName) : ¬ ['.', '.'] <:+: '.' :: name.chars := by
  intro hFound
  have hDotless : '.' ∉ name.chars := not_mem_name name rfl
  rcases List.infix_cons_iff.mp hFound with hHere | hLater
  · obtain ⟨more, hShape⟩ := hHere
    exact hDotless ((List.cons.inj hShape).2 ▸ List.mem_cons_self)
  · exact hDotless (hLater.subset List.mem_cons_self)

theorem isRecursive_ofField (list : PlainName) (hQuote : IsQuote mark) (h : Untouched s) :
    isRecursive (ofField list field mark s).toList = false := by
  refine isRecursive_of_absent fun hFound => ?_
  rw [toList_ofField] at hFound
  rcases infix_of_separated ('$' :: '.' :: list.chars) (by decide) hFound with hFound | hFound
  · rcases infix_of_separated (d := '$') [] (by decide) hFound with hFound | hFound
    · exact absurd (List.infix_nil.mp hFound) (by simp)
    · exact not_infix_dotted list hFound
  rcases infix_of_separated (d := '@') ['?', '('] (by decide) hFound with hFound | hFound
  · exact absurd (hFound.subset List.mem_cons_self) (by decide)
  exact @not_infix_comparand mark s ".." _ _ hQuote h (by simp) (not_infix_dotted field)
    (by decide) hFound

theorem ofExpression_ofField (list : PlainName) (hQuote : IsQuote mark) (h : Untouched s) :
    ofExpression (ofField list field mark s) =
      String.ofList (list.chars ++ '[' :: '?' :: (field.chars ++ comparand '\x27' s [']'])) := by
  have hBehind : body (ofField list field mark s) = list.chars ++ bracketed field mark s := by
    simp [body, toList_ofField]
  have hNonempty : (list.chars ++ bracketed field mark s).isEmpty = false := by simp [bracketed]
  have hLength : (list.chars ++ bracketed field mark s).length =
      list.chars.length + (((bracketed field mark s).length - 1) + 1) := by
    simp [bracketed]
  rw [ofExpression, hBehind, hNonempty, hLength, filterQueries_bracketed list hQuote h]
  rfl

end Rewriting

end QueryText

open Query QueryText

section Scanning

variable {s : String}

theorem enclosed_untouched {cs : List Char} (hPlain : ∀ c ∈ cs, c ≠ '\x27' ∧ c ≠ '\x5c')
    (rest : List Char) :
    Token.enclosed '\x27' (cs ++ '\x27' :: rest) = some (cs, rest) := by
  induction cs with
  | nil =>
    rw [List.nil_append, Token.enclosed.eq_def]
    simp
  | cons c cs ih =>
    obtain ⟨hUnquoted, hUnescaped⟩ := hPlain c List.mem_cons_self
    rw [List.cons_append, Token.enclosed.eq_def]
    simp only [if_neg hUnquoted, if_neg hUnescaped,
      ih fun d hAmong => hPlain d (List.mem_cons_of_mem c hAmong)]
    rfl

theorem unescape_untouched {cs : List Char} (hPlain : '\x5c' ∉ cs) :
    Token.unescape '\x27' cs = cs := by
  induction cs with
  | nil => rfl
  | cons c cs ih =>
    have hUnescaped := (List.ne_of_not_mem_cons hPlain).symm
    have hLater := ih (List.not_mem_of_not_mem_cons hPlain)
    cases cs with
    | nil => rfl
    | cons d rest => rw [Token.unescape, if_neg fun hBoth => hUnescaped hBoth.1, hLater]

theorem scan_text (h : Untouched s) (rest : List Char) :
    Token.scan ('\x27' :: (s.toList ++ '\x27' :: rest)) =
      (Token.scan rest).map (.literal (.str s) :: ·) := by
  have hRead :=
    enclosed_untouched (fun c hAmong => ⟨(h.quotes c hAmong).2.1, (h.quotes c hAmong).2.2.1⟩) rest
  have hSame : Token.rawString s.toList = .literal (.str s) := by
    rw [Token.rawString, unescape_untouched fun hAmong => (h.quotes _ hAmong).2.2.1 rfl,
      String.ofList_toList]
  have hShorter : rest.length ≤ (s.toList ++ '\x27' :: rest).length := by
    simp only [List.length_append, List.length_cons]
    omega
  refine PlainPath.scan_of_next? (h := hShorter) rfl ?_
  rw [Token.next?.eq_def]
  simp +decide only [if_false, if_true]
  split
  · next inside more hFound =>
    obtain ⟨rfl, rfl⟩ : s.toList = inside ∧ rest = more := by
      simpa using hRead.symm.trans hFound
    simp [hSame]
  · next hMissing => cases hRead.symm.trans hMissing

theorem scan_ofField (list field : PlainName) (h : Untouched s) :
    Token.scan (list.chars ++ '[' :: '?' :: (field.chars ++ comparand '\x27' s [']'])) =
      some [.identifier list.text, .filter, .identifier field.text, .eq, .literal (.str s),
        .rightBracket, .eof] := by
  have hBlank (rest : List Char) : Token.scan (' ' :: rest) = Token.scan rest := by
    rw [Token.scan, if_pos (by decide)]
  have hFilter (rest : List Char) : Token.scan ('[' :: '?' :: rest) =
    (Token.scan rest).map (.filter :: ·) :=
    PlainPath.scan_of_next? rfl (h := by simp) rfl
  have hEq (rest : List Char) : Token.scan ('=' :: '=' :: rest) =
    (Token.scan rest).map (.eq :: ·) :=
    PlainPath.scan_of_next? rfl (h := by simp) rfl
  have hNothing : Token.scan [] = some [.eof] := by rw [Token.scan]
  rw [PlainPath.scan_name list (ends_cons rfl), hFilter, comparand,
    PlainPath.scan_name field (ends_cons rfl), hBlank, hEq, hBlank, scan_text h,
    PlainPath.scan_rightBracket, hNothing]
  rfl

end Scanning

section Filtering

variable {list field : PlainName} {s : String} {mark : Char} {hydrating : Bool}

def fieldFilter (list field s : String) : Query.Expr :=
  .project (.field list) (.guarded (.compare .eq (.field field) (.literal (.str s))) .identity)

theorem ofTokens?_ofField (list field s : String) :
    ofTokens? [.identifier list, .filter, .identifier field, .eq, .literal (.str s),
        .rightBracket, .eof] =
      some (fieldFilter list field s) := by
  simp [ofTokens?, stepsFor, readExpr, readOperand, readMore, peek, Token.power, readExtension,
    readFilter, readComparison, readBody, projectionStop, fieldFilter]

theorem compiles_ofField (list field : PlainName) (hQuote : IsQuote mark) (h : Untouched s) :
    Compiles (ofField list field mark s) (fieldFilter list.text field.text s) := by
  refine compiles_of_tokens ?_ (isRecursive_ofField list hQuote h) ?_ (ofTokens?_ofField _ _ _)
  · simp [Path.isQuery, toList_ofField]
  · rw [ofExpression_ofField list hQuote h, String.toList_ofList]
    exact scan_ofField list field h

theorem ofText?_ofField (list field : PlainName) (mark : Char) (s : String) :
    Path.ofText? (ofField list field mark s) = none := by
  have hNamed : Path.IsName list.text := by
    refine ⟨by simp [PlainName.text, PlainName.chars], fun c hAmong => ?_⟩
    rw [PlainName.text, String.toList_ofList] at hAmong
    exact PlainPath.isNameChar_of_continuesName (PlainPath.continuesName_of_mem list hAmong)
  have hFirst : Path.segment? ('.' :: (list.chars ++ bracketed field mark s)) =
      some (.key list.text, bracketed field mark s) := by
    have hEnds : Text.Ends Path.isNameChar (bracketed field mark s) := ends_cons (by decide +kernel)
    have hRead := Path.segment?_dot hNamed hEnds
    rwa [PlainName.text, String.toList_ofList] at hRead
  have hSecond : Path.segment? (bracketed field mark s) = none := rfl
  rw [Path.ofText?, toList_ofField]
  show Path.segments? _ = none
  rw [Path.segments?_of_segment? hFirst]
  have hNothing : Path.segments? (bracketed field mark s) = none := by
    rw [Path.segments?, if_neg (by simp [bracketed])]
    split
    · rfl
    · next hFound => cases hSecond.symm.trans hFound
  rw [hNothing]
  rfl

/-- The document is an object whose field is the text. -/
def HasText (field s : String) (v : Json) : Prop := v.field? field = some (.str s)

instance (field s : String) (v : Json) : Decidable (HasText field s v) :=
  inferInstanceAs (Decidable (v.field? field = some (.str s)))

theorem projectItems_fieldFilter (field s : String) (items : List Json) :
    projectItems
    (fun v => eval (.guarded (.compare .eq (.field field) (.literal (.str s))) .identity) v) items =
      .ok (items.filter fun v => HasText field s v) := by
  induction items with
  | nil => rfl
  | cons v rest ih =>
    have hTested : eval (.guarded (.compare .eq (.field field) (.literal (.str s))) .identity) v =
        .ok (.data (if HasText field s v then v else .null)) := by
      have hCompared : equal ((v.field? field).getD .null) (.str s) =
        decide (HasText field s v) := by
        cases hFound : v.field? field with
        | none => simp [HasText, hFound, equal]
        | some w => cases w <;> simp [HasText, hFound, equal, Bool.beq_eq_decide_eq]
      simp only [eval, bind, Except.bind, pure, Except.pure, Value.toJson, compareData, hCompared,
        Value.holds, Query.holds]
      by_cases hKept : HasText field s v <;> simp [hKept]
    rw [projectItems, hTested, ih]
    by_cases hKept : HasText field s v
    · have hObject : v.isNull = false := by
        cases v <;> first | rfl | cases hKept
      simp only [bind, Except.bind, pure, Except.pure, if_pos hKept, Value.toJson, hObject,
        Bool.false_eq_true, if_false, List.filter_cons, decide_eq_true hKept, if_true]
    · simp [bind, Except.bind, pure, Except.pure, hKept, Value.toJson, Json.isNull]

theorem resolve_fieldFilter {expr list field s : String} {document : Json} {items : List Json}
    (hOther : Path.ofText? expr = none) (hCompiles : Compiles expr (fieldFilter list field s))
    (hListed : document.field? list = some (.arr items)) :
    resolve expr document hydrating =
      pure (.value (.arr (items.filter fun v => HasText field s v))) := by
  have hGiven : Query.search (fieldFilter list field s) document =
      .ok (.arr (items.filter fun v => HasText field s v)) := by
    have hRead : eval (.field list) document = .ok (.data (.arr items)) := by
      rw [eval, hListed]; rfl
    have hFiltered := projectItems_fieldFilter field s items
    rw [Query.search, fieldFilter, eval, hRead]
    show Except.map Value.toJson (projectItems _ items >>= fun kept => pure (.data (.arr kept))) = _
    rw [hFiltered]
    rfl
  refine resolve_of_compiles hOther hCompiles hGiven ?_
  cases hydrating with
  | false => rfl
  | true => exact hydrate_of_none (v := .arr _) rfl

/-- A filter keeps the elements that are objects whose field is the text, in their order. -/
theorem resolve_ofField (hQuote : IsQuote mark) (hUntouched : Untouched s) {document : Json}
    {items : List Json} (hListed : document.field? list.text = some (.arr items)) :
    resolve (ofField list field mark s) document hydrating =
      pure (.value (.arr (items.filter fun v => HasText field.text s v))) :=
  resolve_fieldFilter (ofText?_ofField list field mark s)
    (compiles_ofField list field hQuote hUntouched) hListed

def itemsName : PlainName := ⟨'i', ['t', 'e', 'm', 's'], rfl, List.all_eq_true.mp (by decide)⟩

def ruleName : PlainName := ⟨'r', ['u', 'l', 'e'], rfl, List.all_eq_true.mp (by decide)⟩

def ruled (rule : String) : Json :=
  .obj [("items", .arr [.obj [("rule", .str rule)], .obj [("rule", .null)], .str rule])]

/-- Brackets, dots and comparisons of texts come through. -/
theorem atMost_filtered : IsQuote '\x22' ∧ Untouched "qty <= max (a.b) [c]" ∧
    (ruled "qty <= max (a.b) [c]").field? itemsName.text =
      some (.arr [.obj [("rule", .str "qty <= max (a.b) [c]")], .obj [("rule", .null)],
        .str "qty <= max (a.b) [c]"]) ∧
    resolve (ofField itemsName ruleName '\x22' "qty <= max (a.b) [c]")
    (ruled "qty <= max (a.b) [c]") true =
      pure (.value (.arr [.obj [("rule", .str "qty <= max (a.b) [c]")]])) := by
  have hUntouched : Untouched "qty <= max (a.b) [c]" := by
    have hUnquoted : "qty <= max (a.b) [c]".toList.all
        (fun c => c ≠ '\x22' ∧ c ≠ '\x27' ∧ c ≠ '\x5c' ∧ c ≠ '\n') = true := by decide
    refine ⟨fun c hAmong => of_decide_eq_true (List.all_eq_true.mp hUnquoted c hAmong), by
      decide +kernel, fun t hBehind => ?_⟩
    have hEach : ∀ n < 22,
      operand? (("qty <= max (a.b) [c]".toList ++ ['\x27']).drop n) = none := by decide +kernel
    rw [List.suffix_iff_eq_drop.mp hBehind]
    exact hEach _ (Nat.lt_succ_of_le (Nat.sub_le _ _))
  have hListed : (ruled "qty <= max (a.b) [c]").field? itemsName.text = some (.arr _) := rfl
  refine ⟨.inr rfl, hUntouched, hListed, ?_⟩
  rw [resolve_ofField (.inr rfl) hUntouched hListed]
  rfl

/-- A number behind a comparison is taken for a constant inside quotes as well, so a rule that
states a bound is not found. -/
theorem belowFive_not_filtered :
    (∀ c ∈ "qty < 5".toList, c ∉ ['\x22', '\x27', '\x5c', '\x60'] ∧ isControl c = false) ∧
    HasText "rule" "qty < 5" (.obj [("rule", .str "qty < 5")]) ∧
    resolve (ofField itemsName ruleName '\x27' "qty < 5") (ruled "qty < 5") true =
      pure (.value (.arr [])) := by
  have hPlain : "qty < 5".toList.all
      (fun c => c ∉ ['\x22', '\x27', '\x5c', '\x60'] ∧ isControl c = false) = true := by decide
  refine ⟨fun c hAmong => of_decide_eq_true (List.all_eq_true.mp hPlain c hAmong), rfl, ?_⟩
  have hScanned : Token.scan (ofExpression (ofField itemsName ruleName '\x27' "qty < 5")).toList =
      some [.identifier "items", .filter, .identifier "rule", .eq,
        .literal (.str "qty < \x605\x60"), .rightBracket, .eof] := by decide +kernel
  have hCompiles : Compiles (ofField itemsName ruleName '\x27' "qty < 5")
      (fieldFilter "items" "rule" "qty < \x605\x60") :=
    compiles_of_tokens (by decide +kernel) (by decide +kernel) hScanned (ofTokens?_ofField _ _ _)
  rw [resolve_fieldFilter (ofText?_ofField itemsName ruleName '\x27' "qty < 5") hCompiles rfl]
  rfl

end Filtering

end Stepwise
