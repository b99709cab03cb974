import Stepwise.Proofs.Expression.PathText
import Stepwise.Expression.QueryText
import Stepwise.Proofs.Json.Numeral
import Stepwise.Query.Token

/-!
# Paths that are queries

The texts of paths that the query language knows as well: names of letters, digits and underscores
behind dots, and positions in brackets. Such a text reads as the path of its segments, the query
that it stands for is the text without its sign and first dot, and the tokens of the query are those
of the segments.
-/

namespace Stepwise

set_option autoImplicit false

open Query

/-- A name that begins with a letter or an underscore and goes on with letters, digits and
underscores. -/
structure PlainName where
  first : Char
  rest : List Char
  starts : Token.startsName first = true
  continues : ∀ c ∈ rest, Token.continuesName c = true

namespace PlainName

def chars (n : PlainName) : List Char := n.first :: n.rest

def text (n : PlainName) : String := String.ofList n.chars

end PlainName

/-- A segment of a path that both readers know. -/
inductive PlainSegment where
  | name (name : PlainName)
  | position (digits : Digits) (hNonempty : digits.val ≠ [])
    (hSmall : Text.natOfDigits digits.val < 0x80000000)

namespace PlainSegment

def chars : PlainSegment → List Char
  | .name n => '.' :: n.chars
  | .position digits _ _ => '[' :: (digits.val ++ [']'])

def segment : PlainSegment → Segment
  | .name n => .key n.text
  | .position digits _ _ => .index (Text.natOfDigits digits.val)

def tokens : PlainSegment → List Token
  | .name n => [.dot, .identifier n.text]
  | .position digits _ _ => [.leftBracket, .number (Text.natOfDigits digits.val), .rightBracket]

def isPosition : PlainSegment → Bool
  | .name _ => false
  | .position _ _ _ => true

end PlainSegment

namespace PlainPath

open PlainSegment

def chars (path : List PlainSegment) : List Char := path.flatMap PlainSegment.chars

def tokens (path : List PlainSegment) : List Token := path.flatMap PlainSegment.tokens

@[simp] theorem chars_cons (s : PlainSegment) (rest : List PlainSegment) :
    chars (s :: rest) = s.chars ++ chars rest := List.flatMap_cons

@[simp] theorem tokens_cons (s : PlainSegment) (rest : List PlainSegment) :
    tokens (s :: rest) = s.tokens ++ tokens rest := List.flatMap_cons

theorem tokens_append (path more : List PlainSegment) :
    tokens (path ++ more) = tokens path ++ tokens more := List.flatMap_append

def text (path : List PlainSegment) : String := String.ofList ('$' :: chars path)

section Characters

theorem toNat_lt_of_isAlphanum {c : Char} (h : c.isAlphanum = true) : c.toNat < 128 := by
  have hRanges := Text.ranges_of_isAlphanum h
  omega

theorem isNameChar_of_continuesName {c : Char} (h : Token.continuesName c = true) :
    Path.isNameChar c = true := by
  simp only [Token.continuesName, Bool.or_eq_true, decide_eq_true_eq] at h
  rcases h with hLetter | rfl
  · have hAlphanumeric : Text.isAlphanumeric c = true := by
      rw [Text.isAlphanumeric, if_pos (toNat_lt_of_isAlphanum hLetter), hLetter]
    simp [Path.isNameChar, hAlphanumeric]
  · decide +kernel

theorem continuesName_of_startsName {c : Char} (h : Token.startsName c = true) :
    Token.continuesName c = true := by
  simp only [Token.startsName, Token.continuesName, Char.isAlphanum, Bool.or_eq_true] at h ⊢
  exact h.imp .inl id

theorem startsName_of_isDigit {c : Char} (h : c.isDigit = true) : Token.startsName c = false := by
  rw [Bool.eq_false_iff]
  intro hStarts
  unfold Token.startsName Char.isAlpha Char.isUpper Char.isLower at hStarts
  unfold Char.isDigit at h
  simp only [Bool.or_eq_true, Bool.and_eq_true, decide_eq_true_eq, UInt32.le_iff_toNat_le,
    ge_iff_le]
    at hStarts h
  change 48 ≤ c.toNat ∧ c.toNat ≤ 57 at h
  rcases hStarts with hLetter | rfl
  · change (65 ≤ c.toNat ∧ c.toNat ≤ 90) ∨ (97 ≤ c.toNat ∧ c.toNat ≤ 122) at hLetter
    omega
  · exact absurd h.2 (by decide)

theorem ne_of_continuesName {c d : Char} (h : Token.continuesName c = true)
    (hApart : Token.continuesName d = false) : c ≠ d := by
  rintro rfl
  cases h.symm.trans hApart

theorem continuesName_of_mem (n : PlainName) {c : Char} (hMember : c ∈ n.chars) :
    Token.continuesName c = true := by
  rcases List.mem_cons.mp hMember with rfl | hMember
  · exact continuesName_of_startsName n.starts
  · exact n.continues c hMember

theorem ends_continuesName (path : List PlainSegment) :
    Text.Ends Token.continuesName (chars path) := by
  cases path with
  | nil => exact Text.ends_nil
  | cons s rest =>
    cases s with
    | name n => exact Text.ends_cons rfl
    | position digits hNonempty hSmall => exact Text.ends_cons rfl

theorem ends_isNameChar (path : List PlainSegment) : Text.Ends Path.isNameChar (chars path) := by
  cases path with
  | nil => exact Text.ends_nil
  | cons s rest =>
    cases s with
    | name n => exact Text.ends_cons (by decide +kernel)
    | position digits hNonempty hSmall => exact Text.ends_cons (by decide +kernel)

end Characters

section Reading

theorem segment?_chars (s : PlainSegment) (path : List PlainSegment) :
    Path.segment? (s.chars ++ chars path) = some (s.segment, chars path) := by
  cases s with
  | name n =>
    have hInside : ∀ c ∈ n.chars, Path.isNameChar c = true :=
      fun c hMember => isNameChar_of_continuesName (continuesName_of_mem n hMember)
    have hEnds := ends_isNameChar path
    simp only [PlainSegment.chars, PlainSegment.segment, List.cons_append, Path.segment?,
      Text.takeWhile_run hInside hEnds, Text.dropWhile_run hInside hEnds]
    rfl
  | position digits hNonempty hSmall =>
    have hEnds : Text.Ends Char.isDigit (']' :: chars path) := Text.ends_cons rfl
    obtain ⟨d, more, hShape⟩ := List.exists_cons_of_ne_nil hNonempty
    have hDigit : d.isDigit = true := digits.property d (by simp [hShape])
    have hSingle : d ≠ '\x27' := by rintro rfl; cases hDigit
    have hDouble : d ≠ '\x22' := by rintro rfl; cases hDigit
    have hAllowed : ¬ Path.maxPosition < Text.natOfDigits digits.val :=
      Nat.not_lt.mpr (Nat.le_trans (Nat.le_of_lt hSmall) (by decide))
    have hRun : digits.val ++ ']' :: chars path = d :: (more ++ ']' :: chars path) := by
      rw [hShape]; rfl
    have hText : (PlainSegment.position digits hNonempty hSmall).chars ++ chars path =
        '[' :: (digits.val ++ ']' :: chars path) := by simp [PlainSegment.chars]
    rw [hText, hRun, Path.segment?, ← hRun, Text.takeWhile_run digits.property hEnds,
      Text.dropWhile_run digits.property hEnds]
    · simp [hAllowed, hNonempty, PlainSegment.segment]
    · exact fun _ h => hSingle (List.cons.inj h).1
    · exact fun _ h => hDouble (List.cons.inj h).1

theorem segments?_chars (path : List PlainSegment) :
    Path.segments? (chars path) = some (path.map PlainSegment.segment) := by
  induction path with
  | nil => exact Path.segments?_nil
  | cons s rest ih =>
    rw [chars_cons, Path.segments?_of_segment? (segment?_chars s rest), ih]
    rfl

theorem ofText?_text (path : List PlainSegment) :
    Path.ofText? (text path) = some (path.map PlainSegment.segment) := by
  rw [Path.ofText?, text, String.toList_ofList]
  exact segments?_chars path

end Reading

section Scanning

theorem scan_of_next? {c : Char} {rest more : List Char} {t : Token} {h : more.length ≤ rest.length}
    (hVisible : Json.isBlank c = false) (hRead : Token.next? c rest = some (t, ⟨more, h⟩)) :
    Token.scan (c :: rest) = (Token.scan more).map (t :: ·) := by
  rw [Token.scan, if_neg (by simp [hVisible]), hRead]

theorem isBlank_of_continuesName {c : Char} (h : Token.continuesName c = true) :
    Json.isBlank c = false := by
  simp only [Json.isBlank, Bool.or_eq_false_iff, decide_eq_false_iff_not]
  refine ⟨⟨⟨?_, ?_⟩, ?_⟩, ?_⟩ <;> exact ne_of_continuesName h rfl

theorem scan_name (n : PlainName) {rest : List Char} (hEnds : Text.Ends Token.continuesName rest) :
    Token.scan (n.chars ++ rest) = (Token.scan rest).map (.identifier n.text :: ·) := by
  show Token.scan (n.first :: (n.rest ++ rest)) = _
  have hShorter : rest.length ≤ (n.rest ++ rest).length := by simp
  refine scan_of_next? (h := hShorter)
    (isBlank_of_continuesName (continuesName_of_startsName n.starts)) ?_
  simp only [Token.next?.eq_def, n.starts, if_true, Text.takeWhile_run n.continues hEnds,
    Text.dropWhile_run n.continues hEnds]
  rfl

theorem scan_dot {c : Char} {rest : List Char} :
    Token.scan ('.' :: c :: rest) = (Token.scan (c :: rest)).map (.dot :: ·) :=
  scan_of_next? rfl (h := Nat.le_refl _) rfl

theorem scan_rightBracket (rest : List Char) :
    Token.scan (']' :: rest) = (Token.scan rest).map (.rightBracket :: ·) := by
  cases rest with
  | nil => exact scan_of_next? rfl (h := Nat.le_refl _) rfl
  | cons c rest => exact scan_of_next? rfl (h := Nat.le_refl _) rfl

theorem doubleMark?_leftBracket {c : Char} (h : c.isDigit = true) :
    Token.doubleMark? '[' c = none := by
  unfold Token.doubleMark?
  split <;> simp_all

theorem scan_leftBracket {c : Char} (h : c.isDigit = true) (rest : List Char) :
    Token.scan ('[' :: c :: rest) = (Token.scan (c :: rest)).map (.leftBracket :: ·) := by
  refine scan_of_next? rfl (h := Nat.le_refl _) ?_
  simp only [Token.next?.eq_def, doubleMark?_leftBracket h]
  rfl

theorem scan_digits {digits : Digits} (hNonempty : digits.val ≠ []) {rest : List Char}
    (hEnds : Text.Ends Char.isDigit rest) : Token.scan (digits.val ++ rest) =
      (Token.scan rest).map (.number (Text.natOfDigits digits.val) :: ·) := by
  obtain ⟨d, more, hShape⟩ := List.exists_cons_of_ne_nil hNonempty
  have hDigit : d.isDigit = true := digits.property d (by simp [hShape])
  have hLetter : Token.startsName d = false := startsName_of_isDigit hDigit
  have hLater : ∀ c ∈ more, c.isDigit = true :=
    fun c hMember => digits.property c (by simp [hShape, hMember])
  have hShorter : rest.length ≤ (more ++ rest).length := by simp
  rw [hShape]
  show Token.scan (d :: (more ++ rest)) = _
  refine scan_of_next? (h := hShorter) (isBlank_of_continuesName ?_) ?_
  · simp [Token.continuesName, Char.isAlphanum, hDigit]
  · simp only [Token.next?.eq_def, hLetter, hDigit, Bool.false_eq_true, if_false, if_true,
      Text.takeWhile_run hLater hEnds, Text.dropWhile_run hLater hEnds]

theorem scan_position {digits : Digits} (hNonempty : digits.val ≠ []) (rest : List Char) :
    Token.scan ('[' :: (digits.val ++ ']' :: rest)) =
      (Token.scan rest).map fun ts =>
        .leftBracket :: .number (Text.natOfDigits digits.val) :: .rightBracket :: ts := by
  obtain ⟨d, more, hShape⟩ := List.exists_cons_of_ne_nil hNonempty
  have hDigit : d.isDigit = true := digits.property d (by simp [hShape])
  have hEnds : Text.Ends Char.isDigit (']' :: rest) := Text.ends_cons rfl
  have hNumbered := scan_digits hNonempty hEnds
  rw [hShape, List.cons_append] at hNumbered ⊢
  rw [scan_leftBracket hDigit, hNumbered, scan_rightBracket, Option.map_map, Option.map_map]
  rfl

theorem scan_segment (s : PlainSegment) (path : List PlainSegment) :
    Token.scan (s.chars ++ chars path) = (Token.scan (chars path)).map (s.tokens ++ ·) := by
  cases s with
  | name n =>
    have hDotted : PlainSegment.chars (.name n) ++ chars path =
      '.' :: n.first :: (n.rest ++ chars path) := rfl
    rw [hDotted, scan_dot]
    have hNamed := scan_name n (ends_continuesName path)
    rw [PlainName.chars, List.cons_append] at hNamed
    rw [hNamed, Option.map_map]
    rfl
  | position digits hNonempty hSmall =>
    rw [show PlainSegment.chars (.position digits hNonempty hSmall) ++ chars path =
      '[' :: (digits.val ++ ']' :: chars path) by simp [PlainSegment.chars],
        scan_position hNonempty]
    rfl

theorem scan_chars (path : List PlainSegment) :
    Token.scan (chars path) = some (tokens path ++ [.eof]) := by
  induction path with
  | nil => rw [chars, List.flatMap_nil, Token.scan]; rfl
  | cons s rest ih => rw [chars_cons, scan_segment, ih, tokens_cons, List.append_assoc]; rfl

end Scanning

section Translation

theorem isRecursive_append (cs : List Char) (hDotless : '.' ∉ cs) (rest : List Char) :
    QueryText.isRecursive (cs ++ rest) = QueryText.isRecursive rest := by
  induction cs with
  | nil => rfl
  | cons c cs ih =>
    have hOther : '.' ≠ c := fun hSame => hDotless (hSame ▸ List.mem_cons_self)
    rw [List.cons_append, QueryText.isRecursive,
      ih fun hMember => hDotless (List.mem_cons_of_mem _ hMember)]
    intro _ hSame
    exact absurd hSame.symm hOther

theorem dot_not_mem (n : PlainName) : '.' ∉ n.chars := fun hMember =>
  ne_of_continuesName (continuesName_of_mem n hMember) rfl rfl

theorem isRecursive_chars (path : List PlainSegment) :
    QueryText.isRecursive (chars path) = false := by
  induction path with
  | nil => rfl
  | cons s rest ih =>
    rw [chars_cons]
    cases s with
    | name n =>
      have hFirst : n.first ≠ '.' := fun hSame => dot_not_mem n (hSame ▸ List.mem_cons_self)
      show QueryText.isRecursive ('.' :: (n.chars ++ chars rest)) = false
      rw [QueryText.isRecursive, isRecursive_append _ (dot_not_mem n), ih]
      intro more _ hShape
      exact hFirst (List.cons.inj hShape).1
    | position digits hNonempty hSmall =>
      have hDotless : '.' ∉ (PlainSegment.position digits hNonempty hSmall).chars := by
        simp only [PlainSegment.chars, List.mem_cons, List.mem_append, List.not_mem_nil, or_false]
        rintro (hBracket | hDigit | hBracket)
        · cases hBracket
        · cases digits.property _ hDigit
        · cases hBracket
      rw [isRecursive_append _ hDotless, ih]

theorem isRecursive_text (path : List PlainSegment) :
    QueryText.isRecursive (text path).toList = false := by
  rw [text, String.toList_ofList]
  exact (isRecursive_append ['$'] (by decide) _).trans (isRecursive_chars path)

theorem mark_not_mem (path : List PlainSegment) : '?' ∉ chars path := by
  simp only [chars, List.mem_flatMap, not_exists, not_and]
  intro s _
  cases s with
  | name n =>
    simp only [PlainSegment.chars, List.mem_cons, not_or]
    exact ⟨by decide, fun hMember => ne_of_continuesName (continuesName_of_mem n hMember) rfl rfl⟩
  | position digits hNonempty hSmall =>
    simp only [PlainSegment.chars, List.mem_cons, List.mem_append, List.not_mem_nil, or_false,
      not_or]
    refine ⟨by decide, fun hDigit => ?_, by decide⟩
    cases digits.property _ hDigit

theorem filter?_of_not_mem {cs : List Char} (h : '?' ∉ cs) : QueryText.filter? cs = none := by
  unfold QueryText.filter?
  split
  · simp at h
  · rfl

/-- A text without question marks has no filters to rewrite. -/
theorem filterQueries_of_not_mem {cs : List Char} (h : '?' ∉ cs) (steps : Nat) :
    QueryText.filterQueries steps cs = cs := by
  induction steps generalizing cs with
  | zero => rfl
  | succ steps ih =>
    cases cs with
    | nil => rfl
    | cons c rest =>
      rw [QueryText.filterQueries, filter?_of_not_mem h]
      exact congrArg (c :: ·) (ih fun hMember => h (List.mem_cons_of_mem _ hMember))

/-- A path in the query language: there the dot before the first name is left out. -/
def queryChars : List PlainSegment → List Char
  | [] => ['@']
  | .name n :: rest => n.chars ++ chars rest
  | .position digits hNonempty hSmall :: rest => chars (.position digits hNonempty hSmall :: rest)

def queryTokens : List PlainSegment → List Token
  | [] => [.at]
  | .name n :: rest => .identifier n.text :: tokens rest
  | .position digits hNonempty hSmall :: rest => tokens (.position digits hNonempty hSmall :: rest)

theorem ofExpression_of_body {expr : String} {cs : List Char} (hBehind : QueryText.body expr = cs)
    (hNonempty : cs ≠ []) (h : '?' ∉ cs) : QueryText.ofExpression expr = String.ofList cs := by
  simp only [QueryText.ofExpression, hBehind, filterQueries_of_not_mem h]
  exact if_neg fun hNothing => hNonempty (List.isEmpty_iff.mp hNothing)

theorem ofExpression_text (path : List PlainSegment) :
    QueryText.ofExpression (text path) = String.ofList (queryChars path) := by
  have hMarks := mark_not_mem path
  have hSign : (text path).toList = '$' :: chars path := String.toList_ofList
  cases path with
  | nil => simp [QueryText.ofExpression, QueryText.body, hSign, chars, queryChars]
  | cons s rest =>
    cases s with
    | name n =>
      refine ofExpression_of_body ?_ (List.cons_ne_nil _ _) ?_
      · simp [QueryText.body, hSign, PlainSegment.chars, queryChars]
      · rw [chars_cons] at hMarks
        exact fun hMember => hMarks (List.mem_cons_of_mem _ hMember)
    | position digits hNonempty hSmall =>
      refine ofExpression_of_body ?_ (List.cons_ne_nil _ _) hMarks
      simp [QueryText.body, hSign, PlainSegment.chars, queryChars]

theorem scan_queryChars (path : List PlainSegment) :
    Token.scan (queryChars path) = some (queryTokens path ++ [.eof]) := by
  cases path with
  | nil =>
    have hOnly : Token.next? '@' [] = some (.at, ⟨[], Nat.le_refl _⟩) := rfl
    rw [queryChars, scan_of_next? rfl hOnly, Token.scan]
    rfl
  | cons s rest =>
    cases s with
    | name n => rw [queryChars, scan_name n (ends_continuesName rest), scan_chars]; rfl
    | position digits hNonempty hSmall => exact scan_chars _

end Translation

end PlainPath

end Stepwise
