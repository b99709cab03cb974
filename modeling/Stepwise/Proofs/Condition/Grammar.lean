import Stepwise.Proofs.Condition.Scan
import Stepwise.Proofs.Expression.PathText
import Stepwise.Proofs.Expression.Walk
import Stepwise.Proofs.Json.Numeral

/-!
# The grammar of conditions

The grammar of conditions and what conditions of it mean.
-/

namespace Stepwise

set_option autoImplicit false

namespace Operator

def spellings : Operator → List String
  | .less => ["<"]
  | .greater => [">"]
  | .lessEqual => ["<="]
  | .greaterEqual => [">="]
  | .looseEqual => ["==", "="]
  | .strictEqual => ["==="]
  | .looseUnequal => ["!="]
  | .strictUnequal => ["!=="]

theorem ofText?_of_mem {op : Operator} {token : String} (h : token ∈ op.spellings) :
    ofText? token = some op := by
  cases op
  case looseEqual =>
    rcases List.mem_cons.mp h with rfl | h
    · rfl
    · rw [List.mem_singleton.mp h]
      rfl
  all_goals
    rw [List.mem_singleton.mp h]
    rfl

theorem marks_of_mem {op : Operator} {token : String} (h : token ∈ op.spellings) :
    token.toList ≠ [] ∧ ∀ c ∈ token.toList, isMark c = true := by
  have hAll : op.spellings.all (fun token => token.toList ≠ [] && token.toList.all isMark) =
    true := by
    cases op <;> decide
  simpa using List.all_eq_true.mp hAll token h

end Operator

namespace Condition

structure PathText where
  text : String
  path : Path
  reads : Path.ofText? text = some path

/-- A literal that a value can be compared with. -/
inductive Literal where
  | bool (value : Bool)
  | null
  | number (numeral : Numeral) (value : Number)
      (hInRange : (Number.read numeral.text).map Prod.fst = some value)
  | quoted (quote : Char) (inside : List Char) (hIsQuote : Scan.isQuote quote = true)
      (hAbsent : quote ∉ inside)

namespace Literal

def text : Literal → List Char
  | .bool true => ['t', 'r', 'u', 'e']
  | .bool false => ['f', 'a', 'l', 's', 'e']
  | .null => ['n', 'u', 'l', 'l']
  | .number n _ _ => n.text
  | .quoted q inside _ _ => q :: (inside ++ [q])

def value : Literal → Json
  | .bool b => .bool b
  | .null => .null
  | .number _ n _ => .num n
  | .quoted _ inside _ _ => .str (String.ofList inside)

end Literal

/-- A single condition: a path, or a path compared with a literal. -/
inductive Single where
  | path (p : PathText)
  | comparison (p : PathText) (before : Text.Blanks) (op : Operator) (token : String)
      (hSpelled : token ∈ op.spellings) (after : Text.Blanks) (literal : Literal)

namespace Single

def text : Single → List Char
  | .path p => p.text.toList
  | .comparison p before _ token _ after literal =>
    (p.text.toList ++ before.val) ++ (token.toList ++ (after.val ++ literal.text))

/-- Whether a single condition holds: the value of the path counts as true, or compares so with the
literal. -/
def holds (scope : Json) : Single → EngineProgram Bool
  | .path p => do pure (← resolve p.text scope true).isTruthy
  | .comparison p _ op _ _ _ literal => do
    pure (op.apply (← resolve p.text scope true) (.value literal.value))

end Single

structure Padded where
  before : Text.Blanks
  single : Single
  after : Text.Blanks

def Padded.text (c : Padded) : List Char := c.before.val ++ (c.single.text ++ c.after.val)

/-- Conditions with `&&` between them. -/
def joined : List Char → List Padded → List Char
  | text, [] => text
  | text, c :: rest => text ++ '&' :: '&' :: joined c.text rest

/-- Whether all conditions hold: they are checked from left to right, up to the first that does not
hold or fails. -/
def holdAll (scope : Json) : List Padded → EngineProgram Bool
  | [] => pure true
  | c :: rest => do if ← c.single.holds scope then holdAll scope rest else pure false

theorem isPlain_of_isDigit {c : Char} (h : c.isDigit = true) : isPlain c = true :=
  isPlain_of_class (by decide) h

theorem isPlain_of_isBlank {c : Char} (h : Text.isBlank c = true) : isPlain c = true :=
  isPlain_of_class (by decide) h

theorem passes_blanks (b : Text.Blanks) : Scan.Passes stops {} b.val :=
  .of_isPlain Scan.sound_start fun c hMember => isPlain_of_isBlank (b.property c hMember)

theorem passes_of_isPiece {piece : List Char} (h : Path.IsPiece piece) :
    Scan.Passes stops {} piece := by
  have hInBracket : Scan.Sound { depth := 1, quote := none } := Scan.sound_start
  cases h with
  | name hSome h =>
    refine .of_isPlain Scan.sound_start fun c hMember => ?_
    rcases List.mem_cons.mp hMember with rfl | hMember
    · rfl
    · exact isPlain_of_class (by decide +kernel) (h c hMember)
  | quoted h hAbsent =>
    refine .bracketed rfl rfl rfl (.quoted rfl ?_ hAbsent ?_)
    · rcases h with rfl | rfl <;> rfl
    · rcases h with rfl | rfl <;> rfl
  | position h =>
    exact .bracketed rfl rfl rfl
      (.of_isPlain hInBracket fun c hMember => isPlain_of_isDigit (h c hMember))

namespace PathText

variable (p : PathText)

theorem passes : Scan.Passes stops {} p.text.toList := by
  obtain ⟨pieces, hArePieces, hWhole⟩ := Path.pieces_of_ofText? p.reads
  rw [hWhole]
  refine .cons rfl (fun _ => rfl) ?_
  clear hWhole
  induction pieces with
  | nil => exact .nil
  | cons piece rest ih =>
    exact (passes_of_isPiece (hArePieces piece List.mem_cons_self)).append
      (ih fun other hMember => hArePieces other (List.mem_cons_of_mem _ hMember))

theorem trimmed : Text.Trimmed p.text.toList := by
  obtain ⟨pieces, hArePieces, hWhole⟩ := Path.pieces_of_ofText? p.reads
  rw [hWhole]
  have hDollar : Text.Trimmed ['$'] := .of_all (List.cons_ne_nil _ _) rfl
  exact Path.trimmed_append_pieces hArePieces hDollar

theorem operand_text (scope : Json) : operand p.text scope = resolve p.text scope true :=
  if_pos (Path.isQuery_of_ofText? p.reads)

end PathText

namespace Literal

theorem isQuote_iff {q : Char} : Scan.isQuote q = true ↔ q = '\x27' ∨ q = '\x22' := by
  simp [Scan.isQuote]

theorem passes (l : Literal) : Scan.Passes stops {} l.text := by
  cases l with
  | bool b => cases b <;> exact .of_isPlain Scan.sound_start (List.all_eq_true.mp rfl)
  | null => exact .of_isPlain Scan.sound_start (List.all_eq_true.mp rfl)
  | number n value hInRange =>
    exact .of_isPlain Scan.sound_start fun c hMember =>
      isPlain_of_class (by decide) (Numeral.isChar_of_mem_text hMember)
  | quoted q inside hIsQuote hAbsent =>
    refine .quoted rfl hIsQuote hAbsent ?_
    rcases isQuote_iff.mp hIsQuote with rfl | rfl <;> rfl

theorem trimmed (l : Literal) : Text.Trimmed l.text := by
  cases l with
  | bool b => cases b <;> exact .of_all (List.cons_ne_nil _ _) rfl
  | null => exact .of_all (List.cons_ne_nil _ _) rfl
  | number n value hInRange =>
    exact .of_forall n.text_ne_nil fun c hMember =>
      Text.not_isBlank_of_class (by decide) (Numeral.isChar_of_mem_text hMember)
  | quoted q inside hIsQuote hAbsent =>
    have hNoBlank : Text.isBlank q = false := by
      rcases isQuote_iff.mp hIsQuote with rfl | rfl <;> rfl
    exact .enclosed inside hNoBlank hNoBlank

theorem ends_isMark_text (l : Literal) : Text.Ends Operator.isMark l.text := by
  obtain ⟨c, rest, hBegins⟩ := List.exists_cons_of_ne_nil l.trimmed.nonempty
  have hGoes := l.passes.avoids
  rw [hBegins] at hGoes ⊢
  exact Text.ends_cons (Bool.or_eq_false_iff.mp (hGoes.1 rfl)).2

theorem literal_of_first {c : Char} (h : c ≠ 't' ∧ c ≠ 'f' ∧ c ≠ 'n' ∧ c ≠ 'u') {rest : List Char}
    {r : Resolved} (hQuoted : ∀ inside, unquoted? (c :: rest) = some inside →
      r = .value (.str (String.ofList inside)))
    (hNumber : unquoted? (c :: rest) = none → ∃ n,
      Json.parse (String.ofList (c :: rest)) = some (.num n) ∧ r = .value (.num n)) :
    literal (String.ofList (c :: rest)) = r := by
  have hDiffers (word : String) (hFirst : ∀ d ∈ word.toList.head?, c ≠ d) :
      String.ofList (c :: rest) ≠ word := by
    rintro rfl
    exact hFirst c (by simp) rfl
  unfold literal
  split
  case h_5 =>
    rw [String.toList_ofList]
    cases hUnquoted : unquoted? (c :: rest) with
    | some inside => exact (hQuoted inside hUnquoted).symm
    | none =>
      obtain ⟨n, hParsed, rfl⟩ := hNumber hUnquoted
      rw [hParsed]
  all_goals
    rename_i hSame
    exact absurd hSame (hDiffers _ (by simp [h]))

theorem literal_text (l : Literal) : literal (String.ofList l.text) = .value l.value := by
  cases l with
  | bool b => cases b <;> rfl
  | null => rfl
  | number n value hInRange =>
    obtain ⟨p, hRead, rfl⟩ := Option.map_eq_some_iff.mp hInRange
    have hParsed : Json.parse (String.ofList n.text) = some (.num p.1) := by
      rw [n.parse_text, hRead]
      rfl
    obtain ⟨c, rest, hBegins⟩ := List.exists_cons_of_ne_nil n.text_ne_nil
    have hFirst := n.begins c (by rw [hBegins]; rfl)
    have hUnquoted : unquoted? (c :: rest) = none := by
      simp [unquoted?, Numeral.ne_of_begins (d := '\x27') hFirst (by decide) rfl,
        Numeral.ne_of_begins (d := '\x22') hFirst (by decide) rfl]
    have hOther : c ≠ 't' ∧ c ≠ 'f' ∧ c ≠ 'n' ∧ c ≠ 'u' :=
      ⟨Numeral.ne_of_begins hFirst (by decide) rfl, Numeral.ne_of_begins hFirst (by decide) rfl,
        Numeral.ne_of_begins hFirst (by decide) rfl, Numeral.ne_of_begins hFirst (by decide) rfl⟩
    rw [hBegins] at hParsed
    rw [text, hBegins]
    refine literal_of_first hOther (fun inside hFound => ?_) fun _ => ⟨p.1, hParsed, rfl⟩
    cases hUnquoted.symm.trans hFound
  | quoted q inside hIsQuote hAbsent =>
    have hQuotes := isQuote_iff.mp hIsQuote
    have hUnquoted : unquoted? (q :: (inside ++ [q])) = some inside := by simp [unquoted?, hQuotes]
    have hOther : q ≠ 't' ∧ q ≠ 'f' ∧ q ≠ 'n' ∧ q ≠ 'u' := by
      rcases hQuotes with rfl | rfl <;> decide
    refine literal_of_first hOther (fun found h => ?_) fun hMissing => ?_
    · cases hUnquoted.symm.trans h
      rfl
    · cases hUnquoted.symm.trans hMissing

end Literal

namespace Single

theorem passes (c : Single) : Scan.Passes (· = '&') {} c.text := by
  cases c with
  | path p => exact p.passes.ampersands
  | comparison p before op token hSpelled after l =>
    obtain ⟨-, hAreMarks⟩ := Operator.marks_of_mem hSpelled
    have hLeft := p.passes.append (passes_blanks before)
    have hRight := (passes_blanks after).append l.passes
    exact hLeft.ampersands.append ((Scan.Passes.of_isMark hAreMarks).append hRight.ampersands)

theorem trimmed (c : Single) : Text.Trimmed c.text := by
  cases c with
  | path p => exact p.trimmed
  | comparison p before op token hSpelled after l =>
    have hAround := p.trimmed.around (before.val ++ (token.toList ++ after.val)) l.trimmed
    simpa [text] using hAround

theorem single_text (c : Single) (scope : Json) : single c.text scope = c.holds scope := by
  cases c with
  | path p =>
    rw [single, text, comparison?_of_passes_all p.passes.marks]
    simp only [String.ofList_toList, p.operand_text]
    rfl
  | comparison p before op token hSpelled after l =>
    obtain ⟨hSome, hAreMarks⟩ := Operator.marks_of_mem hSpelled
    have hLeft := p.passes.append (passes_blanks before)
    have hRight : Text.Ends Operator.isMark (after.val ++ l.text) :=
      (Text.ends_of_forall fun c hMember =>
        isMark_of_isPlain (isPlain_of_isBlank (after.property c hMember))).append l.ends_isMark_text
    have hNothing : ∀ c ∈ ([] : List Char), Text.isBlank c = true := by simp
    have hTrimmedLeft : Text.trim (p.text.toList ++ before.val) = p.text.toList :=
      p.trimmed.trim_padded hNothing before.property
    have hTrimmedRight : Text.trim (after.val ++ l.text) = l.text := by
      have hTrimmed := l.trimmed.trim_padded after.property hNothing
      rwa [List.append_nil] at hTrimmed
    rw [single, text, comparison?_of_passes hLeft.marks hSome hAreMarks hRight]
    simp only [String.ofList_toList, Operator.ofText?_of_mem hSpelled, hTrimmedLeft, hTrimmedRight,
      p.operand_text, l.literal_text]
    rfl

end Single

namespace Padded

theorem passes (c : Padded) : Scan.Passes (· = '&') {} c.text :=
  (passes_blanks c.before).ampersands.append
  (c.single.passes.append (passes_blanks c.after).ampersands)

theorem trim_text (c : Padded) : Text.trim c.text = c.single.text :=
  c.single.trimmed.trim_padded c.before.property c.after.property

end Padded

theorem conjuncts_joined (first : Padded) (rest : List Padded) :
    conjuncts {} (joined first.text rest) = (first :: rest).map Padded.text := by
  induction rest generalizing first with
  | nil => exact conjuncts_of_passes_all first.passes
  | cons next rest ih =>
    rw [joined, conjuncts_of_passes first.passes, ih next]
    rfl

theorem all_texts (scope : Json) (conditions : List Padded) :
    all scope (conditions.map Padded.text) = holdAll scope conditions := by
  induction conditions with
  | nil => rfl
  | cons c rest ih =>
    rw [List.map_cons, all, c.trim_text, c.single.single_text, ih]
    rfl

/-- A condition of the grammar is checked for what it means. -/
theorem check_joined (first : Padded) (rest : List Padded) (scope : Json) :
    check (String.ofList (joined first.text rest)) scope = holdAll scope (first :: rest) := by
  have hSome : ((first :: rest).map Padded.text).all (fun cs => (Text.trim cs).isEmpty) =
    false := by
    simp [first.trim_text, first.single.trimmed.nonempty]
  rw [check, String.toList_ofList, conjuncts_joined]
  simp only [hSome, Bool.false_eq_true, if_false]
  exact all_texts scope (first :: rest)

example :
    let blank : Text.Blanks := ⟨[' '], List.all_eq_true.mp rfl⟩
    let bare : Text.Blanks := ⟨[], List.all_eq_true.mp rfl⟩
    let paid : PathText := ⟨"$.paid", [.key "paid"], by decide +kernel⟩
    let lines : PathText := ⟨"$['a&&b'][0]", [.key "a&&b", .index 0], by decide +kernel⟩
    let text : Literal := .quoted '\x22' ['x', '<', '\x27', '&', '&'] rfl (by decide)
    String.ofList (joined (Padded.mk bare (.path paid) blank).text
      [⟨blank, .comparison lines bare .strictUnequal "!==" (by decide) blank text, bare⟩]) =
      "$.paid && $['a&&b'][0]!== \"x<'&&\"" := by decide +kernel

end Condition

end Stepwise
