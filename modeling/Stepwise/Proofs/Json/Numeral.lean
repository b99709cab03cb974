import Stepwise.Json.Parser
import Stepwise.Proofs.Text.Runs

/-!
# The grammar of numbers

The texts of JSON numbers, by their grammar. Reading one takes the whole text, or refuses the number
as too large for a double.
-/

namespace Stepwise

set_option autoImplicit false

abbrev Digits := {cs : List Char // ∀ c ∈ cs, c.isDigit = true}

structure Exponent where
  capital : Bool
  sign : Option Bool
  digits : Digits
  nonempty : digits.val ≠ []

/-- A JSON number: no leading zeros, and a fraction only with digits. -/
structure Numeral where
  negative : Bool
  whole : Digits
  fraction : Digits
  exponent : Option Exponent
  nonempty : whole.val ≠ []
  leading : whole.val.head? = .some '0' → whole.val = ['0']

namespace Exponent

def signText : Option Bool → List Char
  | none => []
  | .some true => ['-']
  | .some false => ['+']

def text (x : Exponent) : List Char :=
  (if x.capital then 'E' else 'e') :: (signText x.sign ++ x.digits.val)

end Exponent

namespace Numeral

def exponentText : Option Exponent → List Char
  | none => []
  | .some x => x.text

def fractionText (digits : List Char) : List Char := if digits = [] then [] else '.' :: digits

def tail (n : Numeral) : List Char := fractionText n.fraction.val ++ exponentText n.exponent

def text (n : Numeral) : List Char := (if n.negative then ['-'] else []) ++ (n.whole.val ++ n.tail)

theorem ends_exponentText (x : Option Exponent) : Text.Ends Char.isDigit (exponentText x) := by
  cases x with
  | none => exact Text.ends_nil
  | some x =>
    refine Text.ends_cons ?_
    split <;> rfl

theorem ends_tail (n : Numeral) : Text.Ends Char.isDigit n.tail := by
  unfold tail fractionText
  split
  · exact ends_exponentText n.exponent
  · exact Text.ends_cons rfl

theorem readWhole_rest {digits cs : List Char} (h : ∀ c ∈ digits, c.isDigit = true)
    (hEnds : Text.Ends Char.isDigit cs) (n : Nat) :
    (Number.readWhole n (digits ++ cs)).2.2 = cs := by
  induction digits generalizing n with
  | nil =>
    cases cs with
    | nil => rfl
    | cons c rest => simp [Number.readWhole, hEnds c rfl]
  | cons d rest ih =>
    have hLater : ∀ c ∈ rest, c.isDigit = true :=
      fun c hMember => h c (List.mem_cons_of_mem _ hMember)
    rw [List.cons_append, Number.readWhole, if_pos (h d List.mem_cons_self)]
    split
    · exact ih hLater _
    · exact Text.dropWhile_run h hEnds

theorem readFraction_rest {digits cs : List Char} (h : ∀ c ∈ digits, c.isDigit = true)
    (hEnds : Text.Ends Char.isDigit cs) (n taken : Nat) :
    (Number.readFraction n taken (digits ++ cs)).2.2 = cs := by
  induction digits generalizing n taken with
  | nil =>
    cases cs with
    | nil => rfl
    | cons c rest => simp [Number.readFraction, hEnds c rfl]
  | cons d rest ih =>
    have hLater : ∀ c ∈ rest, c.isDigit = true :=
      fun c hMember => h c (List.mem_cons_of_mem _ hMember)
    rw [List.cons_append, Number.readFraction, if_pos (h d List.mem_cons_self)]
    split
    · exact ih hLater _ _
    · exact Text.dropWhile_run h hEnds

/-- A number was read that takes the whole text, or none. -/
def TakesAll (read : Option (Number × List Char)) : Prop := ∀ p ∈ read, p.2 = []

theorem takesAll_none : TakesAll none := by simp [TakesAll]

theorem takesAll_some (x : Number) : TakesAll (.some (x, [])) := by
  rintro p ⟨⟩
  rfl

theorem takesAll_map {α : Type} (x : Option α) (f : α → Number) :
    TakesAll (x.map fun a => (f a, [])) := by
  intro p hMember
  obtain ⟨a, -, rfl⟩ := Option.map_eq_some_iff.mp hMember
  rfl

theorem readExponent_takesAll (negative : Bool) (n : Nat) (e : Int) (x : Option Exponent) :
    TakesAll (Number.readExponent negative n e (exponentText x)) := by
  cases x with
  | none => exact takesAll_map _ _
  | some x =>
    obtain ⟨capital, sign, ⟨digits, hAreDigits⟩, hSome⟩ := x
    obtain ⟨d, ds, rfl⟩ := List.exists_cons_of_ne_nil hSome
    have hDigit := hAreDigits d List.mem_cons_self
    have hLetter : (if capital then 'E' else 'e') = 'e' ∨ (if capital then 'E' else 'e') = 'E' := by
      cases capital <;> simp
    have hRead : (Number.readDigits (d :: ds)).2 = [] := by
      have hDropped : (d :: ds ++ []).dropWhile Char.isDigit = [] :=
        Text.dropWhile_run hAreDigits Text.ends_nil
      rw [List.append_nil] at hDropped
      exact hDropped
    rcases hOutcome : Number.readDigits (d :: ds) with ⟨k, rest⟩
    rw [hOutcome] at hRead
    obtain rfl : rest = [] := hRead
    have hMinus : d ≠ '-' := by rintro rfl; cases hDigit
    have hPlus : d ≠ '+' := by rintro rfl; cases hDigit
    rcases sign with _ | _ | _
    all_goals
      simp only [exponentText, Exponent.text, Exponent.signText, Number.readExponent,
        if_pos hLetter, List.nil_append, List.cons_append, List.cons.injEq, hMinus, hPlus,
        false_and, false_implies, implies_true, hDigit, if_true, hOutcome]
      split
      · exact takesAll_map _ _
      · split
        · exact takesAll_none
        · exact takesAll_some _

theorem readTail_takesAll (negative : Bool) (n dropped : Nat) (m : Numeral) :
    TakesAll (Number.readTail negative n dropped m.tail) := by
  obtain ⟨_, _, ⟨fraction, hAreDigits⟩, exponent, _, _⟩ := m
  cases fraction with
  | nil =>
    show TakesAll (Number.readTail negative n dropped (exponentText exponent))
    have hRead := readExponent_takesAll negative n dropped exponent
    cases exponent with
    | none =>
      show TakesAll (if dropped = 0 then .some (Number.ofInteger negative n, []) else
        Number.readExponent negative n dropped [])
      split
      · exact takesAll_some _
      · exact hRead
    | some x =>
      obtain ⟨_ | _, sign, digits, hSome⟩ := x
      · exact hRead
      · exact hRead
  | cons d ds =>
    have hDigit := hAreDigits d List.mem_cons_self
    have hAfter := readFraction_rest hAreDigits (ends_exponentText exponent) n 0
    show TakesAll (Number.readTail negative n dropped ('.' :: (d :: ds ++ exponentText exponent)))
    rcases hOutcome :
      Number.readFraction n 0 (d :: ds ++ exponentText exponent) with ⟨k, taken, rest⟩
    rw [hOutcome] at hAfter
    obtain rfl : rest = exponentText exponent := hAfter
    rw [List.cons_append] at hOutcome ⊢
    simp only [Number.readTail, hDigit, if_true, hOutcome]
    exact readExponent_takesAll negative k _ exponent

theorem read_takesAll (n : Numeral) : TakesAll (Number.read n.text) := by
  have hTails (negative : Bool) (k dropped : Nat) := readTail_takesAll negative k dropped n
  have hEnds := n.ends_tail
  unfold text
  generalize n.tail = tail at hTails hEnds
  obtain ⟨negative, ⟨whole, hAreDigits⟩, fraction, exponent, hSome, hLeading⟩ := n
  obtain ⟨d, ds, rfl⟩ := List.exists_cons_of_ne_nil hSome
  have hDigit := hAreDigits d List.mem_cons_self
  have hMinus : d ≠ '-' := by rintro rfl; cases hDigit
  -- a hZero in front is all of the whole part, and is read apart from other digits
  by_cases hZero : d = '0'
  · subst hZero
    obtain rfl : ds = [] := (List.cons.inj (hLeading rfl)).2
    cases tail with
    | nil => cases negative <;> exact hTails _ 0 0
    | cons c rest =>
      have hStops : c.isDigit = false := hEnds c rfl
      cases negative
      all_goals
        simp only [Number.read, if_true, Bool.false_eq_true, if_false, List.nil_append,
          List.cons_append, List.cons.injEq, Char.reduceEq, false_and, false_implies, implies_true,
          hStops]
        exact hTails _ 0 0
  · have hAfter := readWhole_rest hAreDigits hEnds 0
    rcases hOutcome : Number.readWhole 0 (d :: ds ++ tail) with ⟨k, dropped, rest⟩
    rw [hOutcome] at hAfter
    obtain rfl : rest = tail := hAfter
    rw [List.cons_append] at hOutcome
    cases negative
    all_goals
      simp only [Number.read, if_true, Bool.false_eq_true, if_false, List.nil_append,
        List.cons_append, List.cons.injEq, hMinus, false_and, false_implies, implies_true, hDigit,
        hOutcome]
      exact hTails _ k dropped

def isChar (c : Char) : Bool := c.isDigit || c = '-' || c = '+' || c = '.' || c = 'e' || c = 'E'

theorem isChar_of_isDigit {c : Char} (h : c.isDigit = true) : isChar c = true := by
  simp [isChar, h]

theorem isChar_of_mem_exponentText {x : Option Exponent} {c : Char} (hMember : c ∈ exponentText x) :
    isChar c = true := by
  cases x with
  | none => cases hMember
  | some x =>
    rcases List.mem_cons.mp hMember with rfl | hMember
    · split <;> rfl
    · rcases List.mem_append.mp hMember with hMember | hMember
      · rcases hSign : x.sign with _ | _ | _
        all_goals
          rw [hSign] at hMember
          simp [Exponent.signText] at hMember
        all_goals
          rw [hMember]
          rfl
      · exact isChar_of_isDigit (x.digits.property c hMember)

theorem isChar_of_mem_text {n : Numeral} {c : Char} (hMember : c ∈ n.text) : isChar c = true := by
  rcases List.mem_append.mp hMember with hMember | hMember
  · split at hMember
    · rw [List.mem_singleton.mp hMember]
      rfl
    · cases hMember
  rcases List.mem_append.mp hMember with hMember | hMember
  · exact isChar_of_isDigit (n.whole.property c hMember)
  rcases List.mem_append.mp hMember with hMember | hMember
  · unfold fractionText at hMember
    split at hMember
    · cases hMember
    · rcases List.mem_cons.mp hMember with rfl | hMember
      · rfl
      · exact isChar_of_isDigit (n.fraction.property c hMember)
  · exact isChar_of_mem_exponentText hMember

theorem text_ne_nil (n : Numeral) : n.text ≠ [] := by
  unfold text
  simp [n.nonempty]

theorem begins (n : Numeral) : ∀ c ∈ n.text.head?, c = '-' ∨ c.isDigit = true := by
  obtain ⟨d, ds, hWhole⟩ := List.exists_cons_of_ne_nil n.nonempty
  intro c hFirst
  cases hNegative : n.negative with
  | true =>
    simp only [text, hNegative, if_true, List.cons_append, List.head?_cons, Option.mem_some_iff]
      at hFirst
    exact .inl hFirst.symm
  | false =>
    simp only [text, hNegative, Bool.false_eq_true, if_false, hWhole, List.nil_append,
      List.cons_append, List.head?_cons, Option.mem_some_iff] at hFirst
    exact .inr (n.whole.property c (by rw [hWhole, hFirst]; exact List.mem_cons_self))

theorem ne_of_begins {c d : Char} (h : c = '-' ∨ c.isDigit = true) (hMinus : d ≠ '-')
    (hDigit : d.isDigit = false) : c ≠ d := by
  rintro rfl
  rcases h with hSame | hIsDigit
  · exact hMinus hSame
  · rw [hDigit] at hIsDigit
    cases hIsDigit

/-- A text that begins like a number is read as one. -/
theorem readValue_of_begins {c : Char} (h : c = '-' ∨ c.isDigit = true) (rest : List Char)
    (steps depth : Nat) :
    Json.readValue (steps + 1) depth (c :: rest) =
      (Number.read (c :: rest)).map fun p => (.num p.1, p.2) := by
  have hBlank : Json.isBlank c = false := by
    simp only [Json.isBlank, Bool.or_eq_false_iff, decide_eq_false_iff_not]
    exact ⟨⟨⟨ne_of_begins h (by decide) rfl, ne_of_begins h (by decide) rfl⟩,
      ne_of_begins h (by decide) rfl⟩, ne_of_begins h (by decide) rfl⟩
  have hSkipped : Json.skipBlanks (c :: rest) = c :: rest := by simp [Json.skipBlanks, hBlank]
  rw [Json.readValue, hSkipped]
  split
  case h_7 => rfl
  all_goals
    rename_i hSame
    exact absurd (List.cons.inj hSame).1 (ne_of_begins h (by decide) rfl)

theorem parse_text (n : Numeral) :
    Json.parse (String.ofList n.text) = (Number.read n.text).map fun p => .num p.1 := by
  obtain ⟨c, rest, hText⟩ := List.exists_cons_of_ne_nil n.text_ne_nil
  have hBegins := n.begins c (by rw [hText]; rfl)
  have hAll := n.read_takesAll
  rw [hText] at hAll ⊢
  rw [Json.parse, Json.parseRaw, Json.parseFront, String.toList_ofList]
  rw [readValue_of_begins hBegins]
  cases hRead : Number.read (c :: rest) with
  | none => rfl
  | some p =>
    rw [Option.map_some, hAll p hRead]
    rfl

end Numeral

end Stepwise
