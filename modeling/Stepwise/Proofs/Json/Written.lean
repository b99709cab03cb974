import Stepwise.Json.Parser
import Stepwise.Json.Text
import Stepwise.Proofs.Json.NumberText
import Stepwise.Proofs.Text.Runs

/-!
# Reading what was written

Numbers may come back as other numbers, or as null where a double is no number; all else comes back
as it was.
-/

namespace Stepwise.Json

set_option autoImplicit false

mutual

def bare : Json → Json
  | .null => .null
  | .bool b => .bool b
  | .num _ => .null
  | .str s => .str s
  | .arr items => .arr (bareItems items)
  | .obj fields => .obj (bareFields fields)

def bareItems : List Json → List Json
  | [] => []
  | v :: rest => bare v :: bareItems rest

def bareFields : List (String × Json) → List (String × Json)
  | [] => []
  | (k, v) :: rest => (k, bare v) :: bareFields rest

end

def charText (c : Char) : List Char :=
  match escape? c with
  | some e => e.toList
  | none => [c]

/-- The text of a string behind its opening quote. -/
def stringText (s : String) : List Char := s.toList.flatMap charText ++ ['\x22']

mutual

def chars : Json → List Char
  | .null => "null".toList
  | .bool true => "true".toList
  | .bool false => "false".toList
  | .num n => n.text.toList
  | .str s => '\x22' :: stringText s
  | .arr items => '[' :: itemChars true items
  | .obj fields => '\x7b' :: fieldChars true fields

/-- The text of the items up to the end of the list. -/
def itemChars (first : Bool) : List Json → List Char
  | [] => [']']
  | v :: rest => (if first then [] else [',']) ++ (chars v ++ itemChars false rest)

def fieldChars (first : Bool) : List (String × Json) → List Char
  | [] => ['\x7d']
  | (k, v) :: rest => (if first then [] else [',']) ++
      ('\x22' :: stringText k ++ ':' :: (chars v ++ fieldChars false rest))

end

section Writing

theorem toList_writeChars (out : String) (cs : List Char) :
    (cs.foldl writeChar out).toList = out.toList ++ cs.flatMap charText := by
  induction cs generalizing out with
  | nil => simp
  | cons c rest ih =>
    have hFirst : (writeChar out c).toList = out.toList ++ charText c := by
      unfold writeChar charText
      cases escape? c with
      | some e => exact String.toList_append
      | none => exact String.toList_push ..
    rw [List.foldl_cons, ih, hFirst, List.flatMap_cons, List.append_assoc]

theorem toList_writeString (out s : String) :
    (writeString out s).toList = out.toList ++ '\x22' :: stringText s := by
  rw [writeString, String.toList_push, toList_writeChars, String.toList_push, stringText]
  simp

mutual

theorem toList_write (out : String) : (v : Json) → (write out v).toList = out.toList ++ chars v
  | .null => String.toList_append
  | .bool true => String.toList_append
  | .bool false => String.toList_append
  | .num _ => String.toList_append
  | .str s => toList_writeString out s
  | .arr items => by
    rw [write, String.toList_push, toList_writeItems, String.toList_push, chars]
    simp
  | .obj fields => by
    rw [write, String.toList_push, toList_writeFields, String.toList_push, chars]
    simp

theorem toList_writeItems (out : String) (first : Bool) : (items : List Json) →
    (writeItems out first items).toList ++ [']'] = out.toList ++ itemChars first items
  | [] => rfl
  | v :: rest => by
    rw [writeItems, toList_writeItems, toList_write, itemChars]
    cases first <;> simp

theorem toList_writeFields (out : String) (first : Bool) : (fields : List (String × Json)) →
    (writeFields out first fields).toList ++ ['\x7d'] = out.toList ++ fieldChars first fields
  | [] => rfl
  | (k, v) :: rest => by
    rw [writeFields, toList_writeFields, toList_write, String.toList_push, toList_writeString,
      fieldChars]
    cases first <;> simp

end

theorem toList_render (v : Json) : v.render.toList = chars v := toList_write "" v

end Writing

section Strings

theorem hexValue?_hexDigit : ∀ n < 16, hexValue? (Text.hexDigit n) = some n := by decide

theorem readUnit_control {n : Nat} (h : n < 32) (rest : List Char) :
    readUnit ('0' :: '0' :: Text.hexDigit (n / 16) :: Text.hexDigit (n % 16) :: rest) =
      some (n, rest) := by
  have hZero : hexValue? '0' = some 0 := rfl
  have hHigh := hexValue?_hexDigit (n / 16) (by omega)
  have hLow := hexValue?_hexDigit (n % 16) (by omega)
  have hWhole : ((0 * 16 + 0) * 16 + n / 16) * 16 + n % 16 = n := by omega
  simp only [readUnit, hZero, hHigh, hLow, Option.bind_eq_bind, Option.bind_some, hWhole]

theorem readEscape_of_escape? {c : Char} {e : String} (h : escape? c = some e) (rest : List Char) :
    ∃ cs, e.toList = '\x5c' :: cs ∧ readEscape (cs ++ rest) = some (c, rest) := by
  unfold escape? at h
  split at h
  · next hSame => cases h; exact ⟨['\x22'], rfl, by rw [hSame]; rfl⟩
  split at h
  · next hSame => cases h; exact ⟨['\x5c'], rfl, by rw [hSame]; rfl⟩
  split at h
  · next hSame => cases h; exact ⟨['b'], rfl, by rw [hSame]; rfl⟩
  split at h
  · next hSame => cases h; exact ⟨['t'], rfl, by rw [hSame]; rfl⟩
  split at h
  · next hSame => cases h; exact ⟨['n'], rfl, by rw [hSame]; rfl⟩
  split at h
  · next hSame => cases h; exact ⟨['f'], rfl, by rw [hSame]; rfl⟩
  split at h
  · next hSame => cases h; exact ⟨['r'], rfl, by rw [hSame]; rfl⟩
  split at h
  · next hControl =>
    cases h
    refine ⟨['u', '0', '0', Text.hexDigit (c.toNat / 16), Text.hexDigit (c.toNat % 16)], ?_, ?_⟩
    · simp only [String.toList_append, String.toList_ofList]
      rfl
    · have hPlain : c.toNat < 0xD800 ∨ 0xDFFF < c.toNat := .inl (by omega)
      simp [readEscape, readUnit_control hControl, hPlain, Char.ofNat_toNat]
  · cases h

theorem plain_of_escape? {c : Char} (h : escape? c = none) :
    c ≠ '\x22' ∧ c ≠ '\x5c' ∧ ¬ c.toNat < 32 := by
  refine ⟨?_, ?_, ?_⟩
  · rintro rfl
    cases h
  · rintro rfl
    cases h
  · intro hControl
    unfold escape? at h
    repeat' (split at h; · cases h)
    contradiction

theorem readString_charText (steps : Nat) (read : List Char) (c : Char) (rest : List Char) :
    readString (steps + 1) read (charText c ++ rest) = readString steps (c :: read) rest := by
  unfold charText
  cases hEscaped : escape? c with
  | some e =>
    obtain ⟨cs, hText, hAgain⟩ := readEscape_of_escape? hEscaped rest
    dsimp only
    rw [hText, List.cons_append, readString, if_neg (by decide), if_pos rfl, hAgain]
  | none =>
    obtain ⟨hQuote, hBackslash, hControl⟩ := plain_of_escape? hEscaped
    show readString (steps + 1) read (c :: rest) = _
    rw [readString, if_neg hQuote, if_neg hBackslash, if_neg hControl]

/-- A string is read as it was written, if the steps last. -/
theorem readString_flatMap {steps : Nat} {read cs tail : List Char} {p : String × List Char}
    (h : readString steps read (cs.flatMap charText ++ '\x22' :: tail) = some p) :
    p = (String.ofList (read.reverse ++ cs), tail) := by
  induction cs generalizing steps read with
  | nil =>
    cases steps with
    | zero => cases h
    | succ steps =>
      rw [List.append_nil]
      exact (Option.some.inj h).symm
  | cons c rest ih =>
    cases steps with
    | zero => cases h
    | succ steps =>
      rw [List.flatMap_cons, List.append_assoc, readString_charText] at h
      rw [ih h, List.reverse_cons, List.append_assoc]
      rfl

theorem readString_stringText {steps : Nat} {s : String} {tail : List Char} {p : String × List Char}
    (h : readString steps [] (stringText s ++ tail) = some p) : p = (s, tail) := by
  rw [stringText, List.append_assoc] at h
  rw [readString_flatMap h, List.reverse_nil, List.nil_append, String.ofList_toList]
  rfl

end Strings

section Documents

open Numeral (isChar)

/-- What is left of the text of a number stands before the rest. -/
def Leaves (rest tail : List Char) : Prop := ∃ left, rest = left ++ tail ∧
    ∀ c ∈ left, isChar c = true

theorem leaves_self (tail : List Char) : Leaves tail tail :=
  ⟨[], rfl, fun _ hAmong => nomatch hAmong⟩

theorem isBlank_of_isChar {c : Char} (h : isChar c = true) : isBlank c = false := by
  cases hBlank : isBlank c with
  | false => rfl
  | true =>
    simp only [isBlank, Bool.or_eq_true, decide_eq_true_eq] at hBlank
    rcases hBlank with ((rfl | rfl) | rfl) | rfl
    all_goals cases h

theorem skipBlanks_of_isBlank {c : Char} (h : isBlank c = false) (cs : List Char) :
    skipBlanks (c :: cs) = c :: cs := by
  rw [skipBlanks, List.dropWhile_cons, h]
  rfl

/-- Behind a document reading goes on at the mark, as it cannot go on in the text of a number. -/
theorem Leaves.resume {β : Type} {rest tail : List Char} {mark : Char} {go : List Char → Option β}
    {b : β} (h : Leaves rest (mark :: tail)) (hBlank : isBlank mark = false)
    (hStops : ∀ c, isChar c = true → ∀ cs, go (c :: cs) = none)
    (hGoes : go (skipBlanks rest) = some b) :
    go (mark :: tail) = some b := by
  obtain ⟨left, rfl, hInside⟩ := h
  cases left with
  | nil =>
    rw [List.nil_append, skipBlanks_of_isBlank hBlank] at hGoes
    exact hGoes
  | cons c more =>
    have hFirst := hInside c List.mem_cons_self
    rw [List.cons_append, skipBlanks_of_isBlank (isBlank_of_isChar hFirst), hStops c hFirst]
      at hGoes
    cases hGoes

/-- The text of a document begins with no blank and with no closing bracket. -/
theorem chars_cons (v : Json) : ∃ c more, chars v = c :: more ∧ isBlank c = false ∧ c ≠ ']' := by
  cases v with
  | null => exact ⟨'n', _, rfl, rfl, by decide⟩
  | bool b =>
    cases b with
    | true => exact ⟨'t', _, rfl, rfl, by decide⟩
    | false => exact ⟨'f', _, rfl, rfl, by decide⟩
  | str s => exact ⟨'\x22', _, rfl, rfl, by decide⟩
  | arr items => exact ⟨'[', _, rfl, rfl, by decide⟩
  | obj fields => exact ⟨'\x7b', _, rfl, rfl, by decide⟩
  | num n =>
    rcases n.text_cases with hText | ⟨hInside, c, more, hText, hFirst⟩
    · exact ⟨'n', ['u', 'l', 'l'], congrArg String.toList hText, rfl, by decide⟩
    · refine ⟨c, more, hText, ?_, Numeral.ne_of_begins hFirst (by decide) rfl⟩
      exact isBlank_of_isChar (hInside c (hText ▸ List.mem_cons_self))

theorem readValue_num {n : Number} {steps depth : Nat} {tail rest : List Char} {w : Json}
    (hEnds : Text.Ends isChar tail)
    (h : readValue steps depth (n.text.toList ++ tail) = some (w, rest)) :
    w.bare = .null ∧ Leaves rest tail := by
  cases steps with
  | zero => cases h
  | succ steps =>
    rcases n.text_cases with hText | ⟨hInside, c, more, hText, hFirst⟩
    · rw [hText] at h
      cases h
      exact ⟨rfl, leaves_self _⟩
    · rw [hText, List.cons_append, Numeral.readValue_of_begins hFirst] at h
      obtain ⟨⟨m, after⟩, hRead, hSame⟩ := Option.map_eq_some_iff.mp h
      cases hSame
      refine ⟨rfl, ?_⟩
      -- Reading stops in the text of the number or at its end, as the tail goes on with another
      -- character.
      obtain ⟨taken, hWhole, hPassed⟩ := Number.passes_read hRead
      rw [← List.cons_append, ← hText] at hWhole
      rcases List.append_eq_append_iff.mp hWhole with ⟨beyond, rfl, rfl⟩ | ⟨left, hSame, rfl⟩
      · cases beyond with
        | nil => exact leaves_self _
        | cons d beyond =>
          have hOutside := hEnds d rfl
          rw [hPassed d (List.mem_append_right _ List.mem_cons_self)] at hOutside
          cases hOutside
      · exact ⟨left, rfl, fun c hAmong => hInside c (hSame ▸ List.mem_append_right _ hAmong)⟩

/-- Reading a list goes on behind an item. -/
def itemsAfter (steps depth : Nat) (read : List Json) : List Char → Option (List Json × List Char)
  | ',' :: rest => readItems steps depth read rest
  | ']' :: rest => some (read.reverse, rest)
  | _ => none

def listAfter (steps depth : Nat) : List Char → Option (Json × List Char)
  | ']' :: rest => some (.arr [], rest)
  | rest => (readItems steps depth [] rest).map fun p => (.arr p.1, p.2)

def fieldsAfter (steps depth : Nat) (read : List (String × Json)) :
    List Char → Option (List (String × Json) × List Char)
  | ',' :: rest => readFields steps depth read rest
  | '\x7d' :: rest => some (read.reverse, rest)
  | _ => none

/-- What is written for the document is read as the same document, up to its numbers. -/
def ReadsBack (v : Json) : Prop :=
  ∀ {steps depth : Nat} {tail rest : List Char} {w : Json}, Text.Ends isChar tail →
    readValue steps depth (chars v ++ tail) = some (w, rest) → w.bare = v.bare ∧ Leaves rest tail

def ItemsReadBack (items : List Json) : Prop :=
  ∀ {steps depth : Nat} {read : List Json} {tail after : List Char} {p : List Json × List Char},
    Leaves after (itemChars false items ++ tail) →
    itemsAfter steps depth read (skipBlanks after) = some p →
    p.2 = tail ∧ ∃ more, p.1 = read.reverse ++ more ∧ bareItems more = bareItems items

def FieldsReadBack (fields : List (String × Json)) : Prop :=
  ∀ {steps depth : Nat} {read : List (String × Json)} {tail after : List Char}
    {p : List (String × Json) × List Char},
    Leaves after (fieldChars false fields ++ tail) →
    fieldsAfter steps depth read (skipBlanks after) = some p →
    p.2 = tail ∧ ∃ more, p.1 = read.reverse ++ more ∧ bareFields more = bareFields fields

theorem ends_itemChars (items : List Json) (tail : List Char) :
    Text.Ends isChar (itemChars false items ++ tail) := by
  cases items with
  | nil => exact Text.ends_cons rfl
  | cons v rest => exact Text.ends_cons rfl

theorem ends_fieldChars (fields : List (String × Json)) (tail : List Char) :
    Text.Ends isChar (fieldChars false fields ++ tail) := by
  cases fields with
  | nil => exact Text.ends_cons rfl
  | cons e rest => exact Text.ends_cons rfl

theorem readItems_cons {v : Json} {items : List Json} (hv : ReadsBack v)
    (hItems : ItemsReadBack items) {steps depth : Nat} {read : List Json} {tail : List Char}
    {p : List Json × List Char}
    (h : readItems steps depth read (chars v ++ (itemChars false items ++ tail)) = some p) :
    p.2 = tail ∧ ∃ more, p.1 = read.reverse ++ more ∧ bareItems more = bareItems (v :: items) := by
  cases steps with
  | zero => cases h
  | succ steps =>
    rw [readItems] at h
    cases hValue : readValue steps depth (chars v ++ (itemChars false items ++ tail)) with
    | none =>
      rw [hValue] at h
      cases h
    | some found =>
      rw [hValue] at h
      obtain ⟨w, after⟩ := found
      obtain ⟨hSame, hLeaves⟩ := hv (ends_itemChars items tail) hValue
      obtain ⟨hRest, more, hRead, hOthers⟩ := hItems hLeaves h
      refine ⟨hRest, w :: more, ?_, ?_⟩
      · rw [hRead, List.reverse_cons, List.append_assoc]
        rfl
      · rw [bareItems, bareItems, hSame, hOthers]

theorem readFields_cons {k : String} {v : Json} {fields : List (String × Json)} (hv : ReadsBack v)
    (hFields : FieldsReadBack fields) {steps depth : Nat} {read : List (String × Json)}
    {tail : List Char} {p : List (String × Json) × List Char}
    (h : readFields steps depth read
      ('\x22' :: stringText k ++ ':' :: (chars v ++ (fieldChars false fields ++ tail))) = some p) :
    p.2 = tail ∧ ∃ more, p.1 = read.reverse ++ more ∧
    bareFields more = bareFields ((k, v) :: fields) := by
  cases steps with
  | zero => cases h
  | succ steps =>
    have hName :
        skipBlanks
          ('\x22' :: stringText k ++ ':' :: (chars v ++ (fieldChars false fields ++ tail))) =
        '\x22' :: stringText k ++ ':' :: (chars v ++ (fieldChars false fields ++ tail)) := rfl
    rw [readFields, hName] at h
    simp only [List.cons_append] at h
    cases hString : readString (steps + 1) []
        (stringText k ++ ':' :: (chars v ++ (fieldChars false fields ++ tail))) with
    | none =>
      rw [hString] at h
      cases h
    | some found =>
      rw [hString] at h
      obtain rfl := readString_stringText hString
      have hColon : skipBlanks (':' :: (chars v ++ (fieldChars false fields ++ tail))) =
        ':' :: (chars v ++ (fieldChars false fields ++ tail)) := rfl
      simp only [hColon] at h
      cases hValue : readValue steps depth (chars v ++ (fieldChars false fields ++ tail)) with
      | none =>
        rw [hValue] at h
        cases h
      | some found =>
        rw [hValue] at h
        obtain ⟨w, after⟩ := found
        obtain ⟨hSame, hLeaves⟩ := hv (ends_fieldChars fields tail) hValue
        obtain ⟨hRest, more, hRead, hOthers⟩ := hFields hLeaves h
        refine ⟨hRest, (k, w) :: more, ?_, ?_⟩
        · rw [hRead, List.reverse_cons, List.append_assoc]
          rfl
        · rw [bareFields, bareFields, hSame, hOthers]

theorem itemsAfter_of_isChar {steps depth : Nat} {read : List Json} {c : Char} (h : isChar c = true)
    (cs : List Char) : itemsAfter steps depth read (c :: cs) = none := by
  unfold itemsAfter
  split
  · next hSame => cases hSame; cases h
  · next hSame => cases hSame; cases h
  · rfl

theorem fieldsAfter_of_isChar {steps depth : Nat} {read : List (String × Json)} {c : Char}
    (h : isChar c = true) (cs : List Char) : fieldsAfter steps depth read (c :: cs) = none := by
  unfold fieldsAfter
  split
  · next hSame => cases hSame; cases h
  · next hSame => cases hSame; cases h
  · rfl

theorem itemsReadBack_nil : ItemsReadBack [] := by
  intro steps depth read tail after p hLeaves h
  have hClosed := hLeaves.resume rfl (fun _ => itemsAfter_of_isChar) h
  cases hClosed
  exact ⟨rfl, [], (List.append_nil _).symm, rfl⟩

theorem itemsReadBack_cons {v : Json} {items : List Json} (hv : ReadsBack v)
    (hItems : ItemsReadBack items) : ItemsReadBack (v :: items) := by
  intro steps depth read tail after p hLeaves h
  have hText : itemChars false (v :: items) ++ tail =
    ',' :: (chars v ++ (itemChars false items ++ tail)) := by
    simp [itemChars]
  rw [hText] at hLeaves
  exact readItems_cons hv hItems (hLeaves.resume rfl (fun _ => itemsAfter_of_isChar) h)

theorem fieldsReadBack_nil : FieldsReadBack [] := by
  intro steps depth read tail after p hLeaves h
  have hClosed := hLeaves.resume rfl (fun _ => fieldsAfter_of_isChar) h
  cases hClosed
  exact ⟨rfl, [], (List.append_nil _).symm, rfl⟩

theorem fieldsReadBack_cons {k : String} {v : Json} {fields : List (String × Json)}
    (hv : ReadsBack v) (hFields : FieldsReadBack fields) : FieldsReadBack ((k, v) :: fields) := by
  intro steps depth read tail after p hLeaves h
  have hText : fieldChars false ((k, v) :: fields) ++ tail =
      ',' :: ('\x22' :: stringText k ++ ':' :: (chars v ++ (fieldChars false fields ++ tail))) := by
    simp [fieldChars]
  rw [hText] at hLeaves
  exact readFields_cons hv hFields (hLeaves.resume rfl (fun _ => fieldsAfter_of_isChar) h)

/-- A document of which the steps and the depth decide only whether it is read. -/
theorem readsBack_plain {v : Json}
    (h : ∀ steps depth tail, readValue steps depth (chars v ++ tail) = none ∨
      readValue steps depth (chars v ++ tail) = some (v, tail)) : ReadsBack v := by
  intro steps depth tail rest w _ hRead
  rcases h steps depth tail with hNever | hAlways
  · rw [hNever] at hRead
    cases hRead
  · rw [hAlways] at hRead
    cases hRead
    exact ⟨rfl, leaves_self _⟩

theorem readsBack_str (s : String) : ReadsBack (.str s) := by
  intro steps depth tail rest w _ h
  cases steps with
  | zero => cases h
  | succ steps =>
    have hUnfolded : readValue (steps + 1) depth (chars (.str s) ++ tail) =
      (readString (steps + 1) [] (stringText s ++ tail)).map fun p => (Json.str p.1, p.2) := rfl
    rw [hUnfolded] at h
    obtain ⟨p, hRead, hSame⟩ := Option.map_eq_some_iff.mp h
    rw [readString_stringText hRead] at hSame
    cases hSame
    exact ⟨rfl, leaves_self _⟩

theorem readsBack_arr {v : Json} {items : List Json} (hv : ReadsBack v)
    (hItems : ItemsReadBack items) :
    ReadsBack (.arr (v :: items)) := by
  intro steps depth tail rest w _ h
  cases steps with
  | zero => cases h
  | succ steps =>
    cases depth with
    | zero => cases h
    | succ depth =>
      obtain ⟨c, more, hText, hBlank, hClosing⟩ := chars_cons v
      have hStart : chars (.arr (v :: items)) ++ tail =
        '[' :: (chars v ++ (itemChars false items ++ tail)) := by
        simp [chars, itemChars]
      have hUnfolded :
          readValue (steps + 1) (depth + 1) ('[' :: (chars v ++ (itemChars false items ++ tail))) =
          (readItems steps depth [] (chars v ++ (itemChars false items ++ tail))).map
            fun p => (Json.arr p.1, p.2) := by
        have hOpened :
            readValue (steps + 1) (depth + 1)
              ('[' :: (chars v ++ (itemChars false items ++ tail))) =
              listAfter steps depth (skipBlanks (chars v ++ (itemChars false items ++ tail))) := rfl
        rw [hOpened, hText, List.cons_append, skipBlanks_of_isBlank hBlank]
        unfold listAfter
        split
        · next hSame => exact absurd (List.cons.inj hSame).1 hClosing
        · rfl
      rw [hStart, hUnfolded] at h
      obtain ⟨p, hRead, hSame⟩ := Option.map_eq_some_iff.mp h
      obtain ⟨hAfter, found, hItems', hOthers⟩ := readItems_cons hv hItems hRead
      cases hSame
      rw [hAfter]
      refine ⟨?_, leaves_self _⟩
      rw [hItems', bare, bare, ← hOthers]
      rfl

theorem readsBack_obj {k : String} {v : Json} {fields : List (String × Json)} (hv : ReadsBack v)
    (hFields : FieldsReadBack fields) : ReadsBack (.obj ((k, v) :: fields)) := by
  intro steps depth tail rest w _ h
  cases steps with
  | zero => cases h
  | succ steps =>
    cases depth with
    | zero => cases h
    | succ depth =>
      have hStart : chars (.obj ((k, v) :: fields)) ++ tail = '\x7b' ::
          ('\x22' :: stringText k ++ ':' :: (chars v ++ (fieldChars false fields ++ tail))) := by
        simp [chars, fieldChars]
      have hUnfolded : readValue (steps + 1) (depth + 1) ('\x7b' ::
          ('\x22' :: stringText k ++ ':' :: (chars v ++ (fieldChars false fields ++ tail)))) =
          (readFields steps depth []
            ('\x22' :: stringText k ++ ':' :: (chars v ++ (fieldChars false fields ++ tail)))).map
            fun p => (Json.obj p.1, p.2) := rfl
      rw [hStart, hUnfolded] at h
      obtain ⟨p, hRead, hSame⟩ := Option.map_eq_some_iff.mp h
      obtain ⟨hAfter, found, hFields', hOthers⟩ := readFields_cons hv hFields hRead
      cases hSame
      rw [hAfter]
      refine ⟨?_, leaves_self _⟩
      rw [hFields', bare, bare, ← hOthers]
      rfl

mutual

theorem readsBack : (v : Json) → ReadsBack v
  | .null => readsBack_plain fun
    | 0, _, _ => .inl rfl
    | _ + 1, _, _ => .inr rfl
  | .bool true => readsBack_plain fun
    | 0, _, _ => .inl rfl
    | _ + 1, _, _ => .inr rfl
  | .bool false => readsBack_plain fun
    | 0, _, _ => .inl rfl
    | _ + 1, _, _ => .inr rfl
  | .num _ => readValue_num
  | .str s => readsBack_str s
  | .arr [] => readsBack_plain fun
    | 0, _, _ => .inl rfl
    | _ + 1, 0, _ => .inl rfl
    | _ + 1, _ + 1, _ => .inr rfl
  | .arr (v :: items) => readsBack_arr (readsBack v) (itemsReadBack items)
  | .obj [] => readsBack_plain fun
    | 0, _, _ => .inl rfl
    | _ + 1, 0, _ => .inl rfl
    | _ + 1, _ + 1, _ => .inr rfl
  | .obj ((_, v) :: fields) => readsBack_obj (readsBack v) (fieldsReadBack fields)

theorem itemsReadBack : (items : List Json) → ItemsReadBack items
  | [] => itemsReadBack_nil
  | v :: rest => itemsReadBack_cons (readsBack v) (itemsReadBack rest)

theorem fieldsReadBack : (fields : List (String × Json)) → FieldsReadBack fields
  | [] => fieldsReadBack_nil
  | (_, v) :: rest => fieldsReadBack_cons (readsBack v) (fieldsReadBack rest)

end

/-- A document whose characters are read to their end is read from its text. -/
theorem parseRaw_render {v w : Json}
    (hRead : readValue (2 * (chars v).length + 2) maxDepth (chars v) = some (w, [])) :
    parseRaw v.render = some w := by
  rw [parseRaw, parseFront, toList_render]
  simp only [hRead]
  rfl

end Documents

end Stepwise.Json
