import Stepwise.Proofs.Objects.Keys
import Stepwise.Proofs.Provenance.Vocabulary

/-!
# Texts that can be filled and joined

Texts without a dollar sign, in which two opening braces only begin a placeholder that holds a path.
What is written of documents with such texts and names is such a text again, and so is every text
that is put together of them. They make a vocabulary, whatever is interpolated or joined.
-/

namespace Stepwise

set_option autoImplicit false

open Template

def isQuiet (c : Char) : Bool := c ≠ '\x7b' && c ≠ '$'

theorem isQuiet_of_class {p : Char → Bool} (hBrace : p '\x7b' = false) (hDollar : p '$' = false)
    {c : Char} (h : p c = true) : isQuiet c = true := by
  simp only [isQuiet, Bool.and_eq_true, decide_eq_true_eq]
  constructor
  · rintro rfl
    exact absurd h (by rw [hBrace]; decide)
  · rintro rfl
    exact absurd h (by rw [hDollar]; decide)

/-- What stands between the braces of a placeholder for a path; it is written in a string as it is.
-/
structure Marked (inside : List Char) : Prop where
  shown : inside ≠ []
  plain : ∀ c ∈ inside, isBrace c = false ∧ c ≠ '$' ∧ Json.escape? c = none
  path : (Path.ofText? (queryOf (expressionIn inside))).isSome = true

theorem Marked.of_all {inside : List Char} (hShown : inside ≠ [])
    (hPlain : (inside.all fun c => !isBrace c && isQuiet c && (Json.escape? c).isNone) = true)
    (hPath : (Path.ofText? (queryOf (expressionIn inside))).isSome = true) : Marked inside := by
  refine ⟨hShown, fun c hc => ?_, hPath⟩
  have hall := List.all_eq_true.mp hPlain c hc
  simp only [isQuiet, Bool.and_eq_true, Bool.not_eq_true', decide_eq_true_eq,
    Option.isNone_iff_eq_none] at hall
  exact ⟨hall.1.1, hall.1.2.2, hall.2⟩

/-- Two opening braces stand only where a placeholder for a path begins, and there is no dollar
sign. -/
inductive Worded : List Char → Prop where
  | nil : Worded []
  | char {c : Char} {rest : List Char} (hc : isQuiet c = true) (h : Worded rest) :
    Worded (c :: rest)
  | brace {c : Char} {rest : List Char} (hc : isQuiet c = true) (h : Worded rest) :
      Worded ('\x7b' :: c :: rest)
  | placeholder {inside rest : List Char} (hInside : Marked inside) (h : Worded rest) :
      Worded ('\x7b' :: '\x7b' :: (inside ++ '\x7d' :: '\x7d' :: rest))

/-- The texts and names that can be filled and joined. -/
def wording : Words where
  text t := Worded t.toList
  name name := Worded name.toList

namespace Worded

variable {cs more : List Char}

theorem of_forall (h : ∀ c ∈ cs, isQuiet c = true) : Worded cs := by
  induction cs with
  | nil => exact .nil
  | cons c rest ih =>
    obtain ⟨hc, hRest⟩ := List.forall_mem_cons.mp h
    exact .char hc (ih hRest)

theorem of_all (h : cs.all isQuiet = true) : Worded cs := of_forall (List.all_eq_true.mp h)

theorem append (h : Worded cs) (hMore : Worded more) : Worded (cs ++ more) := by
  induction h with
  | nil => exact hMore
  | char hc _ ih => exact .char hc ih
  | brace hc _ ih => exact .brace hc ih
  | @placeholder inside rest hInside _ ih =>
    have hSplit : '\x7b' :: '\x7b' :: (inside ++ '\x7d' :: '\x7d' :: rest) ++ more =
        '\x7b' :: '\x7b' :: (inside ++ '\x7d' :: '\x7d' :: (rest ++ more)) := by simp
    rw [hSplit]
    exact .placeholder hInside ih

theorem intercalate {pieces : List (List Char)} (hMore : Worded more)
    (h : ∀ cs ∈ pieces, Worded cs) :
    Worded (List.intercalate more pieces) := by
  induction pieces with
  | nil => exact .nil
  | cons first rest ih =>
    obtain ⟨hFirst, hRest⟩ := List.forall_mem_cons.mp h
    cases rest with
    | nil =>
      rw [List.intercalate_singleton]
      exact hFirst
    | cons second rest =>
      rw [List.intercalate_cons_cons]
      exact (hFirst.append hMore).append (ih hRest)

end Worded

section Written

/-- A quiet character is written quietly. -/
theorem exists_charText {c : Char} (hc : isQuiet c = true) :
    ∃ d more, Json.charText c = d :: more ∧ isQuiet d = true ∧ more.all isQuiet = true := by
  have hShort {e : String} (h : e ∈ ["\\\"", "\\\\", "\\b", "\\t", "\\n", "\\f", "\\r"]) :
      ∃ d more, e.toList = d :: more ∧ isQuiet d = true ∧ more.all isQuiet = true := by
    simp only [List.mem_cons, List.not_mem_nil, or_false] at h
    rcases h with rfl | rfl | rfl | rfl | rfl | rfl | rfl
      <;> exact ⟨_, _, rfl, by decide, by decide⟩
  have hhex : ∀ n < 16, isQuiet (Text.hexDigit n) = true := by decide
  unfold Json.charText
  cases he : Json.escape? c with
  | none => exact ⟨c, [], rfl, hc, rfl⟩
  | some e =>
    unfold Json.escape? at he
    iterate 7 (split at he; · cases he; exact hShort (by simp))
    split at he
    · cases he
      refine ⟨'\x5c', ['u', '0', '0', Text.hexDigit (c.toNat / 16), Text.hexDigit (c.toNat % 16)],
        ?_, rfl, ?_⟩
      · simp only [String.toList_append, String.toList_ofList]
        rfl
      · have hLeading : isQuiet 'u' = true ∧ isQuiet '0' = true := by decide
        simp [hLeading, hhex (c.toNat / 16) (by omega), hhex (c.toNat % 16) (by omega)]
    · cases he

theorem Worded.escaped {cs : List Char} (h : Worded cs) : Worded (cs.flatMap Json.charText) := by
  have hBrace : Json.charText '\x7b' = ['\x7b'] := rfl
  induction h with
  | nil => exact .nil
  | @char c rest hc _ ih =>
    obtain ⟨d, more, hText, hd, hMore⟩ := exists_charText hc
    rw [List.flatMap_cons, hText]
    exact .char hd ((Worded.of_all hMore).append ih)
  | @brace c rest hc _ ih =>
    obtain ⟨d, more, hText, hd, hMore⟩ := exists_charText hc
    rw [List.flatMap_cons, List.flatMap_cons, hBrace, hText]
    exact .brace hd ((Worded.of_all hMore).append ih)
  | @placeholder inside rest hInside _ ih =>
    have hSame : inside.flatMap Json.charText = inside := by
      have hChar : ∀ c ∈ inside, Json.charText c = [c] := by
        intro c hc
        rw [Json.charText, (hInside.plain c hc).2.2]
      rw [List.flatMap_def, List.map_congr_left hChar, ← List.flatMap_def, List.flatMap_singleton']
    have hClose : Json.charText '\x7d' = ['\x7d'] := rfl
    simp only [List.flatMap_cons, List.flatMap_append, hBrace, hClose, hSame, List.singleton_append]
    exact .placeholder hInside ih

theorem Worded.stringText {s : String} (h : Worded s.toList) : Worded (Json.stringText s) :=
  h.escaped.append (.of_all rfl)

variable {places : Pointer → Prop}

mutual

theorem Json.worded_chars : (v : Json) → v.Honest wording places → Worded v.chars
  | .null, _ => .of_all (by decide)
  | .bool true, _ => .of_all (by decide)
  | .bool false, _ => .of_all (by decide)
  | .num n, _ => by
    rcases n.text_cases with hText | ⟨hChars, -⟩
    · rw [Json.chars, hText]
      exact .of_all (by decide)
    · exact .of_forall fun c hc => isQuiet_of_class (by decide) (by decide) (hChars c hc)
  | .str s, h => .char rfl (Worded.stringText (Json.every_str_iff.mp h))
  | .arr items, h => .char rfl (worded_itemChars true items (Json.every_arr_iff.mp h))
  | .obj fields, h => by
    obtain ⟨c, rest, hChars, hc, hRest⟩ := worded_fieldChars true fields h.fields
    rw [Json.chars, hChars]
    exact .brace hc hRest

theorem Json.worded_itemChars (first : Bool) : (items : List Json) →
    (∀ v ∈ items, v.Honest wording places) →
    Worded (Json.itemChars first items)
  | [], _ => .of_all rfl
  | v :: rest, h => by
    obtain ⟨hv, hRest⟩ := List.forall_mem_cons.mp h
    have hMark : Worded (if first then [] else [',']) := by cases first <;> exact .of_all rfl
    exact hMark.append ((worded_chars v hv).append (worded_itemChars false rest hRest))

/-- The text behind the opening brace of an object begins with a quiet character. -/
theorem Json.worded_fieldChars (first : Bool) : (fields : List (String × Json)) →
    (∀ e ∈ fields, wording.name e.1 ∧ e.2.Honest wording places) →
    ∃ c rest, Json.fieldChars first fields = c :: rest ∧ isQuiet c = true ∧ Worded rest
  | [], _ => ⟨'\x7d', [], rfl, rfl, .nil⟩
  | (k, v) :: rest, h => by
    obtain ⟨⟨hName, hv⟩, hRest⟩ := List.forall_mem_cons.mp h
    obtain ⟨c, more, hChars, hc, hMore⟩ := worded_fieldChars false rest hRest
    have hValue : Worded (Json.stringText k ++ ':' :: (v.chars ++ Json.fieldChars false rest)) := by
      rw [hChars]
      exact (Worded.stringText hName).append
        (.char rfl ((worded_chars v hv).append (.char hc hMore)))
    cases first with
    | true => exact ⟨'\x22', _, rfl, rfl, hValue⟩
    | false => exact ⟨',', _, rfl, rfl, .char rfl hValue⟩

end

end Written

section Cut

variable {rest : List Char}

end Cut

end Stepwise
