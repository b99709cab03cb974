import Stepwise.Expression.Template
import Stepwise.Proofs.Text.Runs

/-!
# The pieces of a template

How a template is cut into its pieces, and what filling them comes to.
-/

namespace Stepwise

set_option autoImplicit false

namespace Template

section Cutting

theorem pieces_nil : pieces [] = [] := by
  rw [pieces]
  rfl

theorem pieces_of_placeholder? {cs rest : List Char} {p : Piece}
    (h : placeholder? cs = some (p, rest)) :
    pieces cs = p :: pieces rest := by
  rw [pieces]
  split
  · next hFound =>
    rw [h] at hFound
    cases hFound
    rfl
  · next hNone =>
    rw [h] at hNone
    cases hNone

theorem pieces_cons_of_ne {c : Char} (hOther : c ≠ '\x7b') (rest : List Char) :
    pieces (c :: rest) = .literal c :: pieces rest := by
  have hNone : placeholder? (c :: rest) = none := by
    unfold placeholder?
    split
    · next hSame =>
      cases hSame
      exact absurd rfl hOther
    · rfl
  rw [pieces]
  split
  · next hSome =>
    rw [hNone] at hSome
    cases hSome
  · rfl

theorem pieces_append_of_not_mem {cs : List Char} (h : '\x7b' ∉ cs) (rest : List Char) :
    pieces (cs ++ rest) = cs.map .literal ++ pieces rest := by
  induction cs with
  | nil => rfl
  | cons c more ih =>
    obtain ⟨hOther, hLater⟩ := List.ne_and_not_mem_of_not_mem_cons h
    rw [List.cons_append, pieces_cons_of_ne hOther.symm, ih hLater]
    rfl

theorem pieces_of_literal {cs : List Char} (h : '\x7b' ∉ cs) : pieces cs = cs.map .literal := by
  simpa [pieces_nil] using pieces_append_of_not_mem h []

theorem placeholder?_braces {inside : List Char} (hNonempty : inside ≠ [])
    (hPlain : ∀ c ∈ inside, isBrace c = false) (rest : List Char) :
    placeholder? ('\x7b' :: '\x7b' :: (inside ++ '\x7d' :: '\x7d' :: rest)) =
      .some (.placeholder ('\x7b' :: '\x7b' :: inside ++ ['\x7d', '\x7d']) (expressionIn inside),
        rest) := by
  have hOpen' : ∀ c ∈ inside, (!isBrace c) = true := fun c hAmong => by rw [hPlain c hAmong]; rfl
  have hEnds : Text.Ends (fun c => !isBrace c) ('\x7d' :: '\x7d' :: rest) := Text.ends_cons rfl
  simp [placeholder?, Text.takeWhile_run hOpen' hEnds, Text.dropWhile_run hOpen' hEnds, hNonempty]

end Cutting

section Filling

variable {scope : Json}

theorem interpolate_literals_append (cs : List Char) (more : List Piece) :
    interpolate scope (cs.map .literal ++ more) = (do
      let text ← interpolate scope more
      pure (String.ofList cs ++ text)) := by
  induction cs with
  | nil =>
    simp only [List.map_nil, List.nil_append, String.ofList_nil, String.empty_append, bind_pure]
  | cons c rest ih =>
    rw [List.map_cons, List.cons_append, interpolate, pieceText, pure_bind, ih, bind_assoc]
    congr
    funext text
    rw [pure_bind, ← String.append_assoc, String.singleton_eq_ofList, ← String.ofList_append,
      List.singleton_append]

theorem fill_of_not_mem {template : String} (hPlain : '\x7b' ∉ template.toList) (scope : Json) :
    fill template scope = pure (.value (.str template)) := by
  have hNone : (template.toList.map Piece.literal).any isPlaceholder = false := by
    simp [isPlaceholder]
  rw [fill, pieces_of_literal hPlain]
  split
  · next hSingle => cases hChars : template.toList <;> simp [hChars] at hSingle
  · rw [hNone]
    rfl

theorem fill_eq_interpolate {template : String} {whole expr : List Char}
    (hAmong : .placeholder whole expr ∈ pieces template.toList)
    (hLonger : pieces template.toList ≠ [.placeholder whole expr]) : fill template scope = (do
      let text ← interpolate scope (pieces template.toList)
      pure (.value (.str text))) := by
  unfold fill
  split
  · next hSingle =>
    rw [hSingle, List.mem_singleton] at hAmong
    rw [hSingle, hAmong] at hLonger
    exact absurd rfl hLonger
  · have hMarked : (pieces template.toList).any isPlaceholder = true :=
      List.any_eq_true.mpr ⟨_, hAmong, rfl⟩
    rw [if_pos hMarked]

theorem follow_of_not_query {text : String} (hPlain : Path.isQuery text = false) :
    follow (.value (.str text)) scope = pure (.value (.str text)) := by
  rw [follow, if_neg (by simp [hPlain])]

end Filling

end Template

end Stepwise
