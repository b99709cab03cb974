import Stepwise.Proofs.Expression.Rounds

/-!
# Interpolation

Filling a text that holds placeholders. Each placeholder becomes the text of what its path leads to,
with or without the dollar sign in front and with any blanks around it, and the pieces between the
placeholders stay as they are.
-/

namespace Stepwise

set_option autoImplicit false

namespace Template

abbrev Literal := {cs : List Char // ∀ c ∈ cs, isBrace c = false}

theorem braceless {cs : List Char} (h : cs.any isBrace = false) : ∀ c ∈ cs, isBrace c = false := by
  intro c hc
  simpa using List.any_eq_false.mp h c hc

/-- A placeholder for what a path leads to, and the piece behind it. -/
structure Slot where
  before : Text.Blanks
  /-- Whether the dollar sign and the first dot are written. -/
  dollar : Bool
  /-- The path behind the first dot. -/
  text : String
  path : Path
  after : Text.Blanks
  behind : Literal
  reads : Path.ofText? ("$." ++ text) = some path
  plain : ∀ c ∈ text.toList, isBrace c = false
  bare : text.toList.head? ≠ some '$'

namespace Slot

variable (s : Slot)

def expr : List Char := (if s.dollar then ['$', '.'] else []) ++ s.text.toList

def inside : List Char := s.before.val ++ (s.expr ++ s.after.val)

def whole : List Char := '\x7b' :: '\x7b' :: s.inside ++ ['\x7d', '\x7d']

theorem trimmed_text : Text.Trimmed s.text.toList := by
  obtain ⟨pieces, hArePieces, hWhole⟩ := Path.pieces_of_ofText? s.reads
  rw [String.toList_append] at hWhole
  have hFlat : '.' :: s.text.toList = pieces.flatten := (List.cons.inj hWhole).2
  cases pieces with
  | nil => cases hFlat
  | cons piece rest =>
    have hLater := fun other hMember => hArePieces other (List.mem_cons_of_mem piece hMember)
    rw [List.flatten_cons] at hFlat
    -- only a name begins with a dot, and it goes on behind it
    cases hArePieces piece List.mem_cons_self with
    | @name name hSome hChars =>
      rw [(List.cons.inj hFlat).2]
      refine Path.trimmed_append_pieces hLater (.of_forall hSome fun c hMember => ?_)
      exact Text.not_isBlank_of_class (by decide +kernel) (hChars c hMember)
    | quoted => cases (List.cons.inj hFlat).1
    | position => cases (List.cons.inj hFlat).1

theorem trimmed_expr : Text.Trimmed s.expr := by
  unfold expr
  split
  · exact Text.Trimmed.append (.of_all (List.cons_ne_nil _ _) rfl) s.trimmed_text
  · exact s.trimmed_text

theorem isBrace_of_mem_inside : ∀ c ∈ s.inside, isBrace c = false := by
  have hBlank {c : Char} (h : Text.isBlank c = true) : isBrace c = false := by
    cases hBrace : isBrace c with
    | false => rfl
    | true => cases h.symm.trans (Text.not_isBlank_of_class (by decide) hBrace)
  intro c hAmong
  simp only [inside, expr, List.mem_append] at hAmong
  rcases hAmong with hEarly | (hSign | hNamed) | hLate
  · exact hBlank (s.before.property c hEarly)
  · split at hSign
    · rcases List.mem_cons.mp hSign with rfl | hSign
      · rfl
      · rw [List.mem_singleton.mp hSign]
        rfl
    · cases hSign
  · exact s.plain c hNamed
  · exact hBlank (s.after.property c hLate)

theorem inside_ne_nil : s.inside ≠ [] :=
  List.append_ne_nil_of_right_ne_nil _ (List.append_ne_nil_of_left_ne_nil s.trimmed_expr.nonempty _)

theorem expressionIn_inside : expressionIn s.inside = s.expr := by
  obtain ⟨c, rest, hSame⟩ := List.exists_cons_of_ne_nil s.trimmed_expr.nonempty
  have hShown : s.inside.all Text.isBlank = false := by
    have hFirst : Text.isBlank c = false := s.trimmed_expr.first c (by rw [hSame]; rfl)
    rw [List.all_eq_false]
    refine ⟨c, ?_, by rw [hFirst]; exact Bool.false_ne_true⟩
    rw [inside, hSame]
    simp
  rw [expressionIn, hShown]
  exact s.trimmed_expr.trim_padded s.before.property s.after.property

theorem pieces_append (rest : List Char) :
    pieces (s.whole ++ (s.behind.val ++ rest)) =
      .placeholder s.whole s.expr :: s.behind.val.map .literal ++ pieces rest := by
  have hCut := placeholder?_braces s.inside_ne_nil s.isBrace_of_mem_inside (s.behind.val ++ rest)
  rw [s.expressionIn_inside] at hCut
  have hOpen : '\x7b' ∉ s.behind.val := fun hAmong => nomatch s.behind.property _ hAmong
  have hSpelled : s.whole ++ (s.behind.val ++ rest) =
      '\x7b' :: '\x7b' :: (s.inside ++ '\x7d' :: '\x7d' :: (s.behind.val ++ rest)) := by
    simp [whole]
  rw [hSpelled, pieces_of_placeholder? hCut, pieces_append_of_not_mem hOpen]
  rfl

theorem queryOf_expr : queryOf s.expr = "$." ++ s.text := by
  unfold queryOf expr
  dsimp only
  cases s.dollar with
  | true =>
    have hSpelled : String.ofList (['$', '.'] ++ s.text.toList) = "$." ++ s.text := by
      rw [String.ofList_append, String.ofList_toList]
    simp only [if_true, hSpelled, isQuery_dollar]
  | false =>
    have hNoQuery : Path.isQuery s.text = false := by
      have hBare := s.bare
      unfold Path.isQuery
      split
      all_goals simp_all
    simp only [Bool.false_eq_true, if_false, List.nil_append, String.ofList_toList, hNoQuery]

/-- The pieces that a placeholder and what stands behind it are cut into. -/
def cut : List Piece := .placeholder s.whole s.expr :: s.behind.val.map .literal

theorem pieces_slots (slots : List Slot) :
    pieces (slots.flatMap fun s => s.whole ++ s.behind.val) = slots.flatMap cut := by
  induction slots with
  | nil => exact pieces_nil
  | cons s rest ih =>
    rw [List.flatMap_cons, List.append_assoc, s.pieces_append, ih]
    rfl

end Slot

/-- A text with placeholders. -/
structure Mixture where
  front : Literal
  first : Slot
  rest : List Slot

namespace Mixture

variable (m : Mixture)

def slots : List Slot := m.first :: m.rest

def text : String := String.ofList (m.front.val ++ m.slots.flatMap fun s => s.whole ++ s.behind.val)

def IsLone : Prop := m.front.val = [] ∧ m.first.behind.val = [] ∧ m.rest = []

theorem pieces_text :
    pieces m.text.toList = m.front.val.map .literal ++ m.slots.flatMap Slot.cut := by
  have hOpen : '\x7b' ∉ m.front.val := fun hAmong => nomatch m.front.property _ hAmong
  rw [text, String.toList_ofList, pieces_append_of_not_mem hOpen, Slot.pieces_slots]

theorem fill_text (hLonger : ¬ m.IsLone) (scope : Json) : fill m.text scope = (do
    let text ← interpolate scope (m.slots.flatMap Slot.cut)
    pure (.value (.str (String.ofList m.front.val ++ text)))) := by
  have hAmong : .placeholder m.first.whole m.first.expr ∈ pieces m.text.toList := by
    rw [m.pieces_text]
    exact List.mem_append_right _
      (List.mem_flatMap.mpr ⟨m.first, List.mem_cons_self, List.mem_cons_self⟩)
  have hSeveral : pieces m.text.toList ≠ [.placeholder m.first.whole m.first.expr] := by
    rw [m.pieces_text]
    intro hSingle
    refine hLonger ?_
    have hLengths := congrArg List.length hSingle
    simp only [slots, Slot.cut, List.length_append, List.length_map, List.flatMap_cons,
      List.length_cons, List.length_nil] at hLengths
    refine ⟨List.eq_nil_of_length_eq_zero (by omega), List.eq_nil_of_length_eq_zero (by omega), ?_⟩
    cases hRest : m.rest with
    | nil => rfl
    | cons s more =>
      rw [hRest] at hLengths
      simp only [Slot.cut, List.flatMap_cons, List.cons_append, List.length_cons] at hLengths
      omega
  rw [fill_eq_interpolate hAmong hSeveral, m.pieces_text, interpolate_literals_append]
  simp

end Mixture

section Runs

open Program

variable {σ : Type} {serve : (r : Request) → σ → Reply r × σ} {scope : Json}

/-- What a found value is written as in a longer text: nothing where it is undefined, a text as it
is, and any other value as compact JSON. -/
inductive Stringified : Resolved → String → Prop where
  | undefined : Stringified .undefined ""
  | text (t : String) : Stringified (.value (.str t)) t
  | other {v : Json} (hv : ∀ t, v ≠ .str t) : Stringified (.value v) v.render

theorem Stringified.inText_eq {r : Resolved} {t : String} (h : Stringified r t) : r.inText = t := by
  cases h with
  | undefined => rfl
  | text t => rfl
  | @other v hv =>
    cases v with
    | str t => exact absurd rfl (hv t)
    | _ => rfl

variable (serve scope) in
/-- The texts of what the paths lead to, each followed by the piece behind the placeholder. -/
inductive Filled : σ → List Slot → String → σ → Prop where
  | nil (st : σ) : Filled st [] "" st
  | cons {st st' st'' : σ} {s : Slot} {rest : List Slot} {r : Resolved} {shown text : String}
      (hFound : run serve (resolve ("$." ++ s.text) scope true).run st = (.ok r, st'))
      (hShown : Stringified r shown) (hRest : Filled st' rest text st'') :
      Filled st (s :: rest) (shown ++ (String.ofList s.behind.val ++ text)) st''

theorem run_pieceText {s : Slot} {r : Resolved} {shown : String} {st st' : σ}
    (hFound : run serve (resolve ("$." ++ s.text) scope true).run st = (.ok r, st'))
    (hShown : Stringified r shown) :
    run serve (pieceText scope (.placeholder s.whole s.expr)).run st = (.ok shown, st') := by
  have hResolved : run serve (resolvePlaceholder s.expr scope).run st = (.ok (some r), st') := by
    apply EngineProgram.run_recover_ok
    rw [s.queryOf_expr, map_eq_pure_bind, run_bind_ok serve hFound]
    rfl
  rw [← hShown.inText_eq]
  exact (run_bind_ok serve hResolved).trans rfl

theorem run_interpolate {slots : List Slot} {text : String} {st st' : σ}
    (hFilled : Filled serve scope st slots text st') :
    run serve (interpolate scope (slots.flatMap Slot.cut)).run st = (.ok text, st') := by
  induction hFilled with
  | nil st => rfl
  | @cons st st' st'' s rest r shown text hFound hShown _ ih =>
    have hBehind :
        run serve (interpolate scope (s.behind.val.map .literal ++ rest.flatMap Slot.cut)).run st' =
        (.ok (String.ofList s.behind.val ++ text), st'') := by
      rw [interpolate_literals_append, run_bind_ok serve ih]
      rfl
    rw [List.flatMap_cons, Slot.cut, List.cons_append, interpolate,
      run_bind_ok serve (run_pieceText hFound hShown), run_bind_ok serve hBehind]
    rfl

/-- Rendering a text with placeholders puts the texts of what they lead to in their places, if the
text so made is no expression and has no placeholder itself. -/
theorem interpolation_concatenates (m : Mixture) (hLonger : ¬ m.IsLone) {text : String} {st st' : σ}
    (hFilled : Filled serve scope st m.slots text st')
    (hNoQuery : Path.isQuery (String.ofList m.front.val ++ text) = false)
    (hNoPlaceholder : (pieces (String.ofList m.front.val ++ text).toList).any isPlaceholder = false)
    (maxDepth : Nat) : run serve (renderText maxDepth m.text scope).run st =
      (.ok (.value (.str (String.ofList m.front.val ++ text))), st') := by
  have hFinal : needsRendering (String.ofList m.front.val ++ text) = false := by
    rw [needsRendering, hNoQuery, hNoPlaceholder]
    rfl
  have hMade : run serve (roundOf m.text scope).run st =
      (.ok (.value (.str (String.ofList m.front.val ++ text))), st') := by
    have hFirst : run serve (fill m.text scope).run st =
        (.ok (.value (.str (String.ofList m.front.val ++ text))), st') := by
      rw [m.fill_text hLonger, run_bind_ok serve (run_interpolate hFilled)]
      rfl
    rw [roundOf, run_bind_ok serve hFirst, follow_of_not_query hNoQuery]
    rfl
  refine run_renderRounds_of_ends maxDepth maxDepth ⟨hMade, ?_⟩
  rintro r ⟨⟩
  apply nextText?_eq_none
  rintro next ⟨⟩
  exact .inr hFinal

end Runs

section Letters

def Slot.ofName (dollar : Bool) (name behind : String) (hName : Path.IsName name)
    (hBare : name.toList.head? ≠ some '$') (hBehind : behind.toList.any isBrace = false) :
    Slot where
  before := ⟨[' '], List.all_eq_true.mp rfl⟩
  dollar := dollar
  text := name
  path := [.key name]
  after := ⟨[], List.forall_mem_nil _⟩
  behind := ⟨behind.toList, braceless hBehind⟩
  reads := Path.ofText?_name hName
  plain c hc := by
    have hClass := hName.2 c hc
    cases hBrace : isBrace c with
    | false => rfl
    | true =>
      simp only [isBrace, Bool.or_eq_true, decide_eq_true_eq] at hBrace
      rcases hBrace with rfl | rfl
      · exact absurd hClass (by decide +kernel)
      · exact absurd hClass (by decide +kernel)
  bare := hBare

def adaScope : Json := .obj [
  ("name", .str "Ada"),
  ("tags", .arr [.str "new", .null, .num (.int 2)]),
  ("active", .bool true),
  ("limits", .obj [("max", .num (.int 5))]),
  ("agent", .null)]

/-- A greeting that asks for a text, a list, a boolean, an object, a null and what the scope does
not hold. -/
def letter : Mixture where
  front := ⟨"Dear ".toList, braceless (by decide +kernel)⟩
  first :=
    .ofName false "name" ", tags " (by decide +kernel) (by decide +kernel) (by decide +kernel)
  rest := [
    .ofName true "tags" ", active " (by decide +kernel) (by decide +kernel) (by decide +kernel),
    .ofName false "active" ", limits " (by decide +kernel) (by decide +kernel) (by decide +kernel),
    .ofName false "limits" ", agent " (by decide +kernel) (by decide +kernel) (by decide +kernel),
    .ofName false "agent" ", phone " (by decide +kernel) (by decide +kernel) (by decide +kernel),
    .ofName false "phone" "." (by decide +kernel) (by decide +kernel) (by decide +kernel)]

def desk : Host where
  clock := ⟨0, 0⟩

theorem resolve_missing {name : String} (hName : Path.IsName name) {scope : Json}
    (hScope : Pointer.ofJson? scope = none) (hMissing : (Segment.key name).of? scope = none) :
    resolve ("$." ++ name) scope true = pure .undefined := by
  rw [resolve_of_ofText? (Path.ofText?_name hName), Path.walk_true_cons, hydrate_of_none hScope,
    pure_bind, hMissing]

def filledLetter : String :=
  "Dear Ada, tags [\"new\",null,2], active true, limits \x7b\"max\":5\x7d, agent null, phone ."

/-- Texts stand in the letter as they are, other values as compact JSON, and nothing stands for the
phone. -/
theorem letter_interpolated :
    letter.text = "Dear \x7b\x7b name\x7d\x7d, tags \x7b\x7b $.tags\x7d\x7d, " ++
      "active \x7b\x7b active\x7d\x7d, limits \x7b\x7b limits\x7d\x7d, " ++
      "agent \x7b\x7b agent\x7d\x7d, phone \x7b\x7b phone\x7d\x7d." ∧
      ¬ letter.IsLone ∧ Program.run Host.serve (renderText 10 letter.text adaScope).run desk =
        (.ok (.value (.str filledLetter)), desk) := by
  have hFound (name : String) (v : Json) (hName : Path.IsName name)
    (hOrdinary : name ≠ "objectStoreRef")
      (hv : (Segment.key name).of? adaScope = some v) (hPlain : Pointer.ofJson? v = none) :
      Program.run Host.serve (resolve ("$." ++ name) adaScope true).run desk =
        (.ok (.value v), desk) := by
    rw [resolve_dollar hName hOrdinary hv hPlain]
    rfl
  have hPhone : Program.run Host.serve (resolve ("$." ++ "phone") adaScope true).run desk =
      (.ok .undefined, desk) := by
    rw [resolve_missing (by decide +kernel) rfl rfl]
    rfl
  have hFilled : ∃ text, Filled Host.serve adaScope desk letter.slots text desk ∧
      String.ofList letter.front.val ++ text = filledLetter :=
    ⟨_, .cons (hFound "name" (.str "Ada") (by decide +kernel) (by decide) rfl rfl) (.text "Ada")
      (.cons (hFound "tags" (.arr [.str "new", .null, .num (.int 2)]) (by decide +kernel)
      (by decide) rfl rfl)
        (.other nofun)
      (.cons (hFound "active" (.bool true) (by decide +kernel) (by decide) rfl rfl) (.other nofun)
      (.cons (hFound "limits" (.obj [("max", .num (.int 5))]) (by decide +kernel)
      (by decide) rfl rfl)
        (.other nofun)
      (.cons (hFound "agent" .null (by decide +kernel) (by decide) rfl rfl) (.other nofun)
      (.cons hPhone .undefined (.nil desk)))))), by decide +kernel⟩
  have hLonger : ¬ letter.IsLone := fun hLone => absurd hLone.1 (by decide +kernel)
  obtain ⟨text, hFilled, hText⟩ := hFilled
  have hQuery : Path.isQuery (String.ofList letter.front.val ++ text) = false := by
    rw [hText]
    decide +kernel
  have hMarks : (pieces (String.ofList letter.front.val ++ text).toList).any isPlaceholder =
    false := by
    rw [hText]
    decide +kernel
  have hSpelled : letter.text = "Dear \x7b\x7b name\x7d\x7d, tags \x7b\x7b $.tags\x7d\x7d, " ++
      "active \x7b\x7b active\x7d\x7d, limits \x7b\x7b limits\x7d\x7d, " ++
      "agent \x7b\x7b agent\x7d\x7d, phone \x7b\x7b phone\x7d\x7d." := by decide +kernel
  rw [← hText]
  exact ⟨hSpelled, hLonger, interpolation_concatenates letter hLonger hFilled hQuery hMarks 10⟩

end Letters

end Template

end Stepwise
