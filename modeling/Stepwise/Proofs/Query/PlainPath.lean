import Stepwise.Proofs.Expression.Walk
import Stepwise.Proofs.Query.PlainText

/-!
# Queries for paths

The reader nests a name with the positions behind it, since brackets bind more strongly than dots,
and chains what the dots separate; a chain leads where the path leads.
-/

namespace Stepwise

set_option autoImplicit false

open Query

namespace PlainPath

open PlainSegment

section Meaning

/-- The expression gives what the path leads to, and null where it leads to nothing. -/
def Leads (e : Expr) (path : Path) : Prop :=
  ∀ d, eval e d = .ok (.data ((path.find? d).getD .null))

theorem find?_append (p q : Path) (d : Json) : (p ++ q).find? d = (p.find? d).bind q.find? := by
  induction p generalizing d with
  | nil => rfl
  | cons s rest ih =>
    rw [List.cons_append, Path.find?, Path.find?]
    cases s.of? d with
    | none => rfl
    | some w => exact ih w

theorem find?_null (q : Path) : (q.find? .null).getD .null = .null := by
  cases q with
  | nil => rfl
  | cons s rest => cases s <;> rfl

theorem leads_identity : Leads .identity [] := fun _ => rfl

theorem leads_field (name : String) : Leads (.field name) [.key name] := by
  intro d
  cases d with
  | obj fields =>
    rw [eval, Path.find?, Json.field?, Segment.of?]
    cases Dict.get? fields name <;> rfl
  | _ => rfl

theorem leads_index (i : Nat) : Leads (.index i) [.index i] := by
  intro d
  cases d with
  | arr items =>
    have hCounted : (0 : Int) ≤ i := Int.natCast_nonneg i
    rw [eval, itemAt, if_pos hCounted, Int.toNat_natCast, Path.find?, Segment.of?]
    cases items[i]? <;> rfl
  | _ => rfl

/-- Behind a missing part everything is missing, and behind null everything is null. -/
theorem leads_chain {a b : Expr} {p q : Path} (hFirst : Leads a p) (hSecond : Leads b q) :
    Leads (.chain a b) (p ++ q) := by
  intro d
  have hComposed : eval (.chain a b) d = eval b ((p.find? d).getD .null) := by
    rw [eval, hFirst d]
    rfl
  rw [hComposed, hSecond, find?_append]
  cases p.find? d with
  | none => exact congrArg (fun v => Except.ok (Value.data v)) (find?_null q)
  | some w => rfl

end Meaning

section Parsing

variable {left : Expr} {p : Path}

theorem readIndex_position (i : Nat) (steps : Nat) (ts : List Token) :
    readIndex (steps + 1) (.number i :: .rightBracket :: ts) = some (.index i, ts) := by
  rw [readIndex]
  rfl

theorem readMore_stop {steps power : Nat} {ts : List Token} (h : (peek ts).power ≤ power) :
    readMore (steps + 1) power left ts = some (left, ts) := by
  rw [readMore, if_neg (Nat.not_lt.mpr h)]

theorem readMore_bracket {steps power : Nat} (h : power < Token.leftBracket.power) (i : Nat)
    (ts : List Token) :
    readMore (steps + 3) power left (.leftBracket :: .number i :: .rightBracket :: ts) =
      readMore (steps + 2) power (.chain left (.index i)) ts := by
  have hExtended :
      readExtension (steps + 2) left (.leftBracket :: .number i :: .rightBracket :: ts) =
      some (.chain left (.index i), ts) := by
    rw [readExtension, readIndex_position]
    rfl
  have hBinds : power < (peek (.leftBracket :: .number i :: .rightBracket :: ts)).power := h
  rw [readMore, if_pos hBinds, hExtended]

theorem readMore_positions (power : Nat) (h : power < Token.leftBracket.power)
    (path : List PlainSegment) (hPositions : ∀ s ∈ path, s.isPosition = true)
    (hLeads : Leads left p) {ts : List Token} (hStops : (peek ts).power ≤ power) (steps : Nat)
    (hEnough : path.length + 3 ≤ steps) :
    ∃ e, readMore steps power left (tokens path ++ ts) = some (e, ts) ∧
      Leads e (p ++ path.map PlainSegment.segment) := by
  induction path generalizing left p steps with
  | nil =>
    obtain ⟨steps, rfl⟩ := Nat.exists_eq_add_of_le' hEnough
    exact ⟨left, readMore_stop hStops, by simpa using hLeads⟩
  | cons s rest ih =>
    cases s with
    | name n => cases hPositions _ List.mem_cons_self
    | position digits hNonempty hSmall =>
      obtain ⟨steps, rfl⟩ := Nat.exists_eq_add_of_le' (Nat.le_trans (Nat.le_add_left 3 _) hEnough)
      have hLonger : rest.length + 3 ≤ steps + 2 := by
        simp only [List.length_cons] at hEnough
        omega
      obtain ⟨e, hRead, hFollows⟩ :=
        ih (fun s hMember => hPositions s (List.mem_cons_of_mem _ hMember))
        (leads_chain hLeads (leads_index (Text.natOfDigits digits.val))) _ hLonger
      refine ⟨e, ?_, by simpa [PlainSegment.segment] using hFollows⟩
      rw [tokens_cons]
      exact (readMore_bracket h _ _).trans hRead

/-- A name behind a dot takes the positions behind it along. -/
theorem readMore_name {n : PlainName} {steps : Nat} {ts rest : List Token} {e : Expr}
    (hRead : readMore (steps + 1) Token.dot.power (.field n.text) ts = some (e, rest)) :
    readMore (steps + 5) 0 left (.dot :: .identifier n.text :: ts) =
      readMore (steps + 4) 0 (.chain left e) rest := by
  have hNamed : readExpr (steps + 2) Token.dot.power (.identifier n.text :: ts) =
    some (e, rest) := by
    rw [readExpr, readOperand]
    exact hRead
  have hExtended : readExtension (steps + 4) left (.dot :: .identifier n.text :: ts) =
      some (.chain left e, rest) := by
    rw [readExtension, readMember, hNamed]
    · rfl
    · intro _ hShape
      cases hShape
  have hBinds : 0 < (peek (.dot :: .identifier n.text :: ts)).power := by
    show 0 < Token.dot.power
    decide
  rw [readMore, if_pos hBinds, hExtended]

/-- Behind the positions at the start of a path comes a dot or the end. -/
theorem exists_positions (path : List PlainSegment) :
    ∃ positions others, path = positions ++ others ∧
    (∀ s ∈ positions, s.isPosition = true) ∧
    (peek (tokens others ++ [.eof])).power ≤ Token.dot.power := by
  induction path with
  | nil => exact ⟨[], [], rfl, by simp, by decide⟩
  | cons s rest ih =>
    cases s with
    | name n => exact ⟨[], .name n :: rest, rfl, by simp, Nat.le_refl _⟩
    | position digits hNonempty hSmall =>
      obtain ⟨positions, others, rfl, hAll, hStops⟩ := ih
      refine ⟨.position digits hNonempty hSmall :: positions, others, rfl, ?_, hStops⟩
      intro s hMember
      rcases List.mem_cons.mp hMember with rfl | hMember
      · rfl
      · exact hAll s hMember

/-- Segments extend the expression before them up to the end. -/
theorem readMore_path (path : List PlainSegment) {left : Expr} {p : Path} (hLeads : Leads left p)
    (steps : Nat) (hEnough : path.length + 8 ≤ steps) :
    ∃ e, readMore steps 0 left (tokens path ++ [.eof]) = some (e, [.eof]) ∧
      Leads e (p ++ path.map PlainSegment.segment) := by
  induction h : path.length using Nat.strongRecOn generalizing path left p steps with
  | _ length ih =>
    cases path with
    | nil =>
      obtain ⟨steps, rfl⟩ := Nat.exists_eq_add_of_le' hEnough
      exact ⟨left, readMore_stop (Nat.le_refl 0), by simpa using hLeads⟩
    | cons s rest =>
      simp only [List.length_cons] at hEnough h
      obtain ⟨steps, rfl⟩ := Nat.exists_eq_add_of_le' (Nat.le_trans (by omega : 5 ≤ _) hEnough)
      cases s with
      | position digits hNonempty hSmall =>
        obtain ⟨e, hRead, hFollows⟩ := ih rest.length (by omega) rest
          (leads_chain hLeads (leads_index (Text.natOfDigits digits.val))) (steps + 4)
          (by omega) rfl
        refine ⟨e, ?_, by simpa [PlainSegment.segment] using hFollows⟩
        rw [tokens_cons]
        exact (readMore_bracket (by decide) _ _).trans hRead
      | name n =>
        obtain ⟨positions, others, rfl, hAll, hStops⟩ := exists_positions rest
        rw [List.length_append] at hEnough h
        obtain ⟨e, hRead, hFollows⟩ := readMore_positions Token.dot.power (by decide) positions hAll
          (leads_field n.text) hStops (steps + 1) (by omega)
        obtain ⟨e', hRead', hFollows'⟩ := ih others.length (by omega) others
          (leads_chain hLeads hFollows) (steps + 4) (by omega) rfl
        refine ⟨e', ?_, by simpa [PlainSegment.segment] using hFollows'⟩
        rw [tokens_cons, tokens_append, List.append_assoc, List.append_assoc]
        exact (readMore_name hRead).trans hRead'

theorem length_le_tokens (path : List PlainSegment) : path.length ≤ (tokens path).length := by
  induction path with
  | nil => exact Nat.le_refl _
  | cons s rest ih =>
    rw [tokens_cons, List.length_append, List.length_cons]
    cases s <;> simp only [PlainSegment.tokens, List.length_cons, List.length_nil] <;> omega

/-- The query of a path leads where the path leads. -/
theorem readExpr_path (path : List PlainSegment) {steps : Nat}
    (hEnough : path.length + 10 ≤ steps) :
    ∃ e, readExpr steps 0 (queryTokens path ++ [.eof]) = some (e, [.eof]) ∧
      Leads e (path.map PlainSegment.segment) := by
  obtain ⟨steps, rfl⟩ := Nat.exists_eq_add_of_le' (Nat.le_trans (by omega : 3 ≤ _) hEnough)
  cases path with
  | nil =>
    refine ⟨.identity, ?_, leads_identity⟩
    rw [queryTokens, readExpr, List.cons_append, readOperand]
    exact readMore_stop (Nat.le_refl _)
  | cons s rest =>
    simp only [List.length_cons] at hEnough
    cases s with
    | name n =>
      obtain ⟨e, hRead, hLeads⟩ := readMore_path rest (leads_field n.text) (steps + 2) (by omega)
      refine ⟨e, ?_, hLeads⟩
      rw [queryTokens, readExpr, List.cons_append, readOperand]
      exact hRead
    | position digits hNonempty hSmall =>
      obtain ⟨e, hRead, hLeads⟩ := readMore_path rest
        (leads_index (Text.natOfDigits digits.val)) (steps + 2) (by omega)
      refine ⟨e, ?_, hLeads⟩
      have hFirst :
          readOperand (steps + 2)
            (queryTokens (.position digits hNonempty hSmall :: rest) ++ [.eof]) =
          some (.index (Text.natOfDigits digits.val), tokens rest ++ [.eof]) := by
        show readOperand (steps + 2)
          (.leftBracket :: .number _ :: .rightBracket :: (tokens rest ++ [.eof])) = _
        rw [readOperand, readIndex_position]
      rw [readExpr, hFirst]
      exact hRead

theorem length_le_queryTokens (path : List PlainSegment) :
    path.length ≤ (queryTokens path).length := by
  cases path with
  | nil => exact Nat.zero_le _
  | cons s rest =>
    cases s with
    | name n => exact Nat.succ_le_succ (length_le_tokens rest)
    | position digits hNonempty hSmall => exact length_le_tokens _

theorem ofText?_query (path : List PlainSegment) :
    ∃ e, Expr.ofText? (QueryText.ofExpression (text path)) = some e ∧
      Leads e (path.map PlainSegment.segment) := by
  have hEnough : path.length + 10 ≤ stepsFor (queryTokens path ++ [.eof]) := by
    have := length_le_queryTokens path
    simp only [stepsFor, List.length_append, List.length_singleton]
    omega
  obtain ⟨e, hRead, hLeads⟩ := readExpr_path path hEnough
  refine ⟨e, ?_, hLeads⟩
  rw [Expr.ofText?, ofExpression_text, String.toList_ofList, scan_queryChars, Option.bind_some,
    ofTokens?, hRead]

end Parsing

/-- What the query language makes of a document: null counts as nothing. -/
def nullAsNothing : Json → Resolved
  | .null => .undefined
  | v => .value v

theorem search_eq (path : List PlainSegment) (document : Json) : search (text path) document =
    .ok (nullAsNothing ((Path.find? (path.map PlainSegment.segment) document).getD .null)) := by
  obtain ⟨e, hParsed, hLeads⟩ := ofText?_query path
  rw [search, isRecursive_text, hParsed]
  simp only [Bool.false_eq_true, if_false, Query.search, hLeads document, Except.map, Value.toJson]
  split
  · rename_i h
    cases h
  · rename_i h
    rw [Except.ok.inj h]
    rfl
  · rename_i v hOther h
    rw [Except.ok.inj h, nullAsNothing]
    exact fun hNull => hOther (by rw [hNull])

/-- On a path that both know, the query language and following the path agree: the query always
gives an answer, which is nothing exactly where the path leads to nothing or to null, and else the
value that the path leads to. -/
theorem search_text (path : List PlainSegment) (document : Json) :
    ∃ found, search (text path) document = .ok found ∧
      ∃ segments walked, Path.ofText? (text path) = some segments ∧
        segments.walk false document = pure walked ∧
        (found = .undefined ↔ walked = .undefined ∨ walked = .value .null) ∧
        (found ≠ .undefined → found = walked) := by
  refine ⟨_, search_eq path document, _, _, ofText?_text path, Path.walk_false _ document, ?_⟩
  cases Path.find? (path.map PlainSegment.segment) document with
  | none => simp [nullAsNothing, Resolved.ofOption]
  | some v => cases v <;> simp [nullAsNothing, Resolved.ofOption]

end PlainPath

end Stepwise
