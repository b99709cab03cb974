import Stepwise.Proofs.Provenance.Vocabulary

/-!
# Evaluation on honest documents

Evaluating expressions of a vocabulary on honest documents: only known places are read, and the
values are honest.
-/

namespace Stepwise

set_option autoImplicit false

open Program

variable {words : Words} {places : Pointer → Prop}

abbrev EngineProgram.Yields {α : Type} (words : Words) (places : Pointer → Prop) (P : α → Prop)
    (p : EngineProgram α) : Prop :=
  Keeps (honestTerms words places) P (fun _ => True) p

section Resolving

theorem Resolved.Honest.orNull {r : Resolved} (h : r.Honest words places) :
    r.orNull.Honest words places := by
  cases r with
  | undefined => exact Json.every_null
  | value v => exact h

theorem hydrate_yields {v : Json} (h : v.Honest words places) :
    EngineProgram.Yields words places (Json.Honest words places) (hydrate v) := by
  unfold hydrate
  split
  · exact keeps_pure h
  · next p hPointer =>
    have hRead : EngineProgram.Yields words places
        (fun content => ∀ v, Json.parse content = some v → v.Honest words places)
        (EngineProgram.getObject p.container p.key) := by
      refine confined_request (.getObject p.container p.key)
        (h.place hPointer) fun reply hPromised => ?_
      cases reply with
      | ok content => exact fun v => hPromised content v rfl
      | error e => trivial
    refine hRead.bind fun content hAgain => ?_
    split
    · next w hParsed => exact keeps_pure (hAgain w hParsed)
    · exact keeps_throw trivial

theorem hydrateIf_yields {v : Json} (h : v.Honest words places) (hydrating : Bool) :
    EngineProgram.Yields words places (Json.Honest words places) (hydrateIf hydrating v) := by
  unfold hydrateIf
  split
  · exact hydrate_yields h
  · exact keeps_pure h

theorem Segment.honest_of? {s : Segment} {v w : Json} (h : v.Honest words places)
    (hFound : s.of? v = some w) :
    w.Honest words places := by
  unfold of? at hFound
  split at hFound
  · exact h.values _ (Dict.mem_of_get? hFound)
  · exact Json.every_arr_iff.mp h w (List.mem_of_getElem? hFound)
  · cases hFound

theorem Path.walk_yields {v : Json} (h : v.Honest words places) (path : Path) (hydrating : Bool) :
    EngineProgram.Yields words places (Resolved.Honest words places) (path.walk hydrating v) := by
  induction path generalizing v with
  | nil => exact (hydrateIf_yields h hydrating).bind fun w hw => keeps_pure hw
  | cons s rest ih =>
    refine (hydrateIf_yields h hydrating).bind fun w hw => ?_
    split
    · next x hFound => exact ih (Segment.honest_of? hw hFound)
    · exact keeps_pure trivial

theorem resolve_yields {document : Json} (h : document.Honest words places) {expr : String}
    (hExpr : Evaluable words expr) (hydrating : Bool) :
    EngineProgram.Yields words places (Resolved.Honest words places)
    (resolve expr document hydrating) := by
  unfold resolve
  split
  · next hQuery =>
    split
    · next path _ => exact Path.walk_yields h path hydrating
    · next hComplex =>
      have hFound : EngineProgram.Yields words places (Resolved.Honest words places)
          (EngineProgram.ofExcept (search expr document)) := by
        refine keeps_done ?_
        cases hValue : search expr document with
        | error e => trivial
        | ok r =>
          cases r with
          | undefined => trivial
          | value v => exact hExpr.tame hQuery hComplex places document v h hValue
      refine hFound.bind fun r hr => ?_
      cases r with
      | undefined => exact keeps_pure trivial
      | value v => exact (hydrateIf_yields hr hydrating).bind fun w hw => keeps_pure hw
  · next hPlain => exact keeps_pure
                     (Json.every_str_iff.mpr (hExpr.self (Bool.eq_false_iff.mpr hPlain)))

end Resolving

namespace Template

variable {s : Settings} (hWords : Vocabulary words s) {scope : Json} (h : scope.Honest words places)

theorem isQuery_queryOf (expr : List Char) : Path.isQuery (queryOf expr) = true := by
  unfold queryOf
  dsimp only
  split
  · next hQuery => exact hQuery
  · unfold Path.isQuery
    rw [String.toList_append]
    rfl

include h

theorem resolvePlaceholder_yields {expr : List Char} (hTame : Tame words (queryOf expr)) :
    EngineProgram.Yields words places (fun found => ∀ r ∈ found, r.Honest words places)
      (resolvePlaceholder expr scope) := by
  have hPlain : Path.isQuery (queryOf expr) = false → words.text (queryOf expr) := by
    rw [isQuery_queryOf]
    exact nofun
  refine Keeps.recover ((resolve_yields h ⟨hTame, hPlain⟩ true).map fun r hr => ?_) fun _ => ?_
  · rintro _ ⟨⟩
    exact hr
  · rintro _ ⟨⟩

theorem interpolate_yields {pieces : List Piece}
    (hTame : ∀ whole expr, .placeholder whole expr ∈ pieces → Tame words (queryOf expr)) :
    EngineProgram.Yields words places (Fills words pieces) (interpolate scope pieces) := by
  induction pieces with
  | nil => exact keeps_pure .nil
  | cons p rest ih =>
    have hOthers := ih fun whole expr hAmong => hTame whole expr (List.mem_cons_of_mem _ hAmong)
    cases p with
    | literal c =>
      have hFirst : EngineProgram.Yields words places (fun t => t = String.singleton c)
          (pieceText scope (.literal c)) := keeps_pure rfl
      refine hFirst.bind fun t hSame => hOthers.bind fun more hFills => ?_
      rw [hSame]
      exact keeps_pure (.literal hFills)
    | placeholder whole expr =>
      have hFirst : EngineProgram.Yields words places
          (fun t => ∀ more, Fills words rest more →
            Fills words (.placeholder whole expr :: rest) (t ++ more))
          (pieceText scope (.placeholder whole expr)) := by
        refine (resolvePlaceholder_yields h (hTame whole expr List.mem_cons_self)).bind fun found
          hFound => ?_
        cases found with
        | none => exact keeps_pure fun _ hFills => .kept hFills
        | some r =>
          have hHonest : r.Honest words fun _ => True := by
            have hGiven := hFound r rfl
            cases r with
            | undefined => trivial
            | value v => exact Json.Honest.mono hGiven fun _ _ => trivial
          exact keeps_pure fun _ hFills => .filled hHonest hFills
      exact hFirst.bind fun t ht => hOthers.bind fun more hFills => keeps_pure (ht more hFills)

include hWords

theorem fill_yields {template : String} (hAmong : words.text template) :
    EngineProgram.Yields words places (Resolved.Honest words places) (fill template scope) := by
  have hSelf : (Resolved.value (.str template)).Honest words places := Json.every_str_iff.mpr hAmong
  unfold fill
  split
  · next whole expr hSingle =>
    have hTame := hWords.placeholder hAmong (hSingle ▸ List.mem_singleton_self _)
    refine (resolvePlaceholder_yields h hTame).bind fun found hFound => keeps_pure ?_
    cases found with
    | none => exact hSelf
    | some r => exact hFound r rfl
  · next hSeveral =>
    split
    · refine (interpolate_yields h fun _ _ => hWords.placeholder hAmong).bind fun filled hFills =>
        ?_
      exact keeps_pure (Json.every_str_iff.mpr (hWords.interpolated hAmong hSeveral hFills))
    · exact keeps_pure hSelf

theorem follow_yields {filled : Resolved} (hFilled : filled.Honest words places) :
    EngineProgram.Yields words places (Resolved.Honest words places) (follow filled scope) := by
  unfold follow
  split
  · next t =>
    split
    · have hExpr := hWords.evaluable (Json.every_str_iff.mp hFilled)
      exact (resolve_yields h hExpr true).recover fun _ => hFilled
    · exact keeps_pure hFilled
  · exact keeps_pure hFilled

theorem renderRounds_yields (maxDepth rounds : Nat) {template : String}
    (hAmong : words.text template) :
    EngineProgram.Yields words places (Resolved.Honest words places)
      (renderRounds maxDepth rounds template scope) := by
  induction rounds generalizing template with
  | zero => exact keeps_throw trivial
  | succ rounds ih =>
    refine (fill_yields hWords h hAmong).bind fun filled hFilled => ?_
    refine (follow_yields hWords h hFilled).bind fun resolved hResolved => ?_
    split
    · next next_ =>
      split
      · exact ih (Json.every_str_iff.mp hResolved)
      · exact keeps_pure hResolved
    · exact keeps_pure hResolved

theorem renderText_yields (maxDepth : Nat) {template : String} (hAmong : words.text template) :
    EngineProgram.Yields words places (Resolved.Honest words places)
    (renderText maxDepth template scope) :=
  renderRounds_yields hWords h maxDepth _ hAmong

omit hWords h

def FieldsHonest (words : Words) (places : Pointer → Prop) (fields : List (String × Json)) : Prop :=
  ∀ e ∈ fields, e.1 ≠ Json.reference ∧ words.name e.1 ∧ e.2.Honest words places

theorem FieldsHonest.object {fields : List (String × Json)} (h : FieldsHonest words places fields) :
    (Json.obj fields).Honest words places := by
  cases fields with
  | nil => exact Json.honest_empty
  | cons e rest =>
    exact Json.honest_of_other List.mem_cons_self (h e List.mem_cons_self).1 fun x hx => (h x hx).2

mutual

theorem render_yields (hWords : Vocabulary words s) (h : scope.Honest words places)
    (maxDepth : Nat) :
    (t : Json) → t.Inert words →
    EngineProgram.Yields words places (Resolved.Honest words places) (render maxDepth scope t)
  | .null, _ => keeps_pure Json.every_null
  | .bool b, _ => keeps_pure (Json.every_bool b)
  | .num n, _ => keeps_pure (Json.every_num n)
  | .str _, ht => renderText_yields hWords h maxDepth (Json.every_str_iff.mp ht)
  | .arr items, ht =>
    (renderItems_yields hWords h maxDepth items (Json.every_arr_iff.mp ht)).bind fun _ hItems =>
      keeps_pure (Json.every_arr_iff.mpr hItems)
  | .obj fields, ht =>
    have hGiven := Json.every_obj_iff.mp ht
    (renderFields_yields hWords h maxDepth fields hGiven.1 hGiven.2).bind fun _ hFields =>
      keeps_pure hFields.object

theorem renderItems_yields (hWords : Vocabulary words s) (h : scope.Honest words places)
    (maxDepth : Nat) :
    (items : List Json) → (∀ v ∈ items, v.Inert words) →
    EngineProgram.Yields words places (fun rendered => ∀ v ∈ rendered, v.Honest words places)
      (renderItems maxDepth scope items)
  | [], _ => keeps_pure fun _ hAmong => nomatch hAmong
  | v :: rest, ht =>
    have ⟨hFirst, hOthers⟩ := List.forall_mem_cons.mp ht
    (render_yields hWords h maxDepth v hFirst).bind fun _ hr =>
      (renderItems_yields hWords h maxDepth rest hOthers).bind fun _ hMore =>
        keeps_pure (List.forall_mem_cons.mpr ⟨hr.orNull, hMore⟩)

theorem renderFields_yields (hWords : Vocabulary words s) (h : scope.Honest words places)
    (maxDepth : Nat) :
    (fields : List (String × Json)) → (∀ e ∈ fields, e.1 ≠ Json.reference ∧ words.name e.1) →
    (∀ e ∈ fields, e.2.Inert words) →
    EngineProgram.Yields words places (FieldsHonest words places)
    (renderFields maxDepth scope fields)
  | [], _, _ => keeps_pure fun _ hAmong => nomatch hAmong
  | (k, v) :: rest, hNames, ht => by
    obtain ⟨hOther, hNames⟩ := List.forall_mem_cons.mp hNames
    obtain ⟨hFirst, hOthers⟩ := List.forall_mem_cons.mp ht
    refine (render_yields hWords h maxDepth v hFirst).bind fun r hr => ?_
    refine (renderFields_yields hWords h maxDepth rest hNames hOthers).bind fun more hMore => ?_
    cases r with
    | undefined => exact keeps_pure hMore
    | value w => exact keeps_pure (List.forall_mem_cons.mpr ⟨⟨hOther.1, hOther.2, hr⟩, hMore⟩)

end

end Template

namespace Condition

variable {scope : Json} (h : scope.Honest words places)

include h

end Condition

end Stepwise
