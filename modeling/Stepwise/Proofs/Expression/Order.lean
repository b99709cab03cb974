import Stepwise.Expression.Template
import Stepwise.Proofs.Program.Ensures
import Stepwise.Proofs.Query.Literals

/-!
# Rendering keeps documents in normal form

Expressions and templates on documents in normal form give documents in normal form, whatever is
behind the pointers on the way: a stored text is put in order when it is parsed.
-/

namespace Stepwise

set_option autoImplicit false

open Program

variable {allowed : Allowed}

abbrev EngineProgram.Gives {α : Type} (allowed : Allowed) (P : α → Prop) (p : EngineProgram α) :
    Prop :=
  Ensures allowed P (fun _ => True) p

def Resolved.Normal : Resolved → Prop
  | .undefined => True
  | .value v => v.Normal

theorem Resolved.Normal.orNull {r : Resolved} (h : r.Normal) : r.orNull.Normal := by
  cases r with
  | undefined => exact Json.normal_null
  | value v => exact h

section Resolving

theorem hydrate_normal {v : Json} (h : v.Normal) :
    EngineProgram.Gives allowed Json.Normal (hydrate v) := by
  unfold hydrate
  split
  · exact ensures_pure h
  · refine Ensures.bind (ensures_true fun _ => trivial) fun text _ => ?_
    split
    · next w hRead => exact ensures_pure (Json.normal_parse hRead)
    · exact ensures_throw trivial

theorem hydrateIf_normal {v : Json} (h : v.Normal) (hydrating : Bool) :
    EngineProgram.Gives allowed Json.Normal (hydrateIf hydrating v) := by
  unfold hydrateIf
  split
  · exact hydrate_normal h
  · exact ensures_pure h

theorem Segment.normal_of? {s : Segment} {v w : Json} (h : v.Normal) (hFound : s.of? v = some w) :
    w.Normal := by
  unfold of? at hFound
  split at hFound
  · exact (Json.normal_obj_iff.mp h).of_get? hFound
  · exact Json.normal_arr_iff.mp h w (List.mem_of_getElem? hFound)
  · cases hFound

theorem Path.walk_normal {v : Json} (h : v.Normal) (path : Path) (hydrating : Bool) :
    EngineProgram.Gives allowed Resolved.Normal (path.walk hydrating v) := by
  induction path generalizing v with
  | nil => exact (hydrateIf_normal h hydrating).bind fun w hw => ensures_pure hw
  | cons s rest ih =>
    refine (hydrateIf_normal h hydrating).bind fun w hw => ?_
    split
    · next x hFound => exact ih (Segment.normal_of? hw hFound)
    · exact ensures_pure trivial

theorem search_normal {document : Json} (h : document.Normal) (expr : String) :
    Meets Resolved.Normal (fun _ => True) (search expr document) := by
  unfold search
  split
  · trivial
  · split
    · trivial
    · next query hRead =>
      split
      · trivial
      · trivial
      · next v _ hFound =>
        exact Query.normal_search (Query.Expr.normal_ofText? hRead) h hFound

theorem resolve_normal {document : Json} (h : document.Normal) (expr : String) (hydrating : Bool) :
    EngineProgram.Gives allowed Resolved.Normal (resolve expr document hydrating) := by
  unfold resolve
  split
  · split
    · next path _ => exact Path.walk_normal h path hydrating
    · refine Ensures.bind (ensures_done (search_normal h expr)) fun found hFound => ?_
      split
      · exact ensures_pure trivial
      · exact (hydrateIf_normal hFound hydrating).bind fun w hw => ensures_pure hw
  · exact ensures_pure (Json.normal_str expr)

end Resolving

namespace Template

section Rounds

variable {scope : Json} (h : scope.Normal)

include h

theorem resolvePlaceholder_normal (expr : List Char) :
    EngineProgram.Gives allowed (fun found => ∀ r ∈ found, r.Normal)
    (resolvePlaceholder expr scope) := by
  refine Ensures.recover ((resolve_normal h _ true).map fun r hr => ?_) fun _ => ?_
  · rintro _ ⟨⟩
    exact hr
  · rintro _ ⟨⟩

theorem fill_normal (template : String) :
    EngineProgram.Gives allowed Resolved.Normal (fill template scope) := by
  unfold fill
  split
  · refine (resolvePlaceholder_normal h _).bind fun found hFound => ensures_pure ?_
    cases found with
    | none => exact Json.normal_str template
    | some r => exact hFound r rfl
  · split
    · exact Ensures.bind (ensures_true fun _ => trivial) fun s _ => ensures_pure (Json.normal_str s)
    · exact ensures_pure (Json.normal_str template)

theorem follow_normal {filled : Resolved} (hFilled : filled.Normal) :
    EngineProgram.Gives allowed Resolved.Normal (follow filled scope) := by
  unfold follow
  split
  · next s =>
    split
    · exact (resolve_normal h s true).recover fun _ => Json.normal_str s
    · exact ensures_pure hFilled
  · exact ensures_pure hFilled

theorem renderRounds_normal (maxDepth rounds : Nat) (template : String) :
    EngineProgram.Gives allowed Resolved.Normal (renderRounds maxDepth rounds template scope) := by
  induction rounds generalizing template with
  | zero => exact ensures_throw trivial
  | succ rounds ih =>
    refine (fill_normal h template).bind fun filled hFilled => ?_
    refine (follow_normal h hFilled).bind fun resolved hResolved => ?_
    split
    · split
      · exact ih _
      · exact ensures_pure hResolved
    · exact ensures_pure hResolved

theorem renderText_normal (maxDepth : Nat) (template : String) :
    EngineProgram.Gives allowed Resolved.Normal (renderText maxDepth template scope) :=
  renderRounds_normal h maxDepth _ template

end Rounds

/-- Of the fields, some are left, each with a value in normal form. -/
structure Renders (fields rendered : List (String × Json)) : Prop where
  names : (rendered.map Prod.fst).Sublist (fields.map Prod.fst)
  values : ∀ e ∈ rendered, e.2.Normal

theorem Renders.normal {fields rendered : List (String × Json)} (h : Renders fields rendered)
    (hGiven : Dict.Normal fields) : Dict.Normal rendered := by
  have hSorted : (fields.map Prod.fst).Pairwise (· < ·) := List.pairwise_map.mpr hGiven.sorted
  exact ⟨List.pairwise_map.mp (hSorted.sublist h.names), h.values⟩

section Documents

variable {scope : Json}

mutual

theorem render_normal (h : scope.Normal) (maxDepth : Nat) : (t : Json) → t.Normal →
    EngineProgram.Gives allowed Resolved.Normal (render maxDepth scope t)
  | .null, _ => ensures_pure Json.normal_null
  | .bool b, _ => ensures_pure (Json.normal_bool b)
  | .num n, _ => ensures_pure (Json.normal_num n)
  | .str s, _ => renderText_normal h maxDepth s
  | .arr items, ht =>
    (renderItems_normal h maxDepth items (Json.normal_arr_iff.mp ht)).bind fun _ hItems =>
      ensures_pure (Json.normal_arr_iff.mpr hItems)
  | .obj fields, ht =>
    have hGiven := Json.normal_obj_iff.mp ht
    (renderFields_normal h maxDepth fields hGiven.values).bind fun _ hFields =>
      ensures_pure (Json.normal_obj_iff.mpr (hFields.normal hGiven))

theorem renderItems_normal (h : scope.Normal) (maxDepth : Nat) : (items : List Json) →
    (∀ v ∈ items, v.Normal) →
    EngineProgram.Gives allowed (fun rendered => ∀ v ∈ rendered, v.Normal)
      (renderItems maxDepth scope items)
  | [], _ => ensures_pure fun _ hAmong => nomatch hAmong
  | v :: rest, ht =>
    have ⟨hFirst, hOthers⟩ := List.forall_mem_cons.mp ht
    (render_normal h maxDepth v hFirst).bind fun _ hr =>
      (renderItems_normal h maxDepth rest hOthers).bind fun _ hMore =>
        ensures_pure (List.forall_mem_cons.mpr ⟨hr.orNull, hMore⟩)

theorem renderFields_normal (h : scope.Normal) (maxDepth : Nat) : (fields : List (String × Json)) →
    (∀ e ∈ fields, e.2.Normal) →
    EngineProgram.Gives allowed (Renders fields) (renderFields maxDepth scope fields)
  | [], _ => ensures_pure ⟨List.Sublist.refl _, fun _ hAmong => nomatch hAmong⟩
  | (k, v) :: rest, ht => by
    obtain ⟨hFirst, hOthers⟩ := List.forall_mem_cons.mp ht
    refine (render_normal h maxDepth v hFirst).bind fun r hr => ?_
    refine (renderFields_normal h maxDepth rest hOthers).bind fun more hMore => ?_
    cases r with
    | undefined => exact ensures_pure ⟨hMore.names.cons k, hMore.values⟩
    | value w =>
      exact ensures_pure ⟨hMore.names.cons_cons k, List.forall_mem_cons.mpr ⟨hr, hMore.values⟩⟩

end

end Documents

end Template

end Stepwise
