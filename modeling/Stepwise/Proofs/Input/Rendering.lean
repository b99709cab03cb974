import Mathlib.Data.List.Forall2
import Stepwise.Engine.Input
import Stepwise.Flow.Codec
import Stepwise.Proofs.Json.Order
import Stepwise.Proofs.Program.Reach

/-!
# Lists in the input of a step

What the input of a step holds under the name of a mapping. A list is rendered item by item, unless
it is one of the short lists that are read as a source: a path, a path with a format, or a path with
a format and a separator.
-/

namespace Stepwise

set_option autoImplicit false

open Program

namespace Json

variable {α : Type} {f : Json → Option α}

theorem last?_readEntries {fields : List (String × Json)} {read : List (String × α)}
    (h : readEntries f fields = some read) (key : String) :
    Dict.last? read key = (Dict.last? fields key).bind f ∧
      ∀ v, Dict.last? fields key = some v → ∃ a, f v = some a := by
  induction fields generalizing read with
  | nil =>
    cases h
    exact ⟨rfl, fun _ hFound => nomatch hFound⟩
  | cons p rest ih =>
    obtain ⟨k, w⟩ := p
    simp only [readEntries, Option.bind_eq_bind, Option.bind_eq_some_iff, Option.some.injEq] at h
    obtain ⟨a, hFirst, more, hOthers, rfl⟩ := h
    obtain ⟨hSame, hReadable⟩ := ih hOthers
    simp only [Dict.last?_cons, hSame]
    cases hFound : Dict.last? rest key with
    | some v =>
      obtain ⟨b, hGiven⟩ := hReadable v hFound
      refine ⟨by simp [hGiven], ?_⟩
      rintro _ ⟨⟩
      exact ⟨b, hGiven⟩
    | none =>
      by_cases hHere : k = key
      · refine ⟨by simp [hHere, hFirst], fun v hLast => ⟨a, ?_⟩⟩
        obtain rfl : w = v := by simpa [hHere] using hLast
        exact hFirst
      · exact ⟨by simp [hHere], fun v hLast => by simp [hHere] at hLast⟩

theorem get?_dict? {fields : List (String × Json)} {d : Dict α} (h : dict? f (.obj fields) = some d)
    {key : String} {v : Json} (hGiven : Dict.last? fields key = some v) :
    ∃ a, f v = some a ∧ d.get? key = some a := by
  obtain ⟨read, hEach, rfl⟩ := Option.map_eq_some_iff.mp h
  obtain ⟨hSame, hReadable⟩ := last?_readEntries hEach key
  obtain ⟨a, hFound⟩ := hReadable v hGiven
  exact ⟨a, hFound, by rw [Dict.get?_ofList, hSame, hGiven, Option.bind_some, hFound]⟩

theorem get?_record?_obj {spec : List (String × Presence)} {fields : List (String × Json)}
    {r : Dict Json} (hOpened : record? spec (.obj fields) = some r) {name : String}
    (hKnown : name ∈ spec.map Prod.fst) :
    r.get? name = Dict.get? fields name := by
  simp only [record?] at hOpened
  split at hOpened
  · cases hOpened
    rw [Dict.get?_filter_name, if_pos (List.contains_iff_mem.mpr hKnown)]
  · cases hOpened

theorem sorted_defaulted {r : Dict Json} {name : String} {d : Dict α}
    (hRead : r.defaulted name [] (dict? f) = some d) : d.Sorted := by
  unfold Dict.defaulted at hRead
  split at hRead
  · cases hRead
    exact List.Pairwise.nil
  · exact sorted_dict? hRead

end Json

/-- The lists that name a source: a path, a path with a format, a path with a format and a
separator. -/
def SourceMapping.isNamedBy : List Json → Bool
  | [.str _] => true
  | [.str _, format] => (Json.choice? .loose OutputFormat.names format).isSome
  | [.str _, format, separator] =>
    (Json.choice? .loose OutputFormat.names format).isSome &&
    (separator = .null || separator.text?.isSome)
  | _ => false

theorem SourceMapping.isSome_ofJson?_arr (a : List Json) :
    (SourceMapping.ofJson? (.arr a)).isSome = isNamedBy a := by
  rcases a with _ | ⟨path, _ | ⟨format, _ | ⟨separator, _ | ⟨more, rest⟩⟩⟩⟩
  · rfl
  · cases path <;> rfl
  · cases path with
    | str path =>
      cases hChosen : Json.choice? .loose OutputFormat.names format <;>
        simp [ofJson?, Json.record?, Json.positional, Dict.required, Dict.defaulted, Dict.optional,
          Dict.get?, Json.text?, isNamedBy, hChosen]
    | _ => rfl
  · cases path with
    | str path =>
      cases hChosen : Json.choice? .loose OutputFormat.names format <;> cases separator <;>
        simp [ofJson?, Json.record?, Json.positional, Dict.required, Dict.defaulted, Dict.optional,
          Dict.get?, Json.text?, isNamedBy, hChosen]
    | _ => rfl
  · cases path <;> rfl

theorem InputMapping.ofJson?_arr {a : List Json} (hApart : SourceMapping.isNamedBy a = false) :
    InputMapping.ofJson? (.arr a) = some (.template (.arr (a.map Json.normalize))) := by
  have hUnread : SourceMapping.ofJson? (.arr a) = none := by
    rw [← Option.isNone_iff_eq_none, ← Option.not_isSome, SourceMapping.isSome_ofJson?_arr, hApart]
    rfl
  rw [ofJson?, hUnread, Json.normalize, Json.normalizeItems_eq_map]

theorem Step.get?_inputMappings {fields mappings : List (String × Json)} {step : Step}
    (hRead : Step.ofJson? (.obj fields) = some step)
    (hGiven : Dict.get? fields "inputMappings" = some (.obj mappings)) {key : String} {v : Json}
    (hNamed : Dict.last? mappings key = some v) :
    ∃ m, InputMapping.ofJson? v = some m ∧ step.inputMappings.get? key = some m ∧
      step.inputMappings.Sorted ∧ step.literals.Sorted := by
  simp only [ofJson?, Option.bind_eq_bind, Option.bind_eq_some_iff, Option.some.injEq] at hRead
  obtain ⟨r, hOpened, id, -, kind, -, moduleId, -, custom, -, inputs, hReadInputs, outputs, -,
    literals, hReadLiterals, transitions, -, next, -, error, -, rfl⟩ := hRead
  have hThere : r.get? "inputMappings" = some (.obj mappings) :=
    (Json.get?_record?_obj hOpened (by decide)).trans hGiven
  rw [Dict.defaulted_of_get? hThere] at hReadInputs
  obtain ⟨m, hFound, hHolds⟩ := Json.get?_dict? hReadInputs hNamed
  exact ⟨m, hFound, hHolds, Json.sorted_dict? hReadInputs, Json.sorted_defaulted hReadLiterals⟩

namespace Template

variable {allowed : Allowed} {maxDepth : Nat} {scope : Json}

/-- The items of a rendered list are the rendered items, null where there is nothing. -/
theorem renderItems_forall₂ {a items : List Json}
    (h : ReachesUnder allowed (renderItems maxDepth scope a).run (.ok items)) :
    List.Forall₂ (fun v item => ∃ r, ReachesUnder allowed (render maxDepth scope v).run (.ok r) ∧
      item = r.orNull) a items := by
  induction a generalizing items with
  | nil =>
    rw [renderItems, reachesUnder_pure_ok] at h
    subst h
    exact .nil
  | cons v rest ih =>
    simp only [renderItems, reachesUnder_bind_ok, reachesUnder_pure_ok] at h
    obtain ⟨r, hFirst, more, hOthers, rfl⟩ := h
    exact .cons ⟨r, hFirst, rfl⟩ (ih hOthers)

end Template

namespace Input

variable {allowed : Allowed} {s : Settings} {scope : Json}

theorem addMapped_sorted {mappings : List (String × InputMapping)} {before after : Dict Json}
    (hSorted : before.Sorted)
    (h : ReachesUnder allowed (addMapped s scope mappings before).run (.ok after)) :
    after.Sorted := by
  induction mappings generalizing before with
  | nil =>
    rw [addMapped, reachesUnder_pure_ok] at h
    exact h ▸ hSorted
  | cons e rest ih =>
    rw [addMapped, reachesUnder_bind_ok] at h
    obtain ⟨r, -, h⟩ := h
    cases r with
    | undefined => exact ih hSorted h
    | value v => exact ih (Dict.sorted_insert hSorted e.1 v) h

theorem get?_addMapped_of_fresh {mappings : List (String × InputMapping)} {before after : Dict Json}
    {key : String} (hFresh : key ∉ Dict.keys mappings)
    (h : ReachesUnder allowed (addMapped s scope mappings before).run (.ok after)) :
    after.get? key = before.get? key := by
  induction mappings generalizing before with
  | nil =>
    rw [addMapped, reachesUnder_pure_ok] at h
    exact h ▸ rfl
  | cons e rest ih =>
    obtain ⟨hApart, hFresh⟩ := not_or.mp (List.mem_cons.not.mp hFresh)
    rw [addMapped, reachesUnder_bind_ok] at h
    obtain ⟨r, -, h⟩ := h
    cases r with
    | undefined => exact ih hFresh h
    | value v => exact (ih hFresh h).trans (Dict.get?_insert_of_ne before v hApart)

theorem get?_addMapped {mappings : List (String × InputMapping)} {before after : Dict Json}
    (hUnique : Dict.Unique mappings)
    (h : ReachesUnder allowed (addMapped s scope mappings before).run (.ok after)) {key : String}
    {m : InputMapping} (hNamed : Dict.get? mappings key = some m) :
    ∃ r, ReachesUnder allowed (resolveMapping s scope m).run (.ok r) ∧
      ∀ v, r = .value v → after.get? key = some v := by
  induction mappings generalizing before with
  | nil => cases hNamed
  | cons e rest ih =>
    obtain ⟨k, first⟩ := e
    obtain ⟨hFresh, hUnique⟩ := List.nodup_cons.mp hUnique
    rw [addMapped, reachesUnder_bind_ok] at h
    obtain ⟨r, hResolved, h⟩ := h
    by_cases hHere : k = key
    · subst hHere
      obtain rfl : first = m := by simpa [Dict.get?] using hNamed
      refine ⟨r, hResolved, ?_⟩
      rintro v rfl
      exact (get?_addMapped_of_fresh hFresh h).trans (Dict.get?_insert_self before k v)
    · rw [Dict.get?, if_neg hHere] at hNamed
      cases r with
      | undefined => exact ih hUnique h hNamed
      | value v => exact ih hUnique h hNamed

variable {step : Step} {defaults bag : Dict Json}

theorem get?_ofStep (hInputs : step.inputMappings.Sorted) (hLiterals : step.literals.Sorted)
    (h : ReachesUnder allowed (ofStep s step defaults scope).run (.ok bag)) {key : String}
    {m : InputMapping} (hNamed : step.inputMappings.get? key = some m) :
    ∃ r, ReachesUnder allowed (resolveMapping s scope m).run (.ok r) ∧
      ∀ v, r = .value v → bag.get? key = some v := by
  rw [ofStep, reachesUnder_bind_ok] at h
  obtain ⟨mapped, hAdded, h⟩ := h
  obtain ⟨r, hResolved, hHolds⟩ := get?_addMapped hInputs.unique hAdded hNamed
  refine ⟨r, hResolved, fun v hSame => ?_⟩
  have hSorted := addMapped_sorted hLiterals hAdded
  rw [reachesUnder_pure_ok.mp h, Dict.get?_update, Dict.last?_of_unique hSorted.unique,
    hHolds v hSame, Option.some_or]

/-- A list that names no source is rendered item by item. -/
theorem array_rendered_itemwise {fields mappings : List (String × Json)}
    (hRead : Step.ofJson? (.obj fields) = some step)
    (hGiven : Dict.get? fields "inputMappings" = some (.obj mappings)) {key : String}
    {a : List Json} (hNamed : Dict.last? mappings key = some (.arr a))
    (hApart : SourceMapping.isNamedBy a = false)
    (h : ReachesUnder allowed (ofStep s step defaults scope).run (.ok bag)) :
    ∃ items, bag.get? key = some (.arr items) ∧ List.Forall₂ (fun v item => ∃ r,
      ReachesUnder allowed (Template.render s.maxTemplateDepth.toNat scope v.normalize).run
      (.ok r) ∧
        item = r.orNull) a items := by
  obtain ⟨m, hAsTemplate, hFound, hInputs, hLiterals⟩ := Step.get?_inputMappings hRead hGiven hNamed
  rw [InputMapping.ofJson?_arr hApart, Option.some.injEq] at hAsTemplate
  subst hAsTemplate
  obtain ⟨r, hResolved, hHolds⟩ := get?_ofStep hInputs hLiterals h hFound
  simp only [resolveMapping, Template.render, reachesUnder_bind_ok, reachesUnder_pure_ok]
    at hResolved
  obtain ⟨items, hRendered, rfl⟩ := hResolved
  exact ⟨items, hHolds _ rfl, List.forall₂_map_left_iff.mp (Template.renderItems_forall₂ hRendered)⟩

def tagging (tags : List Json) : List (String × Json) :=
  [("inputMappings", .obj [("tags", .arr tags)]), ("stepInstanceId", .str "label"),
    ("stepType", .str "NO_OP")]

def tagged (tags : InputMapping) : Step :=
  { id := "label", kind := .noOp, inputMappings := [("tags", tags)] }

def parcelScope : Json := .obj [("tag", .str "new")]

def parcelTags : List Json := [.str "$.tag", .str "urgent", .str "$.owner"]

def labels : Flow where
  id := "labels"
  version := 1
  isPublished := true
  steps := [("label", tagged (.template (.arr parcelTags)))]
  start := "label"
  defaultContext := []
  defaultStepConfig := []
  onCompletionActions := []
  createdAt := none
  updatedAt := none

def writtenTags : List Json := [.str "new", .str "urgent", .null]

theorem parcelTags_rendered :
    Step.ofJson? (.obj (tagging parcelTags)) = some (tagged (.template (.arr parcelTags))) ∧
      SourceMapping.isNamedBy parcelTags = false ∧
      ReachesUnder (Calmly labels)
      (ofStep {} (tagged (.template (.arr parcelTags))) [] parcelScope).run
        (.ok [("tags", .arr writtenTags)]) ∧
      ∃ items, Dict.get? [("tags", Json.arr writtenTags)] "tags" = some (Json.arr items) ∧
        List.Forall₂ (fun v item => ∃ r, ReachesUnder (Calmly labels)
          (Template.render 10 parcelScope v.normalize).run (.ok r) ∧ item = r.orNull) parcelTags
          items := by
  have hRead : Step.ofJson? (.obj (tagging parcelTags)) =
    some (tagged (.template (.arr parcelTags))) := by
    decide +kernel
  have hApart : SourceMapping.isNamedBy parcelTags = false := by decide
  have hFilled : ReachesUnder (Calmly labels)
      (ofStep {} (tagged (.template (.arr parcelTags))) [] parcelScope).run
      (.ok [("tags", .arr writtenTags)]) := reachesUnder_calm_ok (by decide +kernel)
  exact ⟨hRead, hApart, hFilled, array_rendered_itemwise hRead rfl rfl hApart hFilled⟩

/-- The list of one tag is taken for its path, so the input holds the tag alone. -/
theorem lone_tag_not_listed :
    Step.ofJson? (.obj (tagging [.str "$.tag"])) = some (tagged (.source ⟨"$.tag", .raw, none⟩)) ∧
      ReachesUnder (Calmly labels)
      (ofStep {} (tagged (.source ⟨"$.tag", .raw, none⟩)) [] parcelScope).run
        (.ok [("tags", .str "new")]) ∧
      ReachesUnder (Calmly labels) (Template.render 10 parcelScope (.str "$.tag")).run
        (.ok (.value (.str "new"))) :=
  ⟨by decide +kernel, reachesUnder_calm_ok (by decide +kernel),
  reachesUnder_calm_ok (by decide +kernel)⟩

end Input

end Stepwise
