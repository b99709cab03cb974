import Stepwise.Engine.Output
import Stepwise.Proofs.Json.Reread

/-!
# Documents in normal form

The fields of every object stand in order, so that putting them in order changes nothing. What is
read from a text or a document has the form, and so has what is looked up in it, added to it and
written into it.
-/

namespace Stepwise

set_option autoImplicit false

/-- The document stays as it is when its fields are put in order. -/
def Json.Normal (v : Json) : Prop := v.normalize = v

namespace Dict

/-- The entries stand in order, and hold documents in normal form. -/
structure Normal (d : Dict Json) : Prop where
  sorted : d.Sorted
  values : ∀ e ∈ d, e.2.Normal

end Dict

namespace Json

@[simp] theorem normal_null : Normal .null := rfl

@[simp] theorem normal_bool (b : Bool) : Normal (.bool b) := rfl

@[simp] theorem normal_num (n : Number) : Normal (.num n) := rfl

@[simp] theorem normal_str (s : String) : Normal (.str s) := rfl

theorem normal_normalize (v : Json) : v.normalize.Normal := normalize_normalize v

@[simp] theorem normal_arr_iff {items : List Json} : Normal (.arr items) ↔
    ∀ v ∈ items, v.Normal := by
  rw [Normal, normalize, normalizeItems_eq_map, Json.arr.injEq]
  constructor
  · intro hSame v hAmong
    rw [← hSame] at hAmong
    obtain ⟨w, -, rfl⟩ := List.mem_map.mp hAmong
    exact normal_normalize w
  · intro h
    exact (List.map_congr_left h).trans (List.map_id' items)

@[simp] theorem normal_obj_iff {fields : List (String × Json)} :
    Normal (.obj fields) ↔ Dict.Normal fields := by
  rw [Normal, normalize, Json.obj.injEq]
  constructor
  · intro hSame
    rw [← hSame]
    exact ⟨Dict.sorted_ofList _, fun e hAmong =>
      normalize_normalizeFields fields e (Dict.mem_of_mem_ofList hAmong)⟩
  · intro h
    rw [normalizeFields_of_forall h.values, Dict.ofList_of_sorted h.sorted]

end Json

namespace Dict

variable {d e : Dict Json} {key : String} {v : Json}

theorem normal_nil : Normal [] := ⟨List.Pairwise.nil, fun _ hAmong => nomatch hAmong⟩

theorem Normal.of_get? (h : d.Normal) (hFound : d.get? key = some v) : v.Normal :=
  h.values (key, v) (mem_of_get? hFound)

theorem Normal.getD (h : d.Normal) (key : String) : ((d.get? key).getD .null).Normal := by
  cases hFound : d.get? key with
  | none => exact Json.normal_null
  | some v => exact h.of_get? hFound

theorem Normal.insert (h : d.Normal) (hv : v.Normal) (key : String) : (d.insert key v).Normal := by
  refine ⟨sorted_insert h.sorted key v, fun e hAmong => ?_⟩
  rcases mem_insert hAmong with rfl | hAmong
  · exact hv
  · exact h.values e hAmong

theorem Normal.update {entries : List (String × Json)} (h : d.Normal)
    (he : ∀ e ∈ entries, e.2.Normal) : (d.update entries).Normal := by
  refine ⟨sorted_update h.sorted entries, fun e hAmong => ?_⟩
  rcases mem_update hAmong with hAmong | hAmong
  · exact h.values e hAmong
  · exact he e hAmong

theorem normal_ofList {entries : List (String × Json)} (h : ∀ e ∈ entries, e.2.Normal) :
    (ofList entries).Normal := normal_nil.update h

theorem Normal.withDefaults {entries : List (String × Json)} (h : d.Normal)
    (he : ∀ e ∈ entries, e.2.Normal) : (d.withDefaults entries).Normal := by
  induction entries generalizing d with
  | nil => exact h
  | cons p rest ih =>
    have hLater := fun e (hAmong : e ∈ rest) => he e (List.mem_cons_of_mem p hAmong)
    show (Dict.withDefaults (if d.contains p.1 then d else d.insert p.1 p.2) rest).Normal
    split
    · exact ih h hLater
    · exact ih (h.insert (he p List.mem_cons_self) p.1) hLater

theorem sorted_erase {α : Type} {d : Dict α} (h : d.Sorted) (key : String) : (d.erase key).Sorted :=
  List.Pairwise.filter _ h

theorem sorted_map {α β : Type} {d : Dict α} (h : d.Sorted) (f : α → β) :
    Sorted (d.map fun e => (e.1, f e.2)) :=
  List.pairwise_map.mpr h

end Dict

namespace Json

variable {v : Json}

theorem normal_object {entries : List (String × Json)} (h : ∀ e ∈ entries, e.2.Normal) :
    (object entries).Normal := normal_obj_iff.mpr (Dict.normal_ofList h)

theorem Normal.field? {key : String} (h : v.Normal) {w : Json} (hFound : v.field? key = some w) :
    w.Normal := by
  cases v with
  | obj fields => exact (normal_obj_iff.mp h).of_get? hFound
  | _ => cases hFound

theorem Normal.objectFields (h : v.Normal) : (Output.objectFields v).Normal := by
  cases v with
  | obj fields => exact normal_obj_iff.mp h
  | _ => exact Dict.normal_nil

theorem normal_parse {text : String} (h : parse text = some v) : v.Normal := by
  obtain ⟨raw, -, rfl⟩ := Option.map_eq_some_iff.mp h
  exact normal_normalize raw

theorem normal_of_optionalField {α : Type} {name : String} {g : α → Json} {o : Option α}
    (h : ∀ a ∈ o, (g a).Normal) : ∀ e ∈ optionalField name g o, e.2.Normal := by
  cases o with
  | none => exact fun _ hAmong => nomatch hAmong
  | some a =>
    intro e hAmong
    rw [List.mem_singleton.mp hAmong]
    exact h a rfl

section Readers

variable {α : Type} {f : Json → Option α}

/-- The value was read from a document. -/
def ReadFrom (f : Json → Option α) (a : α) : Prop := ∃ v : Json, v.IsValue ∧ f v = some a

theorem normal_document? {w : Json} (hRead : v.document? = some w) : w.Normal := by
  cases hRead
  exact normal_normalize v

theorem ReadFrom.normal (h : ReadFrom document? v) : v.Normal := by
  obtain ⟨w, -, hRead⟩ := h
  exact normal_document? hRead

theorem sorted_dict? {d : Dict α} (hRead : v.dict? f = some d) : d.Sorted := by
  cases v with
  | obj fields =>
    obtain ⟨entries, -, rfl⟩ := Option.map_eq_some_iff.mp hRead
    exact Dict.sorted_ofList entries
  | _ => cases hRead

theorem ReadFrom.dict {d : Dict α} (h : ReadFrom (dict? f) d) : ∀ e ∈ d, ReadFrom f e.2 := by
  obtain ⟨v, hValue, hRead⟩ := h
  cases v with
  | obj fields =>
    obtain ⟨entries, hEach, rfl⟩ := Option.map_eq_some_iff.mp hRead
    intro e hAmong
    obtain ⟨p, hGiven, hFound⟩ := mem_of_readEntries hEach e (Dict.mem_of_mem_ofList hAmong)
    exact ⟨p.2, (isValue_obj_iff.mp hValue).2 p hGiven, hFound⟩
  | _ => cases hRead

theorem ReadFrom.list {items : List α} (h : ReadFrom (list? f) items) :
    ∀ a ∈ items, ReadFrom f a := by
  obtain ⟨v, hValue, hRead⟩ := h
  cases v with
  | arr given =>
    intro a hAmong
    obtain ⟨w, hThere, hFound⟩ := mem_of_readAll hRead a hAmong
    exact ⟨w, isValue_arr_iff.mp hValue w hThere, hFound⟩
  | _ => cases hRead

theorem ReadFrom.fields {d : Dict Json} (h : ReadFrom fields? d) : d.Normal := by
  have hSorted : d.Sorted := by
    obtain ⟨v, -, hRead⟩ := h
    exact sorted_dict? hRead
  exact ⟨hSorted, fun e hAmong => (h.dict e hAmong).normal⟩

theorem fields?_obj {d : Dict Json} (h : d.Normal) : fields? (.obj d) = some d := by
  have hAgain : readEntries document? (d.map fun e => (e.1, id e.2)) = some d :=
    readEntries_map fun e hAmong => congrArg some (h.values e hAmong)
  rw [show (d.map fun e => (e.1, id e.2)) = d from List.map_id' d] at hAgain
  rw [fields?, dict?, hAgain, Option.map_some, Dict.ofList_of_sorted h.sorted]

end Readers

end Json

namespace Dict

open Json

variable {α : Type} {f : Json → Option α} {r : Dict Json} {name : String}

section Reading

variable (hValues : Values r)

include hValues

theorem readFrom_required {a : α} (hRead : r.required name f = some a) : ReadFrom f a := by
  obtain ⟨v, hFound, hRead⟩ := Option.bind_eq_some_iff.mp hRead
  exact ⟨v, hValues (name, v) (mem_of_get? hFound), hRead⟩

theorem readFrom_defaulted {a default : α} (hRead : r.defaulted name default f = some a) :
    a = default ∨ ReadFrom f a := by
  unfold defaulted at hRead
  split at hRead
  · cases hRead
    exact .inl rfl
  · next v hFound => exact .inr ⟨v, hValues (name, v) (mem_of_get? hFound), hRead⟩

theorem readFrom_optional {o : Option α} (hRead : r.optional name f = some o) :
    ∀ a ∈ o, ∃ v : Json, v.IsValue ∧ v ≠ .null ∧ f v = some a := by
  rintro a rfl
  unfold optional at hRead
  split at hRead
  · cases hRead
  · cases hRead
  · next v hOther hFound =>
    obtain ⟨b, hAgain, hSame⟩ := Option.map_eq_some_iff.mp hRead
    cases hSame
    exact ⟨v, hValues (name, v) (mem_of_get? hFound), hOther, hAgain⟩

theorem normal_defaulted {d : Dict Json} (hRead : r.defaulted name [] fields? = some d) :
    d.Normal := by
  rcases readFrom_defaulted hValues hRead with rfl | hGiven
  · exact normal_nil
  · exact hGiven.fields

end Reading

end Dict

namespace Output

theorem normal_setAt {names : List String} {v : Json} {d : Dict Json} (hv : v.Normal)
    (h : d.Normal) :
    (setAt names v d).Normal := by
  induction names generalizing d with
  | nil => exact h
  | cons name rest ih =>
    cases rest with
    | nil => exact h.insert hv name
    | cons next rest =>
      exact h.insert (Json.normal_obj_iff.mpr (ih (h.getD name).objectFields)) name

end Output

end Stepwise
