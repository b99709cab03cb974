import Stepwise.Json.Record
import Stepwise.Proofs.Json.Double
import Stepwise.Proofs.Json.Value

/-!
# Readers and writers

Reading again what was written for what was read: readers of numbers, texts, lists, maps and
records, each with its writer.
-/

namespace Stepwise

set_option autoImplicit false

namespace Json

variable {α : Type} {f : Json → Option α} {g : α → Json}

/-- What is read from a value is read again from what is written for it. -/
def Rereads (f : Json → Option α) (g : α → Json) : Prop :=
  ∀ (v : Json) (a : α), v.IsValue → f v = some a → f (g a) = some a

theorem rereads_of_forall (h : ∀ a, f (g a) = some a) : Rereads f g := fun _ a _ _ => h a

section Scalars

theorem rereads_text : Rereads text? .str := rereads_of_forall fun _ => rfl

theorem rereads_flag : Rereads flag? .bool := rereads_of_forall fun _ => rfl

theorem word32?_ofNat (n : UInt32) : word32? (ofNat n.toNat) = some n := by
  have hSmall : (0 : Int) ≤ n.toNat ∧ (n.toNat : Int).toNat < UInt32.size :=
    ⟨Int.natCast_nonneg _, n.toNat_lt⟩
  rw [ofNat, word32?, if_pos hSmall, Int.toNat_natCast, UInt32.ofNat_toNat]

theorem word64?_ofNat (n : UInt64) : word64? (ofNat n.toNat) = some n := by
  have hSmall : (0 : Int) ≤ n.toNat ∧ (n.toNat : Int).toNat < UInt64.size :=
    ⟨Int.natCast_nonneg _, n.toNat_lt⟩
  rw [ofNat, word64?, if_pos hSmall, Int.toNat_natCast, UInt64.ofNat_toNat]

theorem rereads_word32 : Rereads word32? (fun n => ofNat n.toNat) := rereads_of_forall word32?_ofNat

theorem rereads_word64 : Rereads word64? (fun n => ofNat n.toNat) := rereads_of_forall word64?_ofNat

theorem isFinite_of_float? {v : Json} {x : Float} (hValue : v.IsValue) (hRead : v.float? = some x) :
    x.isFinite = true := by
  cases v with
  | num n =>
    cases n with
    | int n =>
      cases hRead
      exact Double.isFinite_ofInt hValue.1 hValue.2
    | double y =>
      cases hRead
      exact hValue
  | _ => cases hRead

theorem rereads_float : Rereads float? ofFloat := by
  intro v x hValue hRead
  rw [ofFloat, if_pos (isFinite_of_float? hValue hRead)]
  rfl

theorem rereads_document : Rereads document? id := by
  intro v a _ hRead
  cases hRead
  exact congrArg some (normalize_normalize v)

end Scalars

section Collections

theorem readAll_map {items : List α} (h : ∀ a ∈ items, f (g a) = some a) :
    readAll f (items.map g) = some items := by
  induction items with
  | nil => rfl
  | cons a rest ih =>
    have hFirst := h a List.mem_cons_self
    have hOthers := ih fun b hMember => h b (List.mem_cons_of_mem _ hMember)
    simp only [List.map_cons, readAll, hFirst, hOthers, Option.bind_eq_bind, Option.bind_some]

theorem mem_of_readAll {items : List Json} {read : List α} (h : readAll f items = some read) :
    ∀ a ∈ read, ∃ v ∈ items, f v = some a := by
  induction items generalizing read with
  | nil =>
    cases h
    exact fun _ hMember => nomatch hMember
  | cons v rest ih =>
    simp only [readAll, Option.bind_eq_bind, Option.bind_eq_some_iff, Option.some.injEq] at h
    obtain ⟨b, hFirst, more, hOthers, rfl⟩ := h
    intro a hMember
    rcases List.mem_cons.mp hMember with rfl | hLater
    · exact ⟨v, List.mem_cons_self, hFirst⟩
    · obtain ⟨w, hAmong, hFound⟩ := ih hOthers a hLater
      exact ⟨w, List.mem_cons_of_mem _ hAmong, hFound⟩

theorem readEntries_map {d : Dict α} (h : ∀ e ∈ d, f (g e.2) = some e.2) :
    readEntries f (d.map fun e => (e.1, g e.2)) = some d := by
  induction d with
  | nil => rfl
  | cons e rest ih =>
    have hFirst := h e List.mem_cons_self
    have hOthers := ih fun b hMember => h b (List.mem_cons_of_mem _ hMember)
    simp only [List.map_cons, readEntries, hFirst, hOthers, Option.bind_eq_bind, Option.bind_some]

theorem mem_of_readEntries {fields : List (String × Json)} {read : List (String × α)}
    (h : readEntries f fields = some read) : ∀ e ∈ read, ∃ p ∈ fields, f p.2 = some e.2 := by
  induction fields generalizing read with
  | nil =>
    cases h
    exact fun _ hMember => nomatch hMember
  | cons p rest ih =>
    obtain ⟨k, v⟩ := p
    simp only [readEntries, Option.bind_eq_bind, Option.bind_eq_some_iff, Option.some.injEq] at h
    obtain ⟨b, hFirst, more, hOthers, rfl⟩ := h
    intro e hMember
    rcases List.mem_cons.mp hMember with rfl | hLater
    · exact ⟨(k, v), List.mem_cons_self, hFirst⟩
    · obtain ⟨w, hAmong, hFound⟩ := ih hOthers e hLater
      exact ⟨w, List.mem_cons_of_mem _ hAmong, hFound⟩

theorem rereads_list (h : Rereads f g) : Rereads (list? f) (fun items => .arr (items.map g)) := by
  intro v items hValue hRead
  cases v with
  | arr given =>
    refine readAll_map fun a hMember => ?_
    obtain ⟨w, hAmong, hFound⟩ := mem_of_readAll hRead a hMember
    exact h w a (isValue_arr_iff.mp hValue w hAmong) hFound
  | _ => cases hRead

theorem rereads_dict (h : Rereads f g) :
    Rereads (dict? f) (fun d => .obj (d.map fun e => (e.1, g e.2))) := by
  intro v d hValue hRead
  cases v with
  | obj fields =>
    obtain ⟨entries, hReadEach, rfl⟩ := Option.map_eq_some_iff.mp hRead
    have hAgain : readEntries f ((Dict.ofList entries).map fun e => (e.1, g e.2)) =
        some (Dict.ofList entries) := by
      refine readEntries_map fun e hMember => ?_
      obtain ⟨p, hAmong, hFound⟩ := mem_of_readEntries hReadEach e (Dict.mem_of_mem_ofList hMember)
      exact h p.2 e.2 ((isValue_obj_iff.mp hValue).2 p hAmong) hFound
    rw [dict?, hAgain, Option.map_some, Dict.ofList_of_sorted (Dict.sorted_ofList entries)]
  | _ => cases hRead

theorem rereads_fields : Rereads fields? .obj := by
  intro v d hValue hRead
  have hSame : (d.map fun e => (e.1, id e.2)) = d := List.map_id' d
  exact (congrArg (fun fields => fields? (.obj fields)) hSame.symm).trans
    (rereads_dict rereads_document v d hValue hRead)

end Collections

section Records

variable {spec : List (String × Presence)} {v : Json} {r : Dict Json}

def Values (r : Dict Json) : Prop := ∀ e ∈ r, e.2.IsValue

theorem mem_of_positional {items : List Json} (h : positional spec items = some r) :
    ∀ e ∈ r, e.2 ∈ items := by
  induction spec generalizing items r with
  | nil =>
    cases items with
    | nil =>
      cases h
      exact fun _ hMember => nomatch hMember
    | cons v items => cases h
  | cons p spec ih =>
    obtain ⟨name, presence⟩ := p
    cases items with
    | nil =>
      simp only [positional] at h
      split at h
      · exact ih h
      · cases h
    | cons v items =>
      obtain ⟨rest, hOthers, rfl⟩ := Option.map_eq_some_iff.mp h
      intro e hMember
      rcases List.mem_cons.mp hMember with rfl | hLater
      · exact List.mem_cons_self
      · exact List.mem_cons_of_mem _ (ih hOthers e hLater)

theorem values_of_record? (hValue : v.IsValue) (hOpened : v.record? spec = some r) : Values r := by
  cases v with
  | obj fields =>
    simp only [record?] at hOpened
    split at hOpened
    · cases hOpened
      exact fun e hMember => (isValue_obj_iff.mp hValue).2 e (List.mem_filter.mp hMember).1
    · cases hOpened
  | arr items =>
    exact fun e hMember => isValue_arr_iff.mp hValue e.2 (mem_of_positional hOpened e hMember)
  | _ => cases hOpened

theorem distinct_of_unique {fields : List (String × Json)} (hUnique : Dict.Unique fields)
    (names : List String) : distinct names fields = true := by
  refine List.all_eq_true.mpr fun name _ => decide_eq_true ?_
  have hOnce : ((fields.filter fun e => e.1 = name).map Prod.fst).Nodup := hUnique.filter _
  have hSame : ∀ k ∈ (fields.filter fun e => e.1 = name).map Prod.fst, k = name := by
    intro k hMember
    obtain ⟨e, hAmong, rfl⟩ := List.mem_map.mp hMember
    exact of_decide_eq_true (List.mem_filter.mp hAmong).2
  rw [← List.length_map Prod.fst]
  generalize (fields.filter fun e => e.1 = name).map Prod.fst = found at hOnce hSame
  rcases found with _ | ⟨k, _ | ⟨l, rest⟩⟩
  · exact Nat.zero_le 1
  · exact Nat.le_refl 1
  · have hTwice : k = l := by
      rw [hSame k List.mem_cons_self, hSame l (List.mem_cons_of_mem _ List.mem_cons_self)]
    exact absurd (hTwice ▸ List.mem_cons_self) (List.nodup_cons.mp hOnce).1

/-- An object with unique names is read as any record, and the record holds what the object holds.
-/
theorem bind_record?_obj {β : Type} {k : Dict Json → Option β} {b : β}
    {fields : List (String × Json)} (hUnique : Dict.Unique fields)
    (h : ∀ r, (∀ name ∈ spec.map Prod.fst, r.get? name = Dict.get? fields name) → k r = some b) :
    ((Json.obj fields).record? spec).bind k = some b := by
  have hOpened : (Json.obj fields).record? spec = some _ := if_pos (distinct_of_unique hUnique _)
  rw [hOpened]
  refine h _ fun name hKnown => ?_
  rw [Dict.get?_filter_name, if_pos (List.contains_iff_mem.mpr hKnown)]

theorem bind_record?_object {β : Type} {k : Dict Json → Option β} {b : β}
    {entries : List (String × Json)}
    (h : ∀ r, (∀ name ∈ spec.map Prod.fst, r.get? name = Dict.last? entries name) → k r = some b) :
    ((object entries).record? spec).bind k = some b :=
  bind_record?_obj (Dict.sorted_ofList entries).unique fun r hKept =>
    h r fun name hKnown => (hKept name hKnown).trans (Dict.get?_ofList entries name)

end Records

section Tags

variable {β : Type} {names : List (String × α)} {tag : String} {mode : Reading}
  {k : α × Json → Option β} {b : β}

theorem mem_of_lookup {name : String} {a : α} (h : names.lookup name = some a) :
    (name, a) ∈ names := by
  obtain ⟨before, after, rfl, -⟩ := List.lookup_eq_some_iff.mp h
  exact List.mem_append_right _ List.mem_cons_self

theorem mem_of_variant? {v : Json} {a : α} (h : variant? mode names v = some a) :
    ∃ name, (name, a) ∈ names := by
  cases v with
  | str s => exact ⟨s, mem_of_lookup h⟩
  | num n =>
    cases n with
    | int n =>
      simp only [variant?] at h
      split at h
      · obtain ⟨e, hFound, rfl⟩ := Option.map_eq_some_iff.mp h
        exact ⟨e.1, List.mem_of_getElem? hFound⟩
      · cases h
    | double x => cases h
  | _ => cases h

theorem tagged?_eq_some {v : Json} {a : α} {rest : Json} (hValue : v.IsValue)
    (h : v.tagged? mode tag names = some (a, rest)) : (∃ name, (name, a) ∈ names) ∧
    rest.IsValue := by
  cases v with
  | obj fields =>
    simp only [tagged?, Option.bind_eq_bind, Option.bind_eq_some_iff] at h
    obtain ⟨t, -, a', hVariant, h⟩ := h
    split at h
    · cases h
      have hParts := isValue_obj_iff.mp hValue
      exact ⟨mem_of_variant? hVariant, isValue_obj_iff.mpr ⟨hParts.1.filter _, fun e hMember =>
        hParts.2 e (List.mem_filter.mp hMember).1⟩⟩
    · cases h
  | arr items =>
    cases items with
    | nil => cases h
    | cons t items =>
      obtain ⟨a', hVariant, hSame⟩ := Option.map_eq_some_iff.mp h
      cases hSame
      exact ⟨mem_of_variant? hVariant, isValue_arr_iff.mpr fun v hMember =>
        isValue_arr_iff.mp hValue v (List.mem_cons_of_mem _ hMember)⟩
  | _ => cases h

/-- An object that holds the name of a variant under the tag is split into it and the other fields.
-/
theorem bind_tagged?_obj {fields : List (String × Json)} {name : String} {a : α}
    (hUnique : Dict.Unique fields) (hTagged : Dict.get? fields tag = some (.str name))
    (hKnown : names.lookup name = some a)
    (h : ∀ rest, Dict.Unique rest →
      (∀ other, other ≠ tag → Dict.get? rest other = Dict.get? fields other) →
      k (a, .obj rest) = some b) :
    ((Json.obj fields).tagged? mode tag names).bind k = some b := by
  have hSplit : (Json.obj fields).tagged? mode tag names =
      some (a, .obj (fields.filter fun e => e.1 ≠ tag)) := by
    simp only [tagged?, hTagged, variant?, hKnown, Option.bind_eq_bind, Option.bind_some,
      distinct_of_unique hUnique, if_true]
  rw [hSplit]
  refine h _ (hUnique.filter _) fun other hApart => ?_
  exact (Dict.get?_filter_name (fun name => decide (name ≠ tag)) fields other).trans
    (if_pos (decide_eq_true hApart))

theorem bind_tagged?_object {entries : List (String × Json)} {name : String} {a : α}
    (hTagged : Dict.last? entries tag = some (.str name)) (hKnown : names.lookup name = some a)
    (h : ∀ rest, Dict.Unique rest →
      (∀ other, other ≠ tag → Dict.get? rest other = Dict.last? entries other) →
      k (a, .obj rest) = some b) :
    ((object entries).tagged? mode tag names).bind k = some b :=
  bind_tagged?_obj (Dict.sorted_ofList entries).unique
    ((Dict.get?_ofList entries tag).trans hTagged) hKnown
    fun rest hUnique hKept => h rest hUnique fun other hApart =>
      (hKept other hApart).trans (Dict.get?_ofList entries other)

end Tags

section Normal

variable {spec : List (String × Presence)}

def Ordered (r r' : Dict Json) : Prop := ∀ name, r'.get? name = (r.get? name).map normalize

theorem positional_map (h : Json → Json) (spec : List (String × Presence)) (items : List Json) :
    positional spec (items.map h) = (positional spec items).map (·.map fun e => (e.1, h e.2)) := by
  induction spec generalizing items with
  | nil =>
    cases items with
    | nil => rfl
    | cons v items => rfl
  | cons p spec ih =>
    obtain ⟨name, presence⟩ := p
    cases items with
    | nil =>
      simp only [List.map_nil, positional]
      split
      · exact ih []
      · rfl
    | cons v items =>
      simp only [List.map_cons, positional, ih, Option.map_map]
      rfl

theorem normalize_unique {fields : List (String × Json)} :
    Dict.Unique (Dict.ofList (normalizeFields fields)) := (Dict.sorted_ofList _).unique

theorem record?_normalize (spec : List (String × Presence)) {v : Json} (hValue : v.IsValue) :
    (v.record? spec = none ∧ v.normalize.record? spec = none) ∨
      ∃ r r', v.record? spec = some r ∧ v.normalize.record? spec = some r' ∧ Ordered r r' := by
  cases v with
  | obj fields =>
    have hUnique := (isValue_obj_iff.mp hValue).1
    refine .inr ⟨_, _, if_pos (distinct_of_unique hUnique _),
      if_pos (distinct_of_unique normalize_unique _), fun name => ?_⟩
    rw [Dict.get?_filter_name, Dict.get?_filter_name, get?_normalizeFields hUnique]
    split
    · rfl
    · rfl
  | arr items =>
    have hRead : (Json.arr items).normalize.record? spec =
        (positional spec items).map (·.map fun e => (e.1, e.2.normalize)) := by
      rw [normalize, normalizeItems_eq_map]
      exact positional_map normalize spec items
    cases hGiven : positional spec items with
    | none =>
      rw [hGiven] at hRead
      exact .inl ⟨hGiven, hRead⟩
    | some r =>
      rw [hGiven] at hRead
      exact .inr ⟨r, _, hGiven, hRead, Dict.get?_map normalize r⟩
  | _ => exact .inl ⟨rfl, rfl⟩

theorem choice?_normalize {v : Json} (hValue : v.IsValue) (mode : Reading)
    (names : List (String × α)) :
    choice? mode names v.normalize = choice? mode names v := by
  cases v with
  | obj fields =>
    have hUnique := (isValue_obj_iff.mp hValue).1
    rcases fields with _ | ⟨⟨k, x⟩, _ | ⟨⟨l, y⟩, rest⟩⟩
    · rfl
    · have hNull : x.normalize = .null ↔ x = .null := ⟨normalize_eq_null, congrArg normalize⟩
      have hEmpty : x.normalize = .obj [] ↔ x = .obj [] := ⟨normalize_eq_empty, congrArg normalize⟩
      change (if x.normalize = .null ∨ (mode = .loose ∧ x.normalize = .obj []) then names.lookup k
        else none) = _
      simp only [hNull, hEmpty]
      rfl
    · -- Two names are still two names in order.
      have hApart : k ≠ l := fun hSame =>
        (List.nodup_cons.mp hUnique).1 (hSame ▸ List.mem_cons_self)
      have hFirst := get?_normalizeFields hUnique k
      have hSecond := get?_normalizeFields hUnique l
      simp only [Dict.get?, if_true, if_neg hApart, Option.map_some] at hFirst hSecond
      rw [normalize]
      generalize Dict.ofList (normalizeFields ((k, x) :: (l, y) :: rest)) =
        ordered at hFirst hSecond
      rcases ordered with _ | ⟨⟨m, z⟩, _ | ⟨e, more⟩⟩
      · rfl
      · simp only [Dict.get?] at hFirst hSecond
        have hLeft : m = k := Classical.byContradiction fun hOther => by
          rw [if_neg hOther] at hFirst; cases hFirst
        have hRight : m = l := Classical.byContradiction fun hOther => by
          rw [if_neg hOther] at hSecond; cases hSecond
        exact absurd (hLeft.symm.trans hRight) hApart
      · rfl
  | _ => rfl

theorem text?_normalize (v : Json) : v.normalize.text? = v.text? := by cases v <;> rfl

end Normal

end Json

theorem name_of_mem_optionalField {α : Type} {name : String} {g : α → Json} {o : Option α}
    {e : String × Json} (h : e ∈ optionalField name g o) : e.1 = name := by
  cases o with
  | none => cases h
  | some a => rw [List.mem_singleton.mp h]

@[simp] theorem last?_optionalField {α : Type} (name : String) (g : α → Json) (o : Option α)
    (key : String) :
    Dict.last? (optionalField name g o) key = if name = key then o.map g else none := by
  cases o with
  | none => simp [optionalField]
  | some a => simp [optionalField]

namespace Dict

open Json

variable {α : Type} {f : Json → Option α} {g : α → Json} {r r' : Dict Json} {name : String}

section Again

theorem required_of_get? {v : Json} (hFound : r.get? name = some v) : r.required name f = f v := by
  rw [required, hFound, Option.bind_some]

theorem defaulted_of_get? {v : Json} {default : α} (hFound : r.get? name = some v) :
    r.defaulted name default f = f v := by
  rw [defaulted, hFound]

theorem optional_of_get? {o : Option α} (hKept : r.get? name = o.map g)
    (h : ∀ a ∈ o, f (g a) = some a ∧ g a ≠ .null) : r.optional name f = some o := by
  rw [optional, hKept]
  cases o with
  | none => rfl
  | some a =>
    obtain ⟨hAgain, hWritten⟩ := h a rfl
    rw [Option.map_some]
    split
    · contradiction
    · next hSame => exact absurd (Option.some.inj hSame) hWritten
    · next hSame =>
      cases hSame
      rw [hAgain, Option.map_some]

theorem optional_text {o : Option String} (hKept : r.get? name = o.map .str) :
    r.optional name text? = some o :=
  optional_of_get? hKept fun _ _ => ⟨rfl, fun hSame => nomatch hSame⟩

theorem required_again (h : Rereads f g) (hValues : Values r) {a : α}
    (hRead : r.required name f = some a) (hKept : r'.get? name = some (g a)) :
    r'.required name f = some a := by
  obtain ⟨v, hFound, hRead⟩ := Option.bind_eq_some_iff.mp hRead
  rw [required_of_get? hKept]
  exact h v a (hValues (name, v) (mem_of_get? hFound)) hRead

theorem defaulted_again (h : Rereads f g) (hValues : Values r) {default : α}
    (hBase : f (g default) = some default) {a : α} (hRead : r.defaulted name default f = some a)
    (hKept : r'.get? name = some (g a)) : r'.defaulted name default f = some a := by
  rw [defaulted, hKept]
  unfold defaulted at hRead
  split at hRead
  · cases hRead
    exact hBase
  · next v hFound => exact h v a (hValues (name, v) (mem_of_get? hFound)) hRead

theorem optional_again (h : Rereads f g) (hValues : Values r) (hNull : f .null = none)
    {o : Option α} (hRead : r.optional name f = some o) (hKept : r'.get? name = o.map g) :
    r'.optional name f = some o := by
  refine optional_of_get? hKept ?_
  rintro a rfl
  unfold optional at hRead
  split at hRead
  · cases hRead
  · cases hRead
  · next v _ hFound =>
    obtain ⟨b, hContent, hSame⟩ := Option.map_eq_some_iff.mp hRead
    cases hSame
    have hAgain := h v a (hValues (name, v) (mem_of_get? hFound)) hContent
    -- What is written for `a` is not hNull, as nothing is hRead from hNull.
    exact ⟨hAgain, fun hSame => by rw [hSame, hNull] at hAgain; cases hAgain⟩

end Again

section Normal

theorem required_ordered (hOrdered : Ordered r r') (h : ∀ v ∈ r.get? name, f v.normalize = f v) :
    r'.required name f = r.required name f := by
  rw [required, required, hOrdered]
  cases hFound : r.get? name with
  | none => rfl
  | some v => exact h v hFound

theorem defaulted_ordered (hOrdered : Ordered r r') (h : ∀ v ∈ r.get? name, f v.normalize = f v)
    (default : α) : r'.defaulted name default f = r.defaulted name default f := by
  rw [defaulted, defaulted, hOrdered]
  cases hFound : r.get? name with
  | none => rfl
  | some v => exact h v hFound

theorem optional_ordered (hOrdered : Ordered r r') (h : ∀ v ∈ r.get? name, f v.normalize = f v) :
    r'.optional name f = r.optional name f := by
  rw [optional, optional, hOrdered]
  cases hFound : r.get? name with
  | none => rfl
  | some v =>
    have hSame := h v hFound
    cases v <;> first | rfl | exact congrArg (Option.map some) hSame

end Normal

end Dict

end Stepwise
