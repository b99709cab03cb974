import Stepwise.Json.Basic

/-!
# JSON values

Documents in which no object has two fields of one name, integers have 64 bits and doubles are
finite. The fields may stand in any order; putting them in order changes no look-up.
-/

namespace Stepwise

set_option autoImplicit false

namespace Dict

variable {α β : Type}

section Lookup

def last? (entries : List (String × α)) (key : String) : Option α := get? entries.reverse key

theorem get?_append (d e : Dict α) (key : String) :
    get? (d ++ e) key = (d.get? key).or (e.get? key) := by
  induction d with
  | nil => simp [get?]
  | cons p rest ih =>
    obtain ⟨k, v⟩ := p
    by_cases hSame : k = key
    · simp [get?, hSame]
    · simpa [get?, hSame] using ih

@[simp] theorem last?_nil (key : String) : last? ([] : List (String × α)) key = none := rfl

@[simp] theorem last?_cons (k : String) (v : α) (rest : List (String × α)) (key : String) :
    last? ((k, v) :: rest) key = (last? rest key).or (if k = key then some v else none) := by
  simp only [last?, List.reverse_cons, get?_append, get?]

@[simp] theorem last?_append (d e : List (String × α)) (key : String) :
    last? (d ++ e) key = (last? e key).or (last? d key) := by
  simp only [last?, List.reverse_append, get?_append]

theorem last?_eq_none {entries : List (String × α)} {key : String} (h : ∀ e ∈ entries, e.1 ≠ key) :
    last? entries key = none := by
  induction entries with
  | nil => rfl
  | cons e rest ih =>
    obtain ⟨k, v⟩ := e
    have hApart : k ≠ key := h (k, v) List.mem_cons_self
    rw [last?_cons, ih fun e hMember => h e (List.mem_cons_of_mem _ hMember), if_neg hApart,
      Option.or_none]

theorem get?_update (d : Dict α) (entries : List (String × α)) (key : String) :
    (update d entries).get? key = (last? entries key).or (d.get? key) := by
  induction entries generalizing d with
  | nil => simp [update]
  | cons p rest ih =>
    obtain ⟨k, v⟩ := p
    have hUnfolded : update d ((k, v) :: rest) = update (d.insert k v) rest := rfl
    rw [hUnfolded, ih, last?_cons, get?_insert, Option.or_assoc]
    by_cases hSame : k = key
    · simp [hSame]
    · simp [hSame, Ne.symm hSame]

@[simp] theorem get?_ofList (entries : List (String × α)) (key : String) :
    (ofList entries).get? key = last? entries key := by
  rw [ofList, get?_update, get?_nil, Option.or_none]

theorem get?_map (f : α → β) (d : Dict α) (key : String) :
    get? (d.map fun e => (e.1, f e.2)) key = (d.get? key).map f := by
  induction d with
  | nil => rfl
  | cons p rest ih =>
    obtain ⟨k, v⟩ := p
    by_cases hSame : k = key
    · simp [get?, hSame]
    · simpa [get?, hSame] using ih

theorem get?_filter_name (p : String → Bool) (d : Dict α) (key : String) :
    get? (d.filter fun e => p e.1) key = if p key then d.get? key else none := by
  induction d with
  | nil => simp
  | cons e rest ih =>
    obtain ⟨k, v⟩ := e
    by_cases hSame : k = key
    · subst hSame
      cases hKept : p k with
      | true => simp [hKept, get?]
      | false => simpa [hKept] using ih
    · cases hKept : p k with
      | true => simpa [hKept, get?, hSame] using ih
      | false => simpa [hKept, get?, hSame] using ih

end Lookup

section Order

theorem sorted_insert {d : Dict α} (h : d.Sorted) (key : String) (v : α) :
    (d.insert key v).Sorted := by
  induction d with
  | nil => exact List.pairwise_singleton _ _
  | cons p rest ih =>
    obtain ⟨k, w⟩ := p
    obtain ⟨hAbove, hSorted⟩ := List.pairwise_cons.mp h
    simp only [insert]
    split
    · next hSame =>
      subst hSame
      exact List.pairwise_cons.mpr ⟨hAbove, hSorted⟩
    · next hApart =>
      split
      · next hBefore =>
        refine List.pairwise_cons.mpr ⟨fun e hMember => ?_, h⟩
        rcases List.mem_cons.mp hMember with rfl | hLater
        · exact hBefore
        · exact String.lt_trans hBefore (hAbove e hLater)
      · next hAfter =>
        refine List.pairwise_cons.mpr ⟨fun e hMember => ?_, ih hSorted⟩
        rcases mem_insert hMember with rfl | hLater
        · refine Classical.byContradiction fun hLow => hApart ?_
          exact String.le_antisymm (String.not_lt.mp hLow) (String.not_lt.mp hAfter)
        · exact hAbove e hLater

theorem sorted_update {d : Dict α} (h : d.Sorted) (entries : List (String × α)) :
    (update d entries).Sorted := by
  induction entries generalizing d with
  | nil => exact h
  | cons p rest ih => exact ih (sorted_insert h p.1 p.2)

theorem sorted_ofList (entries : List (String × α)) : (ofList entries).Sorted :=
  sorted_update List.Pairwise.nil entries

theorem mem_update {d : Dict α} {entries : List (String × α)} {e : String × α}
    (h : e ∈ update d entries) : e ∈ d ∨ e ∈ entries := by
  induction entries generalizing d with
  | nil => exact .inl h
  | cons p rest ih =>
    rcases ih h with hEarlier | hLater
    · rcases mem_insert hEarlier with rfl | hEarlier
      · exact .inr List.mem_cons_self
      · exact .inl hEarlier
    · exact .inr (List.mem_cons_of_mem _ hLater)

theorem mem_of_mem_ofList {entries : List (String × α)} {e : String × α} (h : e ∈ ofList entries) :
    e ∈ entries :=
  (mem_update h).resolve_left List.not_mem_nil

theorem insert_last {d : Dict α} {key : String} (v : α) (h : ∀ e ∈ d, e.1 < key) :
    d.insert key v = d ++ [(key, v)] := by
  induction d with
  | nil => rfl
  | cons p rest ih =>
    obtain ⟨k, w⟩ := p
    have hBefore : k < key := h (k, w) List.mem_cons_self
    have hApart : key ≠ k := fun hSame => String.lt_irrefl k (hSame ▸ hBefore)
    rw [insert, if_neg hApart, if_neg (String.lt_asymm hBefore),
      ih fun e hMember => h e (List.mem_cons_of_mem _ hMember)]
    rfl

theorem update_of_sorted {d entries : Dict α} (h : (d ++ entries).Sorted) :
    update d entries = d ++ entries := by
  induction entries generalizing d with
  | nil => simp [update]
  | cons p rest ih =>
    obtain ⟨k, v⟩ := p
    have hBelow : ∀ e ∈ d, e.1 < k := fun e hMember =>
      (List.pairwise_append.mp h).2.2 e hMember (k, v) List.mem_cons_self
    have hUnfolded : update d ((k, v) :: rest) = update (d.insert k v) rest := rfl
    have hRegrouped : d ++ (k, v) :: rest = (d ++ [(k, v)]) ++ rest := by simp
    rw [hUnfolded, insert_last v hBelow, ih (hRegrouped ▸ h), hRegrouped]

theorem ofList_of_sorted {d : Dict α} (h : d.Sorted) : ofList d = d :=
  @update_of_sorted α [] d h

end Order

theorem ofList_eq_nil {entries : List (String × α)} (h : ofList entries = []) : entries = [] := by
  cases entries with
  | nil => rfl
  | cons e rest =>
    obtain ⟨k, v⟩ := e
    have hFound := get?_ofList ((k, v) :: rest) k
    rw [h, last?_cons, if_pos rfl] at hFound
    cases hLast : last? rest k with
    | none => rw [hLast] at hFound; cases hFound
    | some w => rw [hLast] at hFound; cases hFound

section Unique

def Unique (d : Dict α) : Prop := d.keys.Nodup

theorem Sorted.unique {d : Dict α} (h : d.Sorted) : d.Unique := by
  refine List.pairwise_map.mpr (List.Pairwise.imp ?_ h)
  intro a b hBefore hSame
  exact String.lt_irrefl b.1 (hSame ▸ hBefore)

theorem Unique.filter {d : Dict α} (h : d.Unique) (p : String × α → Bool) : Unique (d.filter p) :=
  h.sublist (List.filter_sublist.map Prod.fst)

theorem get?_of_mem {d : Dict α} (hUnique : d.Unique) {key : String} {v : α} (h : (key, v) ∈ d) :
    d.get? key = some v := by
  induction d with
  | nil => cases h
  | cons p rest ih =>
    obtain ⟨k, w⟩ := p
    obtain ⟨hFresh, hUnique⟩ := List.nodup_cons.mp hUnique
    rcases List.mem_cons.mp h with hSame | hLater
    · cases hSame
      simp [get?]
    · have hApart : k ≠ key := fun hSame => hFresh (List.mem_map.mpr ⟨(key, v), hLater, hSame.symm⟩)
      rw [get?, if_neg hApart]
      exact ih hUnique hLater

theorem get?_eq_some_iff {d : Dict α} (hUnique : d.Unique) {key : String} {v : α} :
    d.get? key = some v ↔ (key, v) ∈ d :=
  ⟨mem_of_get?, get?_of_mem hUnique⟩

theorem last?_of_unique {d : Dict α} (hUnique : d.Unique) (key : String) :
    last? d key = d.get? key := by
  have hBackward : Unique d.reverse := by
    rw [Unique, keys, List.map_reverse]
    exact List.pairwise_reverse.mpr (hUnique.imp Ne.symm)
  apply Option.ext
  intro v
  rw [last?, get?_eq_some_iff hBackward, get?_eq_some_iff hUnique, List.mem_reverse]

end Unique

end Dict

namespace Json

mutual

def IsValue : Json → Prop
  | .num (.int n) => -0x8000000000000000 ≤ n ∧ n < 0x10000000000000000
  | .num (.double x) => x.isFinite = true
  | .arr items => ItemsAreValues items
  | .obj fields => Dict.Unique fields ∧ FieldsAreValues fields
  | .null => True
  | .bool _ => True
  | .str _ => True

def ItemsAreValues : List Json → Prop
  | [] => True
  | v :: rest => IsValue v ∧ ItemsAreValues rest

def FieldsAreValues : List (String × Json) → Prop
  | [] => True
  | (_, v) :: rest => IsValue v ∧ FieldsAreValues rest

end

theorem itemsAreValues_iff {items : List Json} : ItemsAreValues items ↔ ∀ v ∈ items, v.IsValue := by
  induction items with
  | nil => simp [ItemsAreValues]
  | cons v rest ih => simp [ItemsAreValues, ih]

theorem fieldsAreValues_iff {fields : List (String × Json)} :
    FieldsAreValues fields ↔ ∀ e ∈ fields, e.2.IsValue := by
  induction fields with
  | nil => simp [FieldsAreValues]
  | cons e rest ih =>
    obtain ⟨k, v⟩ := e
    simp [FieldsAreValues, ih]

theorem isValue_arr_iff {items : List Json} : (Json.arr items).IsValue ↔
    ∀ v ∈ items, v.IsValue := by
  rw [IsValue, itemsAreValues_iff]

theorem isValue_obj_iff {fields : List (String × Json)} :
    (Json.obj fields).IsValue ↔ Dict.Unique fields ∧ ∀ e ∈ fields, e.2.IsValue := by
  rw [IsValue, fieldsAreValues_iff]

section Normal

theorem normalizeItems_eq_map (items : List Json) : normalizeItems items = items.map normalize := by
  induction items with
  | nil => rfl
  | cons v rest ih => rw [normalizeItems, ih, List.map_cons]

theorem normalizeFields_eq_map (fields : List (String × Json)) :
    normalizeFields fields = fields.map fun e => (e.1, e.2.normalize) := by
  induction fields with
  | nil => rfl
  | cons e rest ih =>
    obtain ⟨k, v⟩ := e
    rw [normalizeFields, ih, List.map_cons]

theorem normalizeFields_of_forall {fields : List (String × Json)}
    (h : ∀ e ∈ fields, e.2.normalize = e.2) : normalizeFields fields = fields := by
  rw [normalizeFields_eq_map]
  exact (List.map_congr_left fun e hMember => by rw [h e hMember]).trans (List.map_id' fields)

mutual

theorem normalize_normalize : (j : Json) → j.normalize.normalize = j.normalize
  | .null => rfl
  | .bool _ => rfl
  | .num _ => rfl
  | .str _ => rfl
  | .arr items => by
    have hInner := normalize_normalizeItems items
    rw [normalize, normalize, normalizeItems_eq_map, List.map_congr_left hInner, List.map_id']
  | .obj fields => by
    have hInner := normalize_normalizeFields fields
    rw [normalize, normalize, normalizeFields_of_forall fun e hMember =>
      hInner e (Dict.mem_of_mem_ofList hMember), Dict.ofList_of_sorted (Dict.sorted_ofList _)]

theorem normalize_normalizeItems : (items : List Json) → ∀ v ∈ normalizeItems items, v.normalize = v
  | [] => fun _ hMember => nomatch hMember
  | v :: rest => fun w hMember =>
    (List.mem_cons.mp hMember).elim (fun hSame => hSame ▸ normalize_normalize v)
      (normalize_normalizeItems rest w)

theorem normalize_normalizeFields :
    (fields : List (String × Json)) → ∀ e ∈ normalizeFields fields, e.2.normalize = e.2
  | [] => fun _ hMember => nomatch hMember
  | (_, v) :: rest => fun e hMember =>
    (List.mem_cons.mp hMember).elim (fun hSame => hSame ▸ normalize_normalize v)
      (normalize_normalizeFields rest e)

end

theorem normalize_eq_null {j : Json} (h : j.normalize = .null) : j = .null := by
  cases j with
  | null => rfl
  | bool b => exact h
  | num n => exact h
  | str s => exact h
  | arr items => exact nomatch h
  | obj fields => exact nomatch h

theorem normalize_eq_empty {j : Json} (h : j.normalize = .obj []) : j = .obj [] := by
  cases j with
  | obj fields =>
    have hNone := Dict.ofList_eq_nil (Json.obj.inj h)
    rw [normalizeFields_eq_map] at hNone
    rw [List.map_eq_nil_iff.mp hNone]
  | _ => exact nomatch h

/-- Putting the fields of an object with unique names in order keeps what stands under a name. -/
theorem get?_normalizeFields {fields : List (String × Json)} (hUnique : Dict.Unique fields)
    (key : String) :
    (Dict.ofList (normalizeFields fields)).get? key = (Dict.get? fields key).map normalize := by
  have hKept : Dict.Unique (normalizeFields fields) := by
    rw [Dict.Unique, Dict.keys, normalizeFields_eq_map, List.map_map]
    exact hUnique
  rw [Dict.get?_ofList, Dict.last?_of_unique hKept, normalizeFields_eq_map, Dict.get?_map]

end Normal

end Json

end Stepwise
