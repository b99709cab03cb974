/-!
# Finite maps with ordered names

Finite maps from names to values. The entries stand in ascending order of the names, which is the
order in which they are written and visited. Looking up after writing or erasing needs no assumption
on the order.
-/

namespace Stepwise

set_option autoImplicit false

/-- Entries of a finite map, kept in ascending order of the names by `insert`. -/
abbrev Dict (α : Type) := List (String × α)

namespace Dict

variable {α : Type}

def get? : Dict α → String → Option α
  | [], _ => none
  | (k, v) :: rest, key => if k = key then some v else get? rest key

def contains (d : Dict α) (key : String) : Bool := (d.get? key).isSome

def insert : Dict α → String → α → Dict α
  | [], key, v => [(key, v)]
  | (k, w) :: rest, key, v =>
    if key = k then (key, v) :: rest
    else if key < k then (key, v) :: (k, w) :: rest
    else (k, w) :: insert rest key v

def erase (d : Dict α) (key : String) : Dict α := d.filter fun e => e.1 ≠ key

def keys (d : Dict α) : List String := d.map Prod.fst

def update (d e : Dict α) : Dict α := e.foldl (fun d p => d.insert p.1 p.2) d

/-- The map of a list of entries; of two entries with one name the later counts. -/
def ofList (entries : List (String × α)) : Dict α := update [] entries

/-- Adds those entries of the second map whose names are new. -/
def withDefaults (d e : Dict α) : Dict α :=
  e.foldl (fun d p => if d.contains p.1 then d else d.insert p.1 p.2) d

def Sorted (d : Dict α) : Prop := d.Pairwise fun a b => a.1 < b.1

@[simp] theorem get?_nil (key : String) : get? ([] : Dict α) key = none := rfl

@[simp] theorem get?_insert_self (d : Dict α) (key : String) (v : α) :
    (d.insert key v).get? key = some v := by
  induction d with
  | nil => simp [insert, get?]
  | cons e rest ih =>
    obtain ⟨k, w⟩ := e
    by_cases h : key = k
    · simp [insert, get?, h]
    · by_cases hlt : key < k
      · simp [insert, get?, h, hlt]
      · simp [insert, get?, h, hlt, ih, Ne.symm h]

theorem get?_insert_of_ne (d : Dict α) {key other : String} (v : α) (h : other ≠ key) :
    (d.insert key v).get? other = d.get? other := by
  induction d with
  | nil => simp [insert, get?, h.symm]
  | cons e rest ih =>
    obtain ⟨k, w⟩ := e
    by_cases hk : key = k
    · subst hk
      simp [insert, get?, h.symm]
    · by_cases hlt : key < k
      · simp [insert, get?, hk, hlt, h.symm]
      · simp [insert, get?, hk, hlt, ih]

theorem get?_insert (d : Dict α) (key other : String) (v : α) :
    (d.insert key v).get? other = if other = key then some v else d.get? other := by
  by_cases h : other = key
  · simp [h]
  · simp [h, get?_insert_of_ne d v h]

@[simp] theorem get?_erase_self (d : Dict α) (key : String) : (d.erase key).get? key = none := by
  induction d with
  | nil => rfl
  | cons e rest ih =>
    obtain ⟨k, w⟩ := e
    by_cases h : k = key
    · simpa [erase, h] using ih
    · simp only [erase, ne_eq, List.filter_cons, h, not_false_eq_true, decide_true, if_true, get?,
        if_false]
      exact ih

theorem get?_erase_of_ne (d : Dict α) {key other : String} (h : other ≠ key) :
    (d.erase key).get? other = d.get? other := by
  induction d with
  | nil => rfl
  | cons e rest ih =>
    obtain ⟨k, w⟩ := e
    by_cases hk : k = key
    · subst hk
      simpa [erase, get?, h.symm] using ih
    · by_cases ho : k = other
      · simp [erase, get?, ho, h]
      · simpa [erase, get?, hk, ho] using ih

theorem erase_insert_self (d : Dict α) (key : String) (v : α) :
    (d.insert key v).erase key = d.erase key := by
  induction d with
  | nil => simp [insert, erase]
  | cons e rest ih =>
    obtain ⟨k, w⟩ := e
    by_cases hk : key = k
    · simp [insert, erase, hk]
    · by_cases hlt : key < k
      · simp [insert, erase, hk, hlt]
      · have hLater : insert ((k, w) :: rest) key v = (k, w) :: insert rest key v := by
          simp [insert, hk, hlt]
        rw [hLater]
        simp only [erase, List.filter_cons] at ih ⊢
        rw [ih]

theorem erase_comm (d : Dict α) (a b : String) : (d.erase a).erase b = (d.erase b).erase a := by
  simp only [erase, List.filter_filter, Bool.and_comm]

theorem mem_insert {d : Dict α} {key : String} {v : α} {e : String × α} (h : e ∈ d.insert key v) :
    e = (key, v) ∨ e ∈ d := by
  induction d with
  | nil => exact .inl (List.mem_singleton.mp h)
  | cons p rest ih =>
    obtain ⟨k, w⟩ := p
    simp only [insert] at h
    split at h
    · rcases List.mem_cons.mp h with hSame | hLater
      · exact .inl hSame
      · exact .inr (List.mem_cons_of_mem _ hLater)
    · split at h
      · exact List.mem_cons.mp h
      · rcases List.mem_cons.mp h with hSame | hLater
        · exact .inr (hSame ▸ List.mem_cons_self)
        · exact (ih hLater).imp id (List.mem_cons_of_mem _)

theorem get?_withDefaults (d e : Dict α) (key : String) :
    (d.withDefaults e).get? key = (d.get? key).or (e.get? key) := by
  induction e generalizing d with
  | nil => simp [withDefaults]
  | cons p rest ih =>
    obtain ⟨k, v⟩ := p
    have hUnfolded : d.withDefaults ((k, v) :: rest) =
        (if d.contains k then d else d.insert k v).withDefaults rest := rfl
    rw [hUnfolded, ih]
    by_cases hk : k = key
    · subst hk
      cases hd : d.get? k with
      | none => simp [contains, hd, get?]
      | some w => simp [contains, hd]
    · cases hd : d.contains k with
      | true => simp [get?, hk]
      | false => simp [get?, hk, get?_insert_of_ne d v (Ne.symm hk)]

theorem mem_of_get? {d : Dict α} {key : String} {v : α} (h : d.get? key = some v) :
    (key, v) ∈ d := by
  induction d with
  | nil => cases h
  | cons e rest ih =>
    obtain ⟨k, w⟩ := e
    by_cases hk : k = key
    · simp only [get?, hk, if_true, Option.some.injEq] at h
      subst hk h
      exact List.mem_cons_self
    · simp only [get?, hk, if_false] at h
      exact List.mem_cons_of_mem _ (ih h)

end Dict

end Stepwise
