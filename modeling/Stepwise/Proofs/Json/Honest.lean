import Stepwise.Expression.Pointer
import Stepwise.Proofs.Json.Value
import Stepwise.Proofs.Json.Written

/-!
# Honest documents

What stands anywhere in a document: texts and names of fields that belong to given words, and
pointers to places that may be read. A document stays honest when its fields are put in order, when
it is written and read again, and when it becomes a part of another one, unless a field that makes a
pointer is added.
-/

namespace Stepwise

set_option autoImplicit false

namespace Dict

variable {α : Type} {d e : Dict α} {x : String × α}

theorem isSome_get? (hAmong : x ∈ d) : (d.get? x.1).isSome = true := by
  induction d with
  | nil => cases hAmong
  | cons y rest ih =>
    unfold get?
    split
    · rfl
    · next hOther =>
      refine ih ((List.mem_cons.mp hAmong).resolve_left ?_)
      rintro rfl
      exact hOther rfl

theorem isSome_last? (hAmong : x ∈ d) : (last? d x.1).isSome = true :=
  isSome_get? (List.mem_reverse.mpr hAmong)

end Dict

/-- What the texts of a document and the names of its fields may be. -/
structure Words where
  text : String → Prop
  name : String → Prop

def Words.any : Words := ⟨fun _ => True, fun _ => True⟩

namespace Json

/-- The document stands somewhere in the other. -/
inductive Part (u : Json) : Json → Prop where
  | self : Part u u
  | item {items : List Json} {v : Json} (hAmong : v ∈ items) (hInside : Part u v) :
    Part u (.arr items)
  | field {fields : List (String × Json)} {e : String × Json} (hAmong : e ∈ fields)
      (hInside : Part u e.2) : Part u (.obj fields)

/-- Every text in the document has the one property, and every object the other. -/
structure Every (text : String → Prop) (object : List (String × Json) → Prop) (v : Json) :
    Prop where
  texts : ∀ s, Part (.str s) v → text s
  objects : ∀ fields, Part (.obj fields) v → object fields

section Every

variable {text text' : String → Prop} {object object' : List (String × Json) → Prop} {v : Json}

theorem Every.mono (h : Every text object v) (ht : ∀ s, text s → text' s)
    (ho : ∀ fields, object fields → object' fields) : Every text' object' v :=
  ⟨fun s hPart => ht s (h.texts s hPart), fun fields hPart => ho fields (h.objects fields hPart)⟩

@[simp] theorem every_null : Every text object .null := ⟨nofun, nofun⟩

@[simp] theorem every_bool (b : Bool) : Every text object (.bool b) := ⟨nofun, nofun⟩

@[simp] theorem every_num (n : Number) : Every text object (.num n) := ⟨nofun, nofun⟩

@[simp] theorem every_str_iff {s : String} : Every text object (.str s) ↔ text s := by
  refine ⟨fun h => h.texts s .self, fun h => ⟨fun t hPart => ?_, nofun⟩⟩
  cases hPart
  exact h

@[simp] theorem every_arr_iff {items : List Json} :
    Every text object (.arr items) ↔ ∀ v ∈ items, Every text object v := by
  refine ⟨fun h v hAmong => ⟨fun s hPart => h.texts s (.item hAmong hPart),
    fun fields hPart => h.objects fields (.item hAmong hPart)⟩, fun h => ⟨?_, ?_⟩⟩
  · intro s hPart
    cases hPart with
    | item hAmong hInside => exact (h _ hAmong).texts s hInside
  · intro fields hPart
    cases hPart with
    | item hAmong hInside => exact (h _ hAmong).objects fields hInside

theorem every_obj_iff {fields : List (String × Json)} :
    Every text object (.obj fields) ↔ object fields ∧ ∀ e ∈ fields, Every text object e.2 := by
  refine ⟨fun h =>
    ⟨h.objects fields .self, fun e hAmong => ⟨fun s hPart => h.texts s (.field hAmong hPart),
    fun fields hPart => h.objects fields (.field hAmong hPart)⟩⟩, fun h => ⟨?_, ?_⟩⟩
  · intro s hPart
    cases hPart with
    | field hAmong hInside => exact (h.2 _ hAmong).texts s hInside
  · intro fields hPart
    cases hPart with
    | self => exact h.1
    | field hAmong hInside => exact (h.2 _ hAmong).objects fields hInside

end Every

def reference : String := "objectStoreRef"

/-- The object is a pointer to the place, whichever of several fields with one name counts. -/
def Points (fields : List (String × Json)) (p : Pointer) : Prop :=
  (∀ e ∈ fields, e.1 = reference) ∧ ∃ place, (reference, .obj place) ∈ fields ∧
    ("container", .str p.container) ∈ place ∧ ("key", .str p.key) ∈ place

/-- The texts and names of the document are among the words, and its pointers lead to the places. -/
abbrev Honest (words : Words) (places : Pointer → Prop) (v : Json) : Prop :=
  Every words.text
    (fun fields => (∀ e ∈ fields, words.name e.1) ∧ ∀ p, Points fields p → places p) v

/-- The texts and names of the document are among the words, and no object in it has the field of a
pointer. -/
abbrev Inert (words : Words) (v : Json) : Prop :=
  Every words.text (fun fields => ∀ e ∈ fields, e.1 ≠ reference ∧ words.name e.1) v

theorem points_of_ofJson? {fields : List (String × Json)} {p : Pointer}
    (h : Pointer.ofJson? (.obj fields) = some p) : Points fields p := by
  unfold Pointer.ofJson? at h
  split at h
  · next place hSame =>
    cases hSame
    split at h
    · next container key hc hk =>
      cases h
      exact ⟨fun e hAmong => by
        rw [List.mem_singleton.mp hAmong]; rfl, place, List.mem_singleton_self _,
        Dict.mem_of_get? hc, Dict.mem_of_get? hk⟩
    · cases h
  · cases h

section Honest

variable {words : Words} {places : Pointer → Prop} {v w : Json} {d e : Dict Json}

theorem honest_obj_iff {fields : List (String × Json)} : (Json.obj fields).Honest words places ↔
    (∀ e ∈ fields, words.name e.1 ∧ e.2.Honest words places) ∧ ∀ p, Points fields p → places p := by
  refine every_obj_iff.trans ⟨fun ⟨⟨hNames, hPlaces⟩, hValues⟩ => ?_, fun ⟨hFields, hPlaces⟩ => ?_⟩
  · exact ⟨fun e he => ⟨hNames e he, hValues e he⟩, hPlaces⟩
  · exact ⟨⟨fun e he => (hFields e he).1, hPlaces⟩, fun e he => (hFields e he).2⟩

theorem Honest.fields {fields : List (String × Json)} (h : (Json.obj fields).Honest words places) :
    ∀ e ∈ fields, words.name e.1 ∧ e.2.Honest words places := (honest_obj_iff.mp h).1

theorem Honest.values {fields : List (String × Json)} (h : (Json.obj fields).Honest words places) :
    ∀ e ∈ fields, e.2.Honest words places := fun e he => (h.fields e he).2

theorem Honest.place {p : Pointer} (h : v.Honest words places)
    (hPointer : Pointer.ofJson? v = some p) :
    places p := by
  cases v with
  | obj fields => exact (honest_obj_iff.mp h).2 p (points_of_ofJson? hPointer)
  | _ => cases hPointer

/-- An object with another field than a pointer's is as honest as its fields. -/
theorem honest_of_other {fields : List (String × Json)} {x : String × Json} (hx : x ∈ fields)
    (hOther : x.1 ≠ reference) (hFields : ∀ e ∈ fields, words.name e.1 ∧ e.2.Honest words places) :
    (Json.obj fields).Honest words places :=
  honest_obj_iff.mpr ⟨hFields, fun _ hp => absurd (hp.1 x hx) hOther⟩

theorem honest_empty : (Json.obj []).Honest words places :=
  honest_obj_iff.mpr ⟨nofun, fun _ ⟨_, _, hEntry, _⟩ => absurd hEntry List.not_mem_nil⟩

theorem Honest.mono {places' : Pointer → Prop} (h : v.Honest words places)
    (hPlaces : ∀ p, places p → places' p) : v.Honest words places' :=
  Every.mono h (fun _ ht => ht) fun _ ho => ⟨ho.1, fun p hp => hPlaces p (ho.2 p hp)⟩

theorem Honest.free (h : v.Honest words places) : v.Honest .any places :=
  Every.mono h (fun _ _ => trivial) fun _ ho => ⟨fun _ _ => trivial, ho.2⟩

end Honest

section Echoes

/-- What the second document holds stands in the same way in the first. -/
structure Echoes (R : Json → Json → Prop) : Prop where
  str : ∀ {v s}, R v (.str s) → v = .str s
  arr : ∀ {v items}, R v (.arr items) → ∃ given, v = .arr given ∧ ∀ w ∈ items, ∃ u ∈ given, R u w
  obj : ∀ {v fields}, R v (.obj fields) → ∃ given, v = .obj given ∧
    (∀ e ∈ fields, ∃ x ∈ given, x.1 = e.1 ∧ R x.2 e.2) ∧ ∀ x ∈ given, ∃ e ∈ fields, e.1 = x.1

variable {R : Json → Json → Prop} {words : Words} {places : Pointer → Prop} {v w : Json}

theorem Echoes.part (hEchoes : Echoes R) {u : Json} (hPart : Part u w) (h : R v w) :
    ∃ given, Part given v ∧ R given u := by
  induction hPart generalizing v with
  | self => exact ⟨v, .self, h⟩
  | item hAmong _ ih =>
    obtain ⟨items, rfl, hEach⟩ := hEchoes.arr h
    obtain ⟨x, hThere, hRelated⟩ := hEach _ hAmong
    obtain ⟨given, hPart, hSame⟩ := ih hRelated
    exact ⟨given, .item hThere hPart, hSame⟩
  | field hAmong _ ih =>
    obtain ⟨fields, rfl, hEach, -⟩ := hEchoes.obj h
    obtain ⟨x, hThere, -, hRelated⟩ := hEach _ hAmong
    obtain ⟨given, hPart, hSame⟩ := ih hRelated
    exact ⟨given, .field hThere hPart, hSame⟩

end Echoes

end Json

end Stepwise
