import Stepwise.Engine.Output
import Stepwise.Proofs.Objects.Reading

/-!
# Writing at a path of names

Writing at a path of names, seen by the paths that read the context afterwards: what was written is
read at its own path, and every other path reads as before. This needs the way to the place to stand
in the context itself. Below a pointer, writing would change the pointer and not what it points to.
-/

namespace Stepwise

set_option autoImplicit false

theorem Pointer.ofJson?_insert (d : Dict Json) {name : String} (v : Json)
    (h : name ≠ "objectStoreRef") :
    Pointer.ofJson? (.obj (d.insert name v)) = none := by
  cases hShaped : Pointer.ofJson? (.obj (d.insert name v)) with
  | none => rfl
  | some p =>
    obtain ⟨reference, hOnly, -⟩ := Pointer.ofJson?_eq_some hShaped
    have hWritten := Dict.get?_insert_self d name v
    rw [Json.obj.inj hOnly] at hWritten
    simp [Dict.get?, Ne.symm h] at hWritten

namespace Path

/-- All that stands on the way to the end of a path is an object, and no pointer. -/
def IsOpen (path : Path) (document : Json) : Prop :=
  ∀ (q : Path) w, q <+: path → q ≠ path → q.find? document = some w →
    (∃ fields, w = .obj fields) ∧ Pointer.ofJson? w = none

theorem IsOpen.below {s : Segment} {rest : Path} {v w : Json} (h : IsOpen (s :: rest) v)
    (hFound : s.of? v = some w) : IsOpen rest w := by
  intro q x hBefore hDiffers hLeads
  refine h (s :: q) x (List.cons_prefix_cons.mpr ⟨rfl, hBefore⟩) ?_ ?_
  · exact fun hSame => hDiffers (List.cons.inj hSame).2
  · rw [find?, hFound]
    exact hLeads

theorem find?_empty {q : Path} {w : Json} (h : q.find? (.obj []) = some w) : w = .obj [] := by
  cases q with
  | nil => exact (Option.some.inj h).symm
  | cons s rest => cases s <;> cases h

theorem isOpen_empty (path : Path) : IsOpen path (.obj []) := by
  intro q w _ _ hLeads
  rw [find?_empty hLeads]
  exact ⟨⟨[], rfl⟩, rfl⟩

/-- Where no pointer stands on the way, a path reads what it leads to. -/
theorem read?_of_inline (objects : Objects) {path : Path} {document : Json}
    (hInline : ∀ (q : Path) w, q <+: path → q.find? document = some w → Pointer.ofJson? w = none) :
    path.read? objects document = some (.ofOption (path.find? document)) := by
  induction path generalizing document with
  | nil => rw [read?, Json.behind?_of_none (hInline [] document (List.prefix_refl _) rfl)]; rfl
  | cons s rest ih =>
    rw [read?, Json.behind?_of_none (hInline [] document (List.nil_prefix) rfl), find?]
    cases hFound : s.of? document with
    | none => simp [hFound, Resolved.ofOption]
    | some w =>
      simp only [Option.bind_some, hFound]
      refine ih fun q x hBefore hLeads => ?_
      refine hInline (s :: q) x (List.cons_prefix_cons.mpr ⟨rfl, hBefore⟩) ?_
      rw [find?, hFound]
      exact hLeads

theorem isOpen_of_inline (objects : Objects) {path : Path} {document : Json}
    (hInline : ∀ (q : Path) w, q <+: path → q ≠ path → q.find? document = some w →
      Pointer.ofJson? w = none)
    (hReads : ∀ q : Path, q <+: path → q ≠ path → q.read? objects document = some .undefined ∨
      ∃ fields, q.read? objects document = some (.value (.obj fields))) : IsOpen path document := by
  intro q w hBefore hDiffers hLeads
  have hEarlier : ∀ (p : Path) x, p <+: q → p.find? document = some x →
    Pointer.ofJson? x = none := by
    intro p x hFirst
    refine hInline p x (hFirst.trans hBefore) fun hSame => hDiffers ?_
    exact List.IsPrefix.eq_of_length_le hBefore (hSame ▸ hFirst.length_le)
  have hValue := read?_of_inline objects hEarlier
  rw [hLeads] at hValue
  refine ⟨?_, hInline q w hBefore hDiffers hLeads⟩
  rcases hReads q hBefore hDiffers with hNothing | ⟨fields, hObject⟩
  · cases hValue.symm.trans hNothing
  · cases hValue.symm.trans hObject
    exact ⟨fields, rfl⟩

end Path

namespace Output

def placed : List String → Json → Json → Json
  | [], v, _ => v
  | name :: rest, v, old => .obj (setAt (name :: rest) v (objectFields old))

theorem setAt_cons (name : String) (rest : List String) (v : Json) (d : Dict Json) :
    setAt (name :: rest) v d = d.insert name (placed rest v ((d.get? name).getD .null)) := by
  cases rest <;> rfl

def pathOf (names : List String) : Path := names.map .key

variable {objects : Objects} {names : List String} {d : Dict Json}

theorem ofJson?_setAt {name : String} {rest : List String} (v : Json) (d : Dict Json)
    (h : name ≠ "objectStoreRef") : Pointer.ofJson? (.obj (setAt (name :: rest) v d)) = none := by
  rw [setAt_cons]
  exact Pointer.ofJson?_insert d _ h

theorem read?_setAt_self (v : Json) (d : Dict Json) (hNonempty : names ≠ [])
    (hFree : "objectStoreRef" ∉ names) :
    (pathOf names).read? objects (.obj (setAt names v d)) = (v.behind? objects).map .value := by
  induction names generalizing d with
  | nil => exact absurd rfl hNonempty
  | cons name rest ih =>
    have hHere := List.ne_of_not_mem_cons hFree
    have hBelow := List.not_mem_of_not_mem_cons hFree
    have hBehind : (Json.obj (setAt (name :: rest) v d)).behind? objects = .some _ :=
      Json.behind?_of_none (ofJson?_setAt v d (Ne.symm hHere))
    rw [pathOf, List.map_cons, Path.read?, hBehind, Option.bind_some, setAt_cons, Segment.of?,
      Dict.get?_insert_self]
    cases rest with
    | nil => rfl
    | cons next rest => exact ih _ (List.cons_ne_nil _ _) hBelow

/-- Writing leaves what every other path reads. -/
theorem read?_setAt_of_apart {path : Path} (v : Json) (hWay : (pathOf names).IsOpen (.obj d))
    (hFree : "objectStoreRef" ∉ names) (hApart : ¬ path <+: pathOf names)
    (hApart' : ¬ pathOf names <+: path) :
    path.read? objects (.obj (setAt names v d)) = path.read? objects (.obj d) := by
  induction names generalizing path d with
  | nil => exact absurd List.nil_prefix hApart'
  | cons name rest ih =>
    have hHere := List.ne_of_not_mem_cons hFree
    have hBelow := List.not_mem_of_not_mem_cons hFree
    cases path with
    | nil => exact absurd List.nil_prefix hApart
    | cons s more =>
      have hRoot := (hWay [] (.obj d) List.nil_prefix (by simp [pathOf]) rfl).2
      rw [Path.read?, Json.behind?_of_none (ofJson?_setAt v d (Ne.symm hHere)), Path.read?,
        Json.behind?_of_none hRoot, Option.bind_some, Option.bind_some, setAt_cons]
      -- the two paths go on together through the first name, or part here
      by_cases hSame : s = .key name
      · subst hSame
        have hApart : ¬ more <+: pathOf rest := fun h => hApart (List.cons_prefix_cons.mpr ⟨rfl, h⟩)
        have hApart' : ¬ pathOf rest <+: more :=
          fun h => hApart' (List.cons_prefix_cons.mpr ⟨rfl, h⟩)
        rw [Segment.of?, Dict.get?_insert_self]
        cases rest with
        | nil => exact absurd List.nil_prefix hApart'
        | cons next rest =>
          rw [Segment.of?]
          cases hFound : d.get? name with
          | none =>
            -- nothing was there, and of the new object the path reads nothing
            refine (ih (Path.isOpen_empty _) hBelow hApart hApart').trans ?_
            cases more with
            | nil => exact absurd List.nil_prefix hApart
            | cons t more => cases t <;> rfl
          | some w =>
            have hInner := hWay.below (s := .key name) (w := w) hFound
            obtain ⟨fields, rfl⟩ := (hInner [] w List.nil_prefix (by simp) rfl).1
            exact ih hInner hBelow hApart hApart'
      · cases s with
        | index i => rfl
        | key other =>
          have hDiffers : other ≠ name := fun h => hSame (congrArg Segment.key h)
          rw [Segment.of?, Segment.of?, Dict.get?_insert_of_ne d _ hDiffers]

end Output

end Stepwise
