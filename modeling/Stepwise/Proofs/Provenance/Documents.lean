import Stepwise.Proofs.Provenance.Expressions

/-!
# The documents of a step

The scope and the input of a step, what it writes into the context, what its handler answers and
what the branches of a fork are given and bring back. All of them are honest, and only known places
are read on the way.
-/

namespace Stepwise

set_option autoImplicit false

open Program

variable {words : Words} {places : Pointer → Prop} {s : Settings}

/-- The program keeps to the terms and ends with a value that has the property, or with an honest
failure. -/
abbrev StepProgram.Yields {α : Type} (words : Words) (places : Pointer → Prop) (P : α → Prop)
    (p : StepProgram α) : Prop :=
  Keeps (honestTerms words places) P (StepError.Honest places) p

section Failures

variable {α : Type} {P : α → Prop}

end Failures

section Scope

theorem Vocabulary.field (hWords : Vocabulary words s) {name : String} {v : Json}
    (hName : name ∈ engineNames) (hv : v.Honest words places) : words.name name ∧
    v.Honest words places :=
  ⟨hWords.names name hName, hv⟩

end Scope

section Inputs

variable (hWords : Vocabulary words s) {scope : Json} (h : scope.Honest words places)

include hWords h

end Inputs

section Outputs

variable (hWords : Vocabulary words s) {executionId : String}
  (hKeys : ∀ destination content, words.text (Offload.key executionId destination content))

/-- What stands for a value after offloading: the value itself, or a pointer. -/
structure StandsFor (words : Words) (places : Pointer → Prop) (v w : Json) : Prop where
  honest : w.Honest words places
  shape : w = v ∨ ∃ p : Pointer, w = p.toJson

include hWords hKeys

namespace Output

/-- If nothing stopped the writing, the context is honest. -/
def Written.Honest (words : Words) (places : Pointer → Prop) (w : Written) : Prop :=
  w.failure = none → (Json.obj w.context).Honest words places

/-- The fields as they were stored, each by its value or a pointer. -/
structure Stored (words : Words) (places : Pointer → Prop) (fields stored : List (String × Json)) :
    Prop where
  values : ∀ x ∈ stored, ∃ e ∈ fields, x.1 = e.1 ∧ StandsFor words places e.2 x.2
  names : ∀ e ∈ fields, ∃ x ∈ stored, x.1 = e.1

omit hWords hKeys in
theorem Stored.honest {fields stored : List (String × Json)} (h : Stored words places fields stored)
    (hf : (Json.obj fields).Honest words places) : (Json.obj stored).Honest words places := by
  refine Json.honest_obj_iff.mpr
    ⟨fun x hx => ?_, fun p ⟨hNamed, place, hAmong, hContainer, hKey⟩ => ?_⟩
  · obtain ⟨e, he, hSame', hStands⟩ := h.values x hx
    rw [hSame']
    exact ⟨(hf.fields e he).1, hStands.honest⟩
  · refine (Json.honest_obj_iff.mp hf).2 p ⟨fun e hThere => ?_, place, ?_, hContainer, hKey⟩
    · obtain ⟨x, hMember, hSame⟩ := h.names e hThere
      rw [← hSame]
      exact hNamed x hMember
    · obtain ⟨⟨name, v⟩, hThere, hSame, hStands⟩ := h.values _ hAmong
      rcases hStands.shape with hWhole | ⟨q, hMoved⟩
      · cases hSame
        cases hWhole
        exact hThere
      · -- what a pointer refers to is no pointer
        cases hMoved
        exact absurd (List.mem_singleton.mp hContainer) (by simp)

end Output

end Outputs

section Handlers

namespace Dispatch

end Dispatch

end Handlers

section Branches

namespace Fork

variable (hWords : Vocabulary words s) {state : ExecutionState}
  (h : state.scope.Honest words places)

include hWords h

end Fork

namespace Aggregation

variable {results : List BranchResult} (h : ∀ r ∈ results, ∀ v ∈ r.output, v.Honest words places)

include h

end Aggregation

end Branches

end Stepwise
