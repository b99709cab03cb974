import Stepwise.Flow.Validity

/-!
# Flows without problems

What a flow without problems is like: it begins at one of its steps, a step stands under its own id,
and a step refers only to steps of the flow.
-/

namespace Stepwise.Flow

set_option autoImplicit false

variable {f : Flow}

theorem problems_eq_nil (hValid : f.problems = []) :
    (f.steps.filter fun e => e.1 ≠ e.2.id) = [] ∧ f.steps.contains f.start = true ∧
      ∀ e ∈ f.steps, e.2.problems f.steps = [] := by
  simp only [problems, List.append_eq_nil_iff, List.map_eq_nil_iff, List.flatMap_eq_nil_iff]
    at hValid
  obtain ⟨⟨⟨-, hIds⟩, hStart⟩, hSteps⟩ := hValid
  refine ⟨hIds, ?_, hSteps⟩
  cases hs : f.steps.contains f.start with
  | true => rfl
  | false => simp [hs] at hStart

theorem start_mem (hValid : f.problems = []) : f.steps.contains f.start = true :=
  (problems_eq_nil hValid).2.1

theorem id_eq_of_mem (hValid : f.problems = []) {id : String} {step : Step}
    (h : (id, step) ∈ f.steps) : step.id = id := by
  have hSame := List.filter_eq_nil_iff.mp (problems_eq_nil hValid).1 _ h
  simp only [ne_eq, decide_not, Bool.not_eq_true', decide_eq_false_iff_not,
    Decidable.not_not] at hSame
  exact hSame.symm

theorem id_eq_of_step? (hValid : f.problems = []) {id : String} {step : Step}
    (h : f.step? id = some step) : step.id = id :=
  id_eq_of_mem hValid (Dict.mem_of_get? h)

theorem reference_mem (hValid : f.problems = []) {id target : String} {step : Step}
    (h : (id, step) ∈ f.steps) (ht : target ∈ step.references) :
    f.steps.contains target = true := by
  have hp := (problems_eq_nil hValid).2.2 _ h
  simp only [Step.problems, List.append_eq_nil_iff, List.map_eq_nil_iff] at hp
  simpa using List.filter_eq_nil_iff.mp hp.1 _ ht

theorem fallback_mem (hValid : f.problems = []) {id target : String} {step : Step}
    (h : (id, step) ∈ f.steps) (ht : step.fallback = some target) :
    f.steps.contains target = true := by
  apply reference_mem hValid h
  simp [Step.references, ht]

theorem branchTarget_mem (hValid : f.problems = []) {key id : String} {step : Step} {config : Fork}
    {b : Branch} (h : (key, step) ∈ f.steps) (hKind : step.kind = .fork config)
    (hb : b ∈ config.branches) (ht : b.target = .step id) : f.steps.contains id = true := by
  apply reference_mem hValid h
  apply List.mem_append_right
  simp only [Step.branchTargets, hKind]
  exact List.mem_filterMap.mpr ⟨b, hb, by simp [ht]⟩

def orders : Flow where
  id := "orders"
  version := 1
  isPublished := true
  steps := [("charge", {
      id := "charge"
      kind := .customLogic
      moduleId := some "payments"
      outputMappings := [("paid", .bool true), ("receipt", .str "no. 4711")]
      defaultNext := some "delivery"
      onError := some ⟨some "refund"⟩ }),
    ("delivery", { id := "delivery", kind := .wait ⟨"delivery-{{orderId}}", none⟩ }),
    ("refund", { id := "refund", kind := .endFlow })]
  start := "charge"
  defaultContext := [("currency", .str "EUR")]
  defaultStepConfig := []
  onCompletionActions := []
  createdAt := none
  updatedAt := none

theorem orders_valid : orders.problems = [] := by decide

end Stepwise.Flow
