import Stepwise.Proofs.Flow.Codec
import Stepwise.Proofs.Json.Order

/-!
# Flows that were read

Flows that were read from a document: the documents in them are in normal form, and the merging of a
fork is read again from what is written for it.
-/

namespace Stepwise

set_option autoImplicit false

open Json

section Branches

def InputMapping.Orderly : InputMapping → Prop
  | .source _ => True
  | .template t => t.Normal

theorem InputMapping.orderly_of_readFrom {m : InputMapping} (h : ReadFrom ofJson? m) :
    m.Orderly := by
  obtain ⟨v, -, hRead⟩ := h
  unfold ofJson? at hRead
  split at hRead
  · cases hRead
    trivial
  · cases hRead
    exact normal_normalize v

theorem inputMappings_orderly {r : Dict Json} {name : String} {d : Dict InputMapping}
    (hValues : Values r) (hRead : r.defaulted name [] (dict? InputMapping.ofJson?) = some d) :
    ∀ e ∈ d, e.2.Orderly := by
  intro e hAmong
  rcases Dict.readFrom_defaulted hValues hRead with rfl | hGiven
  · cases hAmong
  · exact InputMapping.orderly_of_readFrom (hGiven.dict e hAmong)

/-- The merging is read again from what is written for it where it was set aside. -/
def Aggregation.Orderly (a : Aggregation) : Prop := ofJson? .loose a.toJson = some a

theorem Aggregation.orderly_of_readFrom {a : Aggregation} (h : ReadFrom (ofJson? .loose) a) :
    a.Orderly := by
  obtain ⟨v, hValue, hRead⟩ := h
  exact Aggregation.rereads .loose v a hValue hRead

theorem Aggregation.orderly_default : Aggregation.Orderly {} :=
  orderly_of_readFrom ⟨.obj [], ⟨List.nodup_nil, trivial⟩, rfl⟩

structure Branch.Orderly (b : Branch) : Prop where
  inputMappings : ∀ e ∈ b.inputMappings, e.2.Orderly
  literals : b.literals.Normal

theorem Branch.orderly_of_readFrom {b : Branch} {mode : Reading} (h : ReadFrom (ofJson? mode) b) :
    b.Orderly := by
  obtain ⟨v, hValue, hRead⟩ := h
  simp only [ofJson?, Option.bind_eq_bind, Option.bind_eq_some_iff, Option.some.injEq] at hRead
  obtain ⟨r, hOpened, id, -, target, -, inputs, hReadInputs, literals, hReadLiterals, condition, -,
    rfl⟩ :=
    hRead
  have hValues := values_of_record? hValue hOpened
  exact ⟨inputMappings_orderly hValues hReadInputs, Dict.normal_defaulted hValues hReadLiterals⟩

structure Fork.Orderly (f : Fork) : Prop where
  branches : ∀ b ∈ f.branches, b.Orderly
  aggregation : f.aggregation.Orderly

theorem Fork.orderly_of_readFrom {f : Fork} (h : ReadFrom (ofJson? .loose) f) : f.Orderly := by
  obtain ⟨v, hValue, hRead⟩ := h
  simp only [ofJson?, Option.bind_eq_bind, Option.bind_eq_some_iff, Option.some.injEq] at hRead
  obtain ⟨r, hOpened, branches, hReadBranches, aggregation, hReadAggregation, concurrency, -,
    rfl⟩ := hRead
  have hValues := values_of_record? hValue hOpened
  constructor
  · intro b hAmong
    rcases Dict.readFrom_defaulted hValues hReadBranches with rfl | hGiven
    · cases hAmong
    · exact Branch.orderly_of_readFrom (hGiven.list b hAmong)
  · rcases Dict.readFrom_defaulted hValues hReadAggregation with rfl | hGiven
    · exact Aggregation.orderly_default
    · exact Aggregation.orderly_of_readFrom hGiven

end Branches

section Steps

theorem StepKind.fork_of_readFrom {config : Fork} (h : ReadFrom ofJson? (.fork config)) :
    config.Orderly := by
  obtain ⟨v, hValue, hRead⟩ := h
  obtain ⟨⟨tag, rest⟩, hTagging, hRead⟩ := Option.bind_eq_some_iff.mp hRead
  obtain ⟨⟨name, hKnown⟩, hValue⟩ := tagged?_eq_some hValue hTagging
  cases tag with
  | plain kind =>
    obtain ⟨-, -, rfl⟩ := Option.map_eq_some_iff.mp hRead
    simp [tags] at hKnown
  | fork =>
    obtain ⟨f, hReadFork, hSame⟩ := Option.map_eq_some_iff.mp hRead
    cases hSame
    exact Fork.orderly_of_readFrom ⟨rest, hValue, hReadFork⟩
  | _ =>
    obtain ⟨_, -, hSame⟩ := Option.map_eq_some_iff.mp hRead
    cases hSame

structure Step.Orderly (s : Step) : Prop where
  customConfig : s.customConfig.Normal
  inputMappings : ∀ e ∈ s.inputMappings, e.2.Orderly
  outputMappings : s.outputMappings.Normal
  literals : s.literals.Normal
  fork : ∀ config, s.kind = .fork config → config.Orderly

theorem Step.orderly_of_readFrom {s : Step} (h : ReadFrom ofJson? s) : s.Orderly := by
  obtain ⟨v, hValue, hRead⟩ := h
  cases v with
  | obj fields =>
    simp only [ofJson?, Option.bind_eq_bind, Option.bind_eq_some_iff, Option.some.injEq] at hRead
    obtain ⟨r, hOpened, id, -, kind, hReadKind, moduleId, -, custom, hReadCustom, inputs,
      hReadInputs, outputs, hReadOutputs, literals, hReadLiterals, transitions, -, next, -, error,
      -, rfl⟩ := hRead
    have hValues := values_of_record? hValue hOpened
    obtain ⟨hUnique, hEach⟩ := isValue_obj_iff.mp hValue
    have hValueOfKind : (kindFields fields).IsValue :=
      isValue_obj_iff.mpr
        ⟨hUnique.filter _, fun e hMember => hEach e (List.mem_filter.mp hMember).1⟩
    exact {
      customConfig := Dict.normal_defaulted hValues hReadCustom
      inputMappings := inputMappings_orderly hValues hReadInputs
      outputMappings := Dict.normal_defaulted hValues hReadOutputs
      literals := Dict.normal_defaulted hValues hReadLiterals
      fork := fun config hSame => by
        cases hSame
        exact StepKind.fork_of_readFrom ⟨_, hValueOfKind, hReadKind⟩ }
  | _ => cases hRead

structure Flow.Orderly (f : Flow) : Prop where
  steps : ∀ e ∈ f.steps, e.2.Orderly
  defaultContext : f.defaultContext.Normal
  defaultStepConfig : f.defaultStepConfig.Normal

theorem Flow.Orderly.step {f : Flow} (h : f.Orderly) {id : String} {step : Step}
    (hFound : f.step? id = some step) : step.Orderly := h.steps (id, step) (Dict.mem_of_get? hFound)

theorem Flow.orderly_of_readFrom {f : Flow} (h : ReadFrom ofJson? f) : f.Orderly := by
  obtain ⟨v, hValue, hRead⟩ := h
  simp only [ofJson?, Option.bind_eq_bind, Option.bind_eq_some_iff, Option.some.injEq] at hRead
  obtain ⟨r, hOpened, id, -, version, -, published, -, steps, hReadSteps, start, -, context,
    hReadContext, config, hReadConfig, actions, -, created, -, updated, -, rfl⟩ := hRead
  have hValues := values_of_record? hValue hOpened
  exact {
    steps := fun e hAmong =>
      Step.orderly_of_readFrom ((Dict.readFrom_required hValues hReadSteps).dict e hAmong)
    defaultContext := Dict.normal_defaulted hValues hReadContext
    defaultStepConfig := Dict.normal_defaulted hValues hReadConfig }

end Steps

end Stepwise
