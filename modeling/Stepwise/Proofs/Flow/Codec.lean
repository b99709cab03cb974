import Stepwise.Flow.Codec
import Stepwise.Proofs.Json.Reread
import Stepwise.Proofs.Time.Text

/-!
# Rereading flows

Reading a flow definition again from its written form gives the same definition.
-/

namespace Stepwise

set_option autoImplicit false

open Json

theorem rereads_instant : Rereads instant? (fun t => .str t.text) := by
  intro v t _ hRead
  cases v with
  | str s => exact Instant.ofText?_text (Instant.readable_of_ofText? hRead)
  | _ => cases hRead

section Inputs

theorem rereads_format : Rereads (choice? .loose OutputFormat.names) OutputFormat.toJson :=
  rereads_of_forall fun format => by cases format <;> rfl

theorem SourceMapping.rereads : Rereads SourceMapping.ofJson? SourceMapping.toJson := by
  intro v m hValue hRead
  simp only [SourceMapping.ofJson?, Option.bind_eq_bind, Option.bind_eq_some_iff, Option.some.injEq]
    at hRead
  obtain ⟨r, hOpened, path, hReadPath, format, hReadFormat, separator, hReadSeparator, rfl⟩ := hRead
  have hValues := values_of_record? hValue hOpened
  refine bind_record?_object fun r' hKept => ?_
  have hPath' := Dict.required_again rereads_text hValues hReadPath
    ((hKept "sourcePath" (by decide)).trans (by simp))
  have hFormat' := Dict.defaulted_again rereads_format hValues rfl hReadFormat
    ((hKept "format" (by decide)).trans (by simp))
  have hSeparator' := Dict.optional_again rereads_text hValues rfl hReadSeparator
    ((hKept "separator" (by decide)).trans (by simp))
  simp only [hPath', hFormat', hSeparator', Option.bind_eq_bind, Option.bind_some]

theorem SourceMapping.ofJson?_normalize {v : Json} (hValue : v.IsValue) :
    SourceMapping.ofJson? v.normalize = SourceMapping.ofJson? v := by
  unfold SourceMapping.ofJson?
  rcases record?_normalize
    [("sourcePath", .required), ("format", .anywhere), ("separator", .anywhere)]
    hValue with ⟨hNone, hNone'⟩ | ⟨r, r', hOpened, hOpened', hOrdered⟩
  · rw [hNone, hNone']
  · have hValues := values_of_record? hValue hOpened
    have hPath :=
      Dict.required_ordered hOrdered fun v (_ : v ∈ r.get? "sourcePath") => text?_normalize v
    have hFormat := Dict.defaulted_ordered hOrdered (fun v hFound => choice?_normalize
      (hValues ("format", v) (Dict.mem_of_get? hFound)) .loose OutputFormat.names) OutputFormat.raw
    have hSeparator := Dict.optional_ordered hOrdered fun v (_ : v ∈ r.get? "separator") =>
      text?_normalize v
    simp only [hOpened, hOpened', Option.bind_eq_bind, Option.bind_some, hPath, hFormat, hSeparator]

/-- A source mapping is written so that it is read as one, and a template so that it is read as a
template. -/
theorem InputMapping.rereads : Rereads InputMapping.ofJson? InputMapping.toJson := by
  intro v m hValue hRead
  unfold InputMapping.ofJson? at hRead ⊢
  split at hRead
  · next source hFound =>
    cases hRead
    rw [InputMapping.toJson, SourceMapping.rereads v source hValue hFound]
  · next hNone =>
    cases hRead
    have hStill : SourceMapping.ofJson? v.normalize = Option.none :=
      (SourceMapping.ofJson?_normalize hValue).trans hNone
    rw [InputMapping.toJson, hStill, normalize_normalize]

end Inputs

section Branches

theorem BranchTarget.ofJson?_toJson (mode : Reading) (t : BranchTarget) :
    BranchTarget.ofJson? mode t.toJson = some t := by
  cases t with
  | step id =>
    refine bind_tagged?_object (a := .step) rfl rfl fun rest hUnique hKept => ?_
    refine bind_record?_obj hUnique fun r hKnown => ?_
    have hId' : r.required "stepInstanceId" text? = some id := Dict.required_of_get? (v := .str id)
      ((hKnown "stepInstanceId" (by decide)).trans ((hKept _ (by decide)).trans (by simp)))
    simp only [hId', Option.bind_eq_bind, Option.bind_some]
  | flow id version =>
    refine bind_tagged?_object (a := .flow) rfl rfl fun rest hUnique hKept => ?_
    refine bind_record?_obj hUnique fun r hKnown => ?_
    have hId' : r.required "flowDefinitionId" text? = some id :=
      Dict.required_of_get? (v := .str id)
      ((hKnown "flowDefinitionId" (by decide)).trans ((hKept _ (by decide)).trans (by simp)))
    have hVersion' : r.required "version" word32? = some version :=
      (Dict.required_of_get? (v := ofNat version.toNat)
        ((hKnown "version" (by decide)).trans ((hKept _ (by decide)).trans (by simp)))).trans
        (word32?_ofNat version)
    simp only [hId', hVersion', Option.bind_eq_bind, Option.bind_some]

theorem rereads_strategy (mode : Reading) :
    Rereads (choice? mode AggregationStrategy.names) AggregationStrategy.toJson :=
  rereads_of_forall fun strategy => by cases strategy <;> rfl

theorem Aggregation.rereads (mode : Reading) :
    Rereads (Aggregation.ofJson? mode) Aggregation.toJson := by
  intro v a hValue hRead
  simp only [Aggregation.ofJson?, Option.bind_eq_bind, Option.bind_eq_some_iff, Option.some.injEq]
    at hRead
  obtain ⟨r, hOpened, strategy, hReadStrategy, path, hReadPath, moduleId, hReadModule, fail,
    hReadFail, percentage, hReadPercentage, rfl⟩ := hRead
  have hValues := values_of_record? hValue hOpened
  refine bind_record?_object fun r' hKept => ?_
  have hStrategy' := Dict.defaulted_again (rereads_strategy mode) hValues rfl hReadStrategy
    ((hKept "strategy" (by decide)).trans (by simp))
  have hPath' := Dict.optional_again rereads_text hValues rfl hReadPath
    ((hKept "dataPath" (by decide)).trans (by simp))
  have hModuleId' := Dict.optional_again rereads_text hValues rfl hReadModule
    ((hKept "moduleIdentifier" (by decide)).trans (by simp))
  have hFail' := Dict.defaulted_again rereads_flag hValues rfl hReadFail
    ((hKept "failOnBranchError" (by decide)).trans (by simp))
  have hPercentage' := Dict.optional_again rereads_float hValues rfl hReadPercentage
    ((hKept "toleratedFailurePercentage" (by decide)).trans (by simp))
  simp only [hStrategy', hPath', hModuleId', hFail', hPercentage', Option.bind_eq_bind,
    Option.bind_some]

theorem Branch.rereads (mode : Reading) : Rereads (Branch.ofJson? mode) Branch.toJson := by
  intro v b hValue hRead
  simp only [Branch.ofJson?, Option.bind_eq_bind, Option.bind_eq_some_iff, Option.some.injEq]
    at hRead
  obtain ⟨r, hOpened, id, hReadId, target, hReadTarget, inputs, hReadInputs, literals,
    hReadLiterals, condition, hReadCondition, rfl⟩ := hRead
  have hValues := values_of_record? hValue hOpened
  refine bind_record?_object fun r' hKept => ?_
  have hId' := Dict.required_again rereads_text hValues hReadId
    ((hKept "branchId" (by decide)).trans (by simp))
  have hTarget' :=
    Dict.required_again (rereads_of_forall (BranchTarget.ofJson?_toJson mode)) hValues
    hReadTarget ((hKept "target" (by decide)).trans (by simp))
  have hInputs' := Dict.defaulted_again (rereads_dict InputMapping.rereads) hValues rfl hReadInputs
    ((hKept "inputMappings" (by decide)).trans (by simp [jsonDict]))
  have hLiterals' := Dict.defaulted_again rereads_fields hValues rfl hReadLiterals
    ((hKept "literals" (by decide)).trans (by simp))
  have hCondition' := Dict.optional_again rereads_text hValues rfl hReadCondition
    ((hKept "condition" (by decide)).trans (by simp))
  simp only [hId', hTarget', hInputs', hLiterals', hCondition', Option.bind_eq_bind,
    Option.bind_some]

end Branches

section Kinds

/-- The field belongs to steps of some kinds only. -/
def StepKind.Own (name : String) : Prop := name ∉ Step.spec.map Prod.fst ∧ name ≠ "stepType"

instance (name : String) : Decidable (StepKind.Own name) :=
  inferInstanceAs (Decidable (name ∉ Step.spec.map Prod.fst ∧ name ≠ "stepType"))

variable {v : Json} {fields : List (String × Json)}

/-- The object holds the entries of a kind of step, whatever it holds for steps of every kind. -/
def Carries (fields entries : List (String × Json)) : Prop :=
  ∀ name, StepKind.Own name → Dict.get? fields name = Dict.last? entries name

theorem Fork.again {f : Fork} (hValue : v.IsValue) (hRead : Fork.ofJson? .loose v = some f)
    (hUnique : Dict.Unique fields) (hCarries : Carries fields f.entries) :
    Fork.ofJson? .loose (.obj fields) = some f := by
  simp only [Fork.ofJson?, Option.bind_eq_bind, Option.bind_eq_some_iff, Option.some.injEq] at hRead
  obtain ⟨r, hOpened, branches, hReadBranches, aggregation, hReadAggregation, concurrency,
    hReadConcurrency, rfl⟩ := hRead
  have hValues := values_of_record? hValue hOpened
  have hEmpty : (Json.obj []).IsValue := ⟨List.nodup_nil, trivial⟩
  refine bind_record?_obj hUnique fun r' hKept => ?_
  have hBranches' :=
    Dict.defaulted_again (rereads_list (Branch.rereads .loose)) hValues rfl hReadBranches
    ((hKept "parallelBranches" (by decide)).trans
    ((hCarries _ (by decide)).trans (by simp [entries])))
  have hAggregation' := Dict.defaulted_again (Aggregation.rereads .loose) hValues
    (Aggregation.rereads .loose (.obj []) {} hEmpty rfl) hReadAggregation
    ((hKept "aggregationConfig" (by decide)).trans
    ((hCarries _ (by decide)).trans (by simp [entries])))
  have hConcurrency' := Dict.optional_again rereads_word32 hValues rfl hReadConcurrency
    ((hKept "maxConcurrency" (by decide)).trans
    ((hCarries _ (by decide)).trans (by simp [entries])))
  simp only [hBranches', hAggregation', hConcurrency', Option.bind_eq_bind, Option.bind_some]

theorem Wait.again {w : Wait} (hValue : v.IsValue) (hRead : Wait.ofJson? v = some w)
    (hUnique : Dict.Unique fields) (hCarries : Carries fields w.entries) :
    Wait.ofJson? (.obj fields) = some w := by
  simp only [Wait.ofJson?, Option.bind_eq_bind, Option.bind_eq_some_iff, Option.some.injEq] at hRead
  obtain ⟨r, hOpened, key, hReadKey, seconds, hReadSeconds, rfl⟩ := hRead
  have hValues := values_of_record? hValue hOpened
  refine bind_record?_obj hUnique fun r' hKept => ?_
  have hKey' := Dict.required_again rereads_text hValues hReadKey
    ((hKept "correlationKeyTemplate" (by decide)).trans
      ((hCarries _ (by decide)).trans (by simp [entries])))
  have hSeconds' := Dict.optional_again rereads_word64 hValues rfl hReadSeconds
    ((hKept "maxWaitTimeSeconds" (by decide)).trans
    ((hCarries _ (by decide)).trans (by simp [entries])))
  simp only [hKey', hSeconds', Option.bind_eq_bind, Option.bind_some]

theorem Polling.ofJson?_toJson (p : Polling) : Polling.ofJson? p.toJson = some p := by
  refine bind_record?_object fun r hKept => ?_
  have hInterval' : r.defaulted "intervalSeconds" 30 word64? = some p.intervalSeconds :=
    (Dict.defaulted_of_get? (v := ofNat p.intervalSeconds.toNat)
      ((hKept "intervalSeconds" (by decide)).trans (by simp))).trans
      (word64?_ofNat p.intervalSeconds)
  have hAttempts' : r.defaulted "maxAttempts" 10 word32? = some p.maxAttempts :=
    (Dict.defaulted_of_get? (v := ofNat p.maxAttempts.toNat)
      ((hKept "maxAttempts" (by decide)).trans (by simp))).trans (word32?_ofNat p.maxAttempts)
  have hCondition' : r.optional "completionCondition" text? = some p.completionCondition :=
    Dict.optional_text ((hKept "completionCondition" (by decide)).trans (by simp))
  simp only [hInterval', hAttempts', hCondition', Option.bind_eq_bind, Option.bind_some]

theorem Polling.rereads : Rereads Polling.ofJson? Polling.toJson :=
  rereads_of_forall Polling.ofJson?_toJson

theorem Polling.again {p : Polling} (hValue : v.IsValue) (hRead : Polling.ofStepJson? v = some p)
    (hUnique : Dict.Unique fields) (hCarries : Carries fields (StepKind.poll p).entries) :
    Polling.ofStepJson? (.obj fields) = some p := by
  obtain ⟨r, hOpened, hRead⟩ := Option.bind_eq_some_iff.mp hRead
  have hValues := values_of_record? hValue hOpened
  have hEmpty : (Json.obj []).IsValue := ⟨List.nodup_nil, trivial⟩
  refine bind_record?_obj hUnique fun r' hKept => ?_
  exact Dict.defaulted_again Polling.rereads hValues (Polling.rereads (.obj []) {} hEmpty rfl) hRead
    ((hKept "pollingConfig" (by decide)).trans
      ((hCarries _ (by decide)).trans (by simp [StepKind.entries])))

theorem FlowStart.again {s : FlowStart} (hValue : v.IsValue) (hRead : FlowStart.ofJson? v = some s)
    (hUnique : Dict.Unique fields) (hCarries : Carries fields s.entries) :
    FlowStart.ofJson? (.obj fields) = some s := by
  simp only [FlowStart.ofJson?, Option.bind_eq_bind, Option.bind_eq_some_iff, Option.some.injEq]
    at hRead
  obtain ⟨r, hOpened, flowId, hReadFlow, version, hReadVersion, source, hReadSource, rfl⟩ := hRead
  have hValues := values_of_record? hValue hOpened
  refine bind_record?_obj hUnique fun r' hKept => ?_
  have hFlowId' := Dict.required_again rereads_text hValues hReadFlow
    ((hKept "targetFlowDefinitionId" (by decide)).trans
      ((hCarries _ (by decide)).trans (by simp [entries])))
  have hVersion' := Dict.required_again rereads_word32 hValues hReadVersion
    ((hKept "targetFlowVersion" (by decide)).trans
    ((hCarries _ (by decide)).trans (by simp [entries])))
  have hSource' := Dict.optional_again rereads_text hValues rfl hReadSource
    ((hKept "triggerSource" (by decide)).trans ((hCarries _ (by decide)).trans (by simp [entries])))
  simp only [hFlowId', hVersion', hSource', Option.bind_eq_bind, Option.bind_some]

theorem StepKind.lookup_plain {name : String} {kind : StepKind}
    (h : (name, Tag.plain kind) ∈ tags) :
    tags.lookup kind.typeName = some (.plain kind) := by
  simp only [tags, List.mem_cons, Prod.mk.injEq, Tag.plain.injEq, List.not_mem_nil, or_false,
    reduceCtorEq, and_false, false_or] at h
  rcases h with ⟨-, rfl⟩ | ⟨-, rfl⟩ | ⟨-, rfl⟩ | ⟨-, rfl⟩ | ⟨-, rfl⟩ | ⟨-, rfl⟩ | ⟨-, rfl⟩ |
    ⟨-, rfl⟩ <;>
    rfl

theorem Carries.rest {rest entries : List (String × Json)} (hCarries : Carries fields entries)
    (hKept : ∀ other, other ≠ "stepType" → Dict.get? rest other = Dict.get? fields other) :
    Carries rest entries :=
  fun name hOwn => (hKept name hOwn.2).trans (hCarries name hOwn)

/-- One case for each of the thirteen kinds: eight without fields, and five with their own. -/
theorem StepKind.again {kind : StepKind} (hValue : v.IsValue)
    (hRead : StepKind.ofJson? v = some kind) (hUnique : Dict.Unique fields)
    (hTagged : Dict.get? fields "stepType" = some (.str kind.typeName))
    (hCarries : Carries fields kind.entries) : StepKind.ofJson? (.obj fields) = some kind := by
  obtain ⟨⟨tag, rest⟩, hTagging, hRead⟩ := Option.bind_eq_some_iff.mp hRead
  obtain ⟨⟨name, hKnown⟩, hValue⟩ := tagged?_eq_some hValue hTagging
  cases tag with
  | plain kind' =>
    obtain ⟨_, _, rfl⟩ := Option.map_eq_some_iff.mp hRead
    exact bind_tagged?_obj hUnique hTagged (lookup_plain hKnown) fun rest hUnique hKept => rfl
  | fork =>
    obtain ⟨f, hReadFork, rfl⟩ := Option.map_eq_some_iff.mp hRead
    exact bind_tagged?_obj hUnique hTagged rfl fun rest hUnique hKept =>
      congrArg (Option.map StepKind.fork)
        (Fork.again hValue hReadFork hUnique (hCarries.rest hKept))
  | wait =>
    obtain ⟨w, hReadWait, rfl⟩ := Option.map_eq_some_iff.mp hRead
    exact bind_tagged?_obj hUnique hTagged rfl fun rest hUnique hKept =>
      congrArg (Option.map StepKind.wait)
        (Wait.again hValue hReadWait hUnique (hCarries.rest hKept))
  | poll =>
    obtain ⟨p, hReadPolling, rfl⟩ := Option.map_eq_some_iff.mp hRead
    exact bind_tagged?_obj hUnique hTagged rfl fun rest hUnique hKept =>
      congrArg (Option.map StepKind.poll)
        (Polling.again hValue hReadPolling hUnique (hCarries.rest hKept))
  | startSubFlow =>
    obtain ⟨s, hReadStart, rfl⟩ := Option.map_eq_some_iff.mp hRead
    exact bind_tagged?_obj hUnique hTagged rfl fun rest hUnique hKept =>
      congrArg (Option.map StepKind.startSubFlow)
        (FlowStart.again hValue hReadStart hUnique (hCarries.rest hKept))
  | startFlowExecution =>
    obtain ⟨s, hReadStart, rfl⟩ := Option.map_eq_some_iff.mp hRead
    exact bind_tagged?_obj hUnique hTagged rfl fun rest hUnique hKept =>
      congrArg (Option.map StepKind.startFlowExecution)
        (FlowStart.again hValue hReadStart hUnique (hCarries.rest hKept))

end Kinds

section Steps

theorem Transition.rereads : Rereads Transition.ofJson? Transition.toJson := by
  intro v t hValue hRead
  simp only [Transition.ofJson?, Option.bind_eq_bind, Option.bind_eq_some_iff, Option.some.injEq]
    at hRead
  obtain ⟨r, hOpened, condition, hReadCondition, next, hReadNext, rfl⟩ := hRead
  have hValues := values_of_record? hValue hOpened
  refine bind_record?_object fun r' hKept => ?_
  have hCondition' := Dict.required_again rereads_text hValues hReadCondition
    ((hKept "condition" (by decide)).trans (by simp))
  have hNext' := Dict.required_again rereads_text hValues hReadNext
    ((hKept "nextStepInstanceId" (by decide)).trans (by simp))
  simp only [hCondition', hNext', Option.bind_eq_bind, Option.bind_some]

theorem OnError.rereads : Rereads OnError.ofJson? OnError.toJson := by
  intro v e hValue hRead
  simp only [OnError.ofJson?, Option.bind_eq_bind, Option.bind_eq_some_iff, Option.some.injEq]
    at hRead
  obtain ⟨r, hOpened, fallback, hReadFallback, rfl⟩ := hRead
  have hValues := values_of_record? hValue hOpened
  refine bind_record?_object fun r' hKept => ?_
  have hFallback' := Dict.optional_again rereads_text hValues rfl hReadFallback
    ((hKept "fallbackStepInstanceId" (by decide)).trans (by simp))
  simp only [hFallback', Option.bind_eq_bind, Option.bind_some]

def Step.entries (s : Step) : List (String × Json) :=
  [("stepInstanceId", .str s.id), ("stepType", .str s.kind.typeName)]
    ++ s.kind.entries
    ++ optionalField "moduleIdentifier" .str s.moduleId
    ++ [("customConfig", .obj s.customConfig),
        ("inputMappings", jsonDict InputMapping.toJson s.inputMappings),
        ("outputMappings", .obj s.outputMappings), ("literals", .obj s.literals),
        ("transitions", .arr (s.transitions.map Transition.toJson))]
    ++ optionalField "defaultNextStepInstanceId" .str s.defaultNext
    ++ optionalField "onError" OnError.toJson s.onError

theorem FlowStart.own_of_mem {config : FlowStart} {e : String × Json} (h : e ∈ config.entries) :
    StepKind.Own e.1 := by
  rcases List.mem_append.mp h with hFixed | hOptional
  · rcases List.mem_cons.mp hFixed with rfl | hFixed
    · exact (by decide : StepKind.Own "targetFlowDefinitionId")
    · rw [List.mem_singleton.mp hFixed]
      exact (by decide : StepKind.Own "targetFlowVersion")
  · rw [name_of_mem_optionalField hOptional]
    decide

theorem StepKind.own_of_mem {kind : StepKind} {e : String × Json} (h : e ∈ kind.entries) :
    Own e.1 := by
  cases kind with
  | fork config =>
    rcases List.mem_append.mp h with hFixed | hOptional
    · rcases List.mem_cons.mp hFixed with rfl | hFixed
      · exact (by decide : Own "parallelBranches")
      · rw [List.mem_singleton.mp hFixed]
        exact (by decide : Own "aggregationConfig")
    · rw [name_of_mem_optionalField hOptional]
      decide
  | wait config =>
    rcases List.mem_append.mp h with hFixed | hOptional
    · rw [List.mem_singleton.mp hFixed]
      exact (by decide : Own "correlationKeyTemplate")
    · rw [name_of_mem_optionalField hOptional]
      decide
  | poll config =>
    rw [List.mem_singleton.mp h]
    exact (by decide : Own "pollingConfig")
  | startSubFlow config => exact FlowStart.own_of_mem h
  | startFlowExecution config => exact FlowStart.own_of_mem h
  | _ => cases h

section Entries

variable (s : Step) {name : String}

theorem Step.last?_of_own (hOwn : StepKind.Own name) :
    Dict.last? s.entries name = Dict.last? s.kind.entries name := by
  have hApart : ∀ other ∈ spec.map Prod.fst, other ≠ name :=
    fun other hKnown hSame => hOwn.1 (hSame ▸ hKnown)
  have hTag : "stepType" ≠ name := hOwn.2.symm
  simp only [spec, List.map_cons, List.map_nil, List.forall_mem_cons] at hApart
  obtain ⟨hId, hModuleId, hCustom, hInputs, hOutputs, hLiterals, hTransitions, hNext, hError, -⟩ :=
    hApart
  simp [entries, hId, hModuleId, hCustom, hInputs, hOutputs, hLiterals, hTransitions, hNext, hError,
    hTag]

theorem StepKind.last?_of_not_own (kind : StepKind) (h : ¬ Own name) :
    Dict.last? kind.entries name = none :=
  Dict.last?_eq_none fun _ hMember hSame => h (hSame ▸ own_of_mem hMember)

/-- What the written step holds for its kind alone. -/
theorem Step.get?_kindFields (hOwn : name ∉ spec.map Prod.fst) :
    Dict.get? ((Dict.ofList s.entries).filter fun e => !(spec.map Prod.fst).contains e.1) name =
      Dict.last? s.entries name := by
  have hKept : (!(spec.map Prod.fst).contains name) = true := by
    rw [Bool.not_eq_true', ← Bool.not_eq_true, List.contains_iff_mem]
    exact hOwn
  rw [Dict.get?_filter_name (fun name => !(spec.map Prod.fst).contains name), if_pos hKept,
    Dict.get?_ofList]

theorem Step.last?_typeName : Dict.last? s.entries "stepType" = some (.str s.kind.typeName) := by
  have hNone : Dict.last? s.kind.entries "stepType" = none :=
    StepKind.last?_of_not_own s.kind (by decide)
  simp [entries, hNone]

theorem Step.kind_again {v : Json} (hValue : v.IsValue) (hRead : StepKind.ofJson? v = some s.kind) :
    StepKind.ofJson? (kindFields (Dict.ofList s.entries)) = some s.kind :=
  StepKind.again hValue hRead ((Dict.sorted_ofList s.entries).unique.filter _)
    ((s.get?_kindFields (by decide)).trans s.last?_typeName)
    fun _ hOwn => (s.get?_kindFields hOwn.1).trans (s.last?_of_own hOwn)

end Entries

theorem Step.rereads : Rereads Step.ofJson? Step.toJson := by
  intro v s hValue hRead
  cases v with
  | obj fields =>
    simp only [Step.ofJson?, Option.bind_eq_bind, Option.bind_eq_some_iff, Option.some.injEq]
      at hRead
    obtain ⟨r, hOpened, id, hReadId, kind, hReadKind, moduleId, hReadModule, custom, hReadCustom,
      inputs, hReadInputs, outputs, hReadOutputs, literals, hReadLiterals, transitions,
      hReadTransitions, next, hReadNext, error, hReadError, rfl⟩ := hRead
    have hValues := values_of_record? hValue hOpened
    obtain ⟨hUnique, hEach⟩ := isValue_obj_iff.mp hValue
    have hValueOfKind : (kindFields fields).IsValue :=
      isValue_obj_iff.mpr
        ⟨hUnique.filter _, fun e hMember => hEach e (List.mem_filter.mp hMember).1⟩
    refine bind_record?_object fun r' hKept => ?_
    have hId' := Dict.required_again rereads_text hValues hReadId
      ((hKept "stepInstanceId" (by decide)).trans
        (by simp (disch := decide) [StepKind.last?_of_not_own]))
    have hKind' :=
      Step.kind_again ⟨id, kind, moduleId, custom, inputs, outputs, literals, transitions,
      next, error⟩ hValueOfKind hReadKind
    have hModuleId' := Dict.optional_again rereads_text hValues rfl hReadModule
      ((hKept "moduleIdentifier" (by decide)).trans
        (by simp (disch := decide) [StepKind.last?_of_not_own]))
    have hCustom' := Dict.defaulted_again rereads_fields hValues rfl hReadCustom
      ((hKept "customConfig" (by decide)).trans
        (by simp (disch := decide) [StepKind.last?_of_not_own]))
    have hInputs' :=
      Dict.defaulted_again (rereads_dict InputMapping.rereads) hValues rfl hReadInputs
      ((hKept "inputMappings" (by decide)).trans
        (by simp (disch := decide) [StepKind.last?_of_not_own, jsonDict]))
    have hOutputs' := Dict.defaulted_again rereads_fields hValues rfl hReadOutputs
      ((hKept "outputMappings" (by decide)).trans
        (by simp (disch := decide) [StepKind.last?_of_not_own]))
    have hLiterals' := Dict.defaulted_again rereads_fields hValues rfl hReadLiterals
      ((hKept "literals" (by decide)).trans
        (by simp (disch := decide) [StepKind.last?_of_not_own]))
    have hTransitions' := Dict.defaulted_again (rereads_list Transition.rereads) hValues rfl
      hReadTransitions ((hKept "transitions" (by decide)).trans
        (by simp (disch := decide) [StepKind.last?_of_not_own]))
    have hNext' := Dict.optional_again rereads_text hValues rfl hReadNext
      ((hKept "defaultNextStepInstanceId" (by decide)).trans
        (by simp (disch := decide) [StepKind.last?_of_not_own]))
    have hError' := Dict.optional_again OnError.rereads hValues rfl hReadError
      ((hKept "onError" (by decide)).trans (by simp (disch := decide) [StepKind.last?_of_not_own]))
    simp only [hId', hModuleId', hCustom', hInputs', hOutputs', hLiterals', hTransitions', hNext',
      hError', Option.bind_eq_bind, Option.bind_some]
    exact Option.bind_eq_some_iff.mpr ⟨kind, hKind', rfl⟩
  | _ => cases hRead

end Steps

/-- Reading a value as a flow puts it in its written form at once: the written form is read as the
same flow. -/
theorem Flow.ofJson?_toJson_of_read {v : Json} {f : Flow} (hValue : v.IsValue)
    (hRead : Flow.ofJson? v = some f) : Flow.ofJson? f.toJson = some f := by
  simp only [Flow.ofJson?, Option.bind_eq_bind, Option.bind_eq_some_iff, Option.some.injEq] at hRead
  obtain ⟨r, hOpened, id, hReadId, version, hReadVersion, published, hReadPublished, steps,
    hReadSteps, start, hReadStart, context, hReadContext, config, hReadConfig, actions,
    hReadActions, created, hReadCreated, updated, hReadUpdated, rfl⟩ := hRead
  have hValues := values_of_record? hValue hOpened
  refine bind_record?_object fun r' hKept => ?_
  have hId' :=
    Dict.required_again rereads_text hValues hReadId ((hKept "id" (by decide)).trans (by simp))
  have hVersion' := Dict.required_again rereads_word32 hValues hReadVersion
    ((hKept "version" (by decide)).trans (by simp))
  have hPublished' := Dict.defaulted_again rereads_flag hValues rfl hReadPublished
    ((hKept "isPublished" (by decide)).trans (by simp))
  have hSteps' := Dict.required_again (rereads_dict Step.rereads) hValues hReadSteps
    ((hKept "steps" (by decide)).trans (by simp [jsonDict]))
  have hStart' := Dict.required_again rereads_text hValues hReadStart
    ((hKept "startStepInstanceId" (by decide)).trans (by simp))
  have hContext' := Dict.defaulted_again rereads_fields hValues rfl hReadContext
    ((hKept "flowVariables" (by decide)).trans (by simp))
  have hConfig' := Dict.defaulted_again rereads_fields hValues rfl hReadConfig
    ((hKept "defaultStepConfig" (by decide)).trans (by simp))
  have hActions' := Dict.defaulted_again (rereads_list rereads_document) hValues rfl hReadActions
    ((hKept "onCompletionActions" (by decide)).trans (by simp))
  have hCreated' := Dict.optional_again rereads_instant hValues rfl hReadCreated
    ((hKept "createdAt" (by decide)).trans (by simp))
  have hUpdated' := Dict.optional_again rereads_instant hValues rfl hReadUpdated
    ((hKept "updatedAt" (by decide)).trans (by simp))
  simp only [hId', hVersion', hPublished', hSteps', hStart', hContext', hConfig', hActions',
    hCreated', hUpdated', Option.bind_eq_bind, Option.bind_some]

/-- Names out of order, kinds by name and by number, records given as arrays, a field no one knows,
and a leap second away from universal time. -/
def parcelDocument : Json :=
  .obj [("version", .num (.int 3)), ("id", .str "parcel"), ("note", .null),
    ("createdAt", .str "2017-01-01 05:29:60.5+05:30"), ("startStepInstanceId", .str "begin"),
    ("steps", .obj [
      ("begin", .obj [("stepType", .num (.int 12)), ("stepInstanceId", .str "begin"),
        ("transitions", .arr [.arr [.str "$.ready", .str "fork"]])]),
      ("fork", .obj [("stepInstanceId", .str "fork"), ("stepType", .str "PARALLEL_FORK_MANAGER"),
        ("aggregationConfig", .obj [("toleratedFailurePercentage", .num (.int 25))]),
        ("parallelBranches", .arr [
          .arr [.str "left", .arr [.num (.int 0), .str "pack"]],
          .obj [("target", .obj [("version", .num (.int 2)), ("type", .str "SUB_FLOW"),
            ("flowDefinitionId", .str "invoice")]), ("branchId", .str "right")]])]),
      ("pack", .obj [("stepInstanceId", .str "pack"), ("stepType", .str "DATA_TRANSFORMATION"),
        ("inputMappings", .obj [
          ("weight", .arr [.str "$.weight", .str "JOIN", .str ","]),
          ("label", .obj [("text", .str "no."), ("copies", .num (.int 2))])])]),
      ("await", .obj [("stepInstanceId", .str "await"), ("stepType", .num (.int 8)),
        ("correlationKeyTemplate", .str "parcel")])])]

def parcelFlow : Flow where
  id := "parcel"
  version := 3
  isPublished := false
  steps := [
    ("await", { id := "await", kind := .wait ⟨"parcel", none⟩ }),
    ("begin", { id := "begin", kind := .scheduleStartPoint, transitions := [⟨"$.ready", "fork"⟩] }),
    ("fork", {
      id := "fork"
      kind := .fork {
        branches := [⟨"left", .step "pack", [], [], none⟩,
          ⟨"right", .flow "invoice" 2, [], [], none⟩]
        aggregation := { toleratedFailurePercentage := some 25.0 } } }),
    ("pack", {
      id := "pack"
      kind := .dataTransformation
      inputMappings := [
        ("label", .template (.obj [("copies", .num (.int 2)), ("text", .str "no.")])),
        ("weight", .source ⟨"$.weight", .join, some ","⟩)] })]
  start := "begin"
  defaultContext := []
  defaultStepConfig := []
  onCompletionActions := []
  createdAt := some ⟨1483228799, 1500000000⟩
  updatedAt := none

theorem parcelFlow_read_again :
    parcelDocument.IsValue ∧ Flow.ofJson? parcelDocument = some parcelFlow ∧
      Flow.ofJson? parcelFlow.toJson = some parcelFlow := by
  have hValue : parcelDocument.IsValue := by
    simp [parcelDocument, IsValue, ItemsAreValues, FieldsAreValues, Dict.Unique, Dict.keys]
  have hRead : Flow.ofJson? parcelDocument = some parcelFlow := by decide +kernel
  exact ⟨hValue, hRead, Flow.ofJson?_toJson_of_read hValue hRead⟩

end Stepwise
