import Stepwise.Execution.Codec
import Stepwise.Proofs.Flow.Order

/-!
# Rereading answers

Answers of the engine as documents: an answer whose documents are in normal form, and which does not
tell a field that is null from one that is not there, is read again from what is written for it.
What is read from a document is such.
-/

namespace Stepwise

set_option autoImplicit false

open Json

theorem normal_optionalField {name : String} {o : Option String} :
    ∀ e ∈ optionalField name .str o, e.2.Normal := normal_of_optionalField fun s _ => normal_str s

section Failures

/-- The details are not null, and in normal form. -/
def OrderlyDetails (details : Option Json) : Prop := ∀ d ∈ details, d ≠ .null ∧ d.Normal

theorem orderlyDetails_none : OrderlyDetails none := fun _ h => nomatch h

theorem orderlyDetails_object {entries : List (String × Json)} (h : ∀ e ∈ entries, e.2.Normal) :
    OrderlyDetails (some (object entries)) := by
  rintro d ⟨⟩
  exact ⟨(fun hSame => nomatch hSame), normal_object h⟩

namespace ErrorInfo

variable {e : ErrorInfo}

def Orderly (e : ErrorInfo) : Prop := OrderlyDetails e.details

theorem orderly_terminal (name message : String) : (terminal name message).Orderly :=
  orderlyDetails_none

theorem ofJson?_toJson (h : e.Orderly) : ofJson? e.toJson = some e := by
  refine bind_record?_object fun r hKept => ?_
  have hName' : r.required "errorName" text? = some e.name :=
    Dict.required_of_get? (v := .str e.name) ((hKept "errorName" (by decide)).trans (by simp))
  have hMessage' : r.required "errorMessage" text? = some e.message :=
    Dict.required_of_get? (v := .str e.message) ((hKept "errorMessage" (by decide)).trans (by simp))
  have hDetails' : r.optional "errorDetails" document? = some e.details :=
    Dict.optional_of_get? ((hKept "errorDetails" (by decide)).trans (by simp)) fun d hAmong =>
      ⟨congrArg some (h d hAmong).2, (h d hAmong).1⟩
  have hIsRetryable' : r.required "isRetryable" flag? = some e.isRetryable :=
    Dict.required_of_get? (v := .bool e.isRetryable)
      ((hKept "isRetryable" (by decide)).trans (by simp))
  simp only [hName', hMessage', hDetails', hIsRetryable', Option.bind_eq_bind, Option.bind_some]

theorem normal_toJson (h : e.Orderly) : e.toJson.Normal := by
  have hDetails : ∀ p ∈ optionalField "errorDetails" id e.details, p.2.Normal :=
    normal_of_optionalField fun d hAmong => (h d hAmong).2
  refine normal_object ?_
  simp only [List.forall_mem_append, List.forall_mem_cons]
  exact ⟨⟨⟨normal_str _, normal_str _, List.forall_mem_nil _⟩, hDetails⟩, normal_bool _,
    List.forall_mem_nil _⟩

theorem toJson_ne_null (e : ErrorInfo) : e.toJson ≠ .null := fun hSame => nomatch hSame

theorem orderly_of_readFrom (h : ReadFrom ofJson? e) : e.Orderly := by
  obtain ⟨v, hValue, hRead⟩ := h
  simp only [ofJson?, Option.bind_eq_bind, Option.bind_eq_some_iff, Option.some.injEq] at hRead
  obtain ⟨r, hOpened, name, -, message, -, details, hReadDetails, isRetryable, -, rfl⟩ := hRead
  intro d hAmong
  obtain ⟨w, -, hOther, hFound⟩ :=
    Dict.readFrom_optional (values_of_record? hValue hOpened) hReadDetails d hAmong
  cases hFound
  exact ⟨fun hSame => hOther (normalize_eq_null hSame), normal_normalize w⟩

end ErrorInfo

namespace StepError

def details : StepError → Option Json
  | .permanent _ d | .transient _ d | .contentBasedRetryable _ d => d
  | .unclassified _ _ => none

def Orderly (e : StepError) : Prop := OrderlyDetails e.details

theorem Orderly.info {e : StepError} (h : e.Orderly) : e.info.Orderly := by
  cases e <;> exact h

theorem orderly_ofEngine (e : EngineError) : (ofEngine e).Orderly := by
  have hQuoted : OrderlyDetails (some (object [("source", .str e.source)])) :=
    orderlyDetails_object fun p hAmong => by
      rw [List.mem_singleton.mp hAmong]
      exact normal_str _
  unfold ofEngine
  split <;> exact hQuoted

end StepError

end Failures

namespace ExecutionState

variable {s : ExecutionState}

/-- The context and the counts stand in order, and the last failure is orderly. -/
structure Orderly (s : ExecutionState) : Prop where
  context : s.context.Normal
  attempts : s.attempts.Sorted
  error : ∀ e ∈ s.errorInfo, e.Orderly

theorem attempts_again (h : s.attempts.Sorted) :
    dict? word32? (jsonDict (fun n : UInt32 => ofNat n.toNat) s.attempts) = some s.attempts := by
  have hAgain : readEntries word32? (s.attempts.map fun e => (e.1, ofNat e.2.toNat)) =
    some s.attempts :=
    readEntries_map (g := fun n => ofNat n.toNat) fun e _ => word32?_ofNat e.2
  rw [jsonDict, dict?, hAgain, Option.map_some, Dict.ofList_of_sorted h]

theorem ofJson?_toJson (h : s.Orderly) : ofJson? s.toJson = some s := by
  refine bind_record?_object fun r hKept => ?_
  have hId' : r.required "flowExecutionId" text? = some s.executionId :=
    Dict.required_of_get? (v := .str s.executionId)
      ((hKept "flowExecutionId" (by decide)).trans (by simp [header]))
  have hFlow' : r.required "flowDefinitionId" text? = some s.flowId :=
    Dict.required_of_get? (v := .str s.flowId)
      ((hKept "flowDefinitionId" (by decide)).trans (by simp [header]))
  have hVersion' : r.required "version" word32? = some s.version :=
    (Dict.required_of_get? (v := ofNat s.version.toNat)
      ((hKept "version" (by decide)).trans (by simp [header]))).trans (word32?_ofNat s.version)
  have hCurrent' : r.optional "currentStepInstanceId" text? = some s.current :=
    Dict.optional_text ((hKept "currentStepInstanceId" (by decide)).trans (by simp [header]))
  have hStatus' : r.required "status" (choice? .strict Status.names) = some s.status :=
    (Dict.required_of_get? (v := .str s.status.wireName)
      ((hKept "status" (by decide)).trans (by simp [header]))).trans (by cases s.status <;> rfl)
  have hContext' : r.defaulted "currentContextData" [] fields? = some s.context :=
    (Dict.defaulted_of_get? (v := .obj s.context)
      ((hKept "currentContextData" (by decide)).trans (by simp [header]))).trans
      (fields?_obj h.context)
  have hAttempts' : r.defaulted "stepRetryAttempts" [] (dict? word32?) = some s.attempts :=
    (Dict.defaulted_of_get?
    ((hKept "stepRetryAttempts" (by decide)).trans (by simp [header]))).trans
      (attempts_again h.attempts)
  have hError' : r.optional "errorInfo" ErrorInfo.ofJson? = some s.errorInfo :=
    Dict.optional_of_get? ((hKept "errorInfo" (by decide)).trans (by simp [header])) fun e hAmong =>
      ⟨ErrorInfo.ofJson?_toJson (h.error e hAmong), e.toJson_ne_null⟩
  have hBranch' : r.optional "branchId" text? = some s.branchId :=
    Dict.optional_text ((hKept "branchId" (by decide)).trans (by simp [header]))
  have hBranchExecution' : r.optional "branchExecutionId" text? = some s.branchExecutionId :=
    Dict.optional_text ((hKept "branchExecutionId" (by decide)).trans (by simp [header]))
  have hParent' : r.optional "parentExecutionId" text? = some s.parentExecutionId :=
    Dict.optional_text ((hKept "parentExecutionId" (by decide)).trans (by simp [header]))
  simp only [hId', hFlow', hVersion', hCurrent', hStatus', hContext', hAttempts', hError', hBranch',
    hBranchExecution', hParent', Option.bind_eq_bind, Option.bind_some]

theorem orderly_of_readFrom (h : ReadFrom ofJson? s) : s.Orderly := by
  obtain ⟨v, hValue, hRead⟩ := h
  simp only [ofJson?, Option.bind_eq_bind, Option.bind_eq_some_iff, Option.some.injEq] at hRead
  obtain ⟨r, hOpened, id, -, flow, -, version, -, current, -, status, -, context, hReadContext,
    attempts, hReadAttempts, error, hReadError, branch, -, branchExecution, -, parent, -, rfl⟩ :=
    hRead
  have hValues := values_of_record? hValue hOpened
  refine ⟨Dict.normal_defaulted hValues hReadContext, ?_, fun e hAmong => ?_⟩
  · rcases Dict.readFrom_defaulted hValues hReadAttempts with rfl | ⟨v, -, hGiven⟩
    · exact List.Pairwise.nil
    · exact sorted_dict? hGiven
  · obtain ⟨w, hValue, -, hFound⟩ := Dict.readFrom_optional hValues hReadError e hAmong
    exact ErrorInfo.orderly_of_readFrom ⟨w, hValue, hFound⟩

end ExecutionState

section Messages

theorem StartMessage.normal_context_of_readFrom {m : StartMessage} (h : ReadFrom ofJson? m) :
    m.context.Normal := by
  obtain ⟨v, hValue, hRead⟩ := h
  simp only [ofJson?, Option.bind_eq_bind, Option.bind_eq_some_iff, Option.some.injEq] at hRead
  obtain ⟨r, hOpened, flow, -, version, -, context, hReadContext, id, -, source, -, parent, -,
    rfl⟩ := hRead
  exact Dict.normal_defaulted (values_of_record? hValue hOpened) hReadContext

theorem BranchResult.normal_output_of_readFrom {b : BranchResult} (h : ReadFrom ofJson? b) :
    ∀ v ∈ b.output, v.Normal := by
  obtain ⟨v, hValue, hRead⟩ := h
  simp only [ofJson?, Option.bind_eq_bind, Option.bind_eq_some_iff, Option.some.injEq] at hRead
  obtain ⟨r, hOpened, id, -, index, -, succeeded, -, output, hReadOutput, error, -, rfl⟩ := hRead
  intro v hAmong
  obtain ⟨w, -, -, hFound⟩ :=
    Dict.readFrom_optional (values_of_record? hValue hOpened) hReadOutput v hAmong
  exact normal_document? hFound

end Messages

section Actions

theorem BranchPayload.ofJson?_toJson (mode : Reading) {p : BranchPayload} (h : p.input.Normal) :
    ofJson? mode p.toJson = some p := by
  refine bind_record?_object fun r hKept => ?_
  have hId' : r.required "branchId" text? = some p.branchId :=
    Dict.required_of_get? (v := .str p.branchId) ((hKept "branchId" (by decide)).trans (by simp))
  have hIndex' : r.required "branchIndex" word64? = some p.index :=
    (Dict.required_of_get? (v := ofNat p.index.toNat)
      ((hKept "branchIndex" (by decide)).trans (by simp))).trans (word64?_ofNat p.index)
  have hExecution' : r.required "branchExecutionId" text? = some p.executionId :=
    Dict.required_of_get? (v := .str p.executionId)
      ((hKept "branchExecutionId" (by decide)).trans (by simp))
  have hTarget' : r.required "target" (BranchTarget.ofJson? mode) = some p.target :=
    (Dict.required_of_get? ((hKept "target" (by decide)).trans (by simp))).trans
      (BranchTarget.ofJson?_toJson mode p.target)
  have hInput' : r.defaulted "inputData" [] fields? = some p.input :=
    (Dict.defaulted_of_get? (v := .obj p.input)
    ((hKept "inputData" (by decide)).trans (by simp))).trans
      (fields?_obj h)
  simp only [hId', hIndex', hExecution', hTarget', hInput', Option.bind_eq_bind, Option.bind_some]

namespace NextAction

/-- What a fork starts is in normal form, and the merging it announces is read again. -/
def Orderly : NextAction → Prop
  | .fork branches aggregation _ => (∀ b ∈ branches, b.input.Normal) ∧ aggregation.Orderly
  | _ => True

theorem ofJson?_toJson {action : NextAction} (h : action.Orderly) :
    ofJson? action.toJson = some action := by
  cases action with
  | proceed => rfl
  | suspend => rfl
  | finalize => rfl
  | poll config =>
    refine bind_tagged?_object (a := .poll) rfl rfl fun rest hUnique hKept => ?_
    refine bind_record?_obj hUnique fun r hKnown => ?_
    have hConfig' : r.required "pollingConfig" Polling.ofJson? = some config :=
      (Dict.required_of_get? ((hKnown "pollingConfig" (by decide)).trans
        ((hKept _ (by decide)).trans (by simp)))).trans (Polling.ofJson?_toJson config)
    simp only [hConfig', Option.bind_eq_bind, Option.bind_some]
  | fork branches aggregation concurrency =>
    obtain ⟨hInputs, hMerging⟩ := h
    have hTagged :
        Dict.last? ([("type", .str "FORK"), ("branches", .arr (branches.map BranchPayload.toJson)),
        ("aggregationConfig", aggregation.toJson)]
        ++ optionalField "maxConcurrency" (fun n => ofNat n.toNat) concurrency) "type" =
      some (.str "FORK") := by simp
    refine bind_tagged?_object (a := .fork) hTagged rfl fun rest hUnique hKept => ?_
    refine bind_record?_obj hUnique fun r hKnown => ?_
    have hBranches' : r.required "branches" (list? (BranchPayload.ofJson? .loose)) =
      some branches :=
      (Dict.required_of_get? (v := .arr (branches.map BranchPayload.toJson))
        ((hKnown "branches" (by decide)).trans ((hKept _ (by decide)).trans (by simp)))).trans
        (readAll_map fun b hAmong => BranchPayload.ofJson?_toJson .loose (hInputs b hAmong))
    have hAggregation' : r.required "aggregationConfig" (Aggregation.ofJson? .loose) =
      some aggregation :=
      (Dict.required_of_get? ((hKnown "aggregationConfig" (by decide)).trans
        ((hKept _ (by decide)).trans (by simp)))).trans hMerging
    have hConcurrency' : r.optional "maxConcurrency" word32? = some concurrency :=
      Dict.optional_of_get? (g := fun n : UInt32 => ofNat n.toNat)
        ((hKnown "maxConcurrency" (by decide)).trans ((hKept _ (by decide)).trans (by simp)))
        fun n _ => ⟨word32?_ofNat n, fun hSame => nomatch hSame⟩
    simp only [hBranches', hAggregation', hConcurrency', Option.bind_eq_bind, Option.bind_some]

end NextAction

end Actions

section Answers

namespace StepResult

structure Orderly (r : StepResult) : Prop where
  state : r.state.Orderly
  action : r.action.Orderly

theorem ofJson?_toJson {r : StepResult} (h : r.Orderly) : ofJson? r.toJson = some r := by
  refine bind_record?_object fun fields hKept => ?_
  have hState' : fields.required "state" ExecutionState.ofJson? = some r.state :=
    (Dict.required_of_get? ((hKept "state" (by decide)).trans (by simp))).trans
      (ExecutionState.ofJson?_toJson h.state)
  have hAction' : fields.required "action" NextAction.ofJson? = some r.action :=
    (Dict.required_of_get? ((hKept "action" (by decide)).trans (by simp))).trans
      (NextAction.ofJson?_toJson h.action)
  simp only [hState', hAction', Option.bind_eq_bind, Option.bind_some]

end StepResult

namespace RetryableFailure

structure Orderly (f : RetryableFailure) : Prop where
  state : f.state.Orderly
  error : f.error.Orderly

theorem ofJson?_toJson {f : RetryableFailure} (h : f.Orderly) : ofJson? f.toJson = some f := by
  refine bind_record?_object fun fields hKept => ?_
  have hState' : fields.required "state" ExecutionState.ofJson? = some f.state :=
    (Dict.required_of_get? ((hKept "state" (by decide)).trans (by simp))).trans
      (ExecutionState.ofJson?_toJson h.state)
  have hError' : fields.required "error" ErrorInfo.ofJson? = some f.error :=
    (Dict.required_of_get? ((hKept "error" (by decide)).trans (by simp))).trans
      (ErrorInfo.ofJson?_toJson h.error)
  simp only [hState', hError', Option.bind_eq_bind, Option.bind_some]

end RetryableFailure

end Answers

end Stepwise
