import Stepwise.Execution.Continuation
import Stepwise.Execution.Handler
import Stepwise.Execution.Result
import Stepwise.Execution.Settings
import Stepwise.Flow.Codec

/-!
# Executions as documents

States, messages, results and settings as JSON documents.
-/

namespace Stepwise

set_option autoImplicit false

open Json

namespace ErrorInfo

def toJson (e : ErrorInfo) : Json :=
  object ([("errorName", .str e.name), ("errorMessage", .str e.message)]
    ++ optionalField "errorDetails" id e.details ++ [("isRetryable", .bool e.isRetryable)])

def ofJson? (j : Json) : Option ErrorInfo := do
  let r ← j.record? [("errorName", .required), ("errorMessage", .required),
    ("errorDetails", .anywhere), ("isRetryable", .required)]
  some {
    name := ← r.required "errorName" text?
    message := ← r.required "errorMessage" text?
    details := ← r.optional "errorDetails" document?
    isRetryable := ← r.required "isRetryable" flag? }

end ErrorInfo

namespace StepError

inductive Tag where
  | permanent
  | transient
  | contentBasedRetryable
  | unclassified

def tags : List (String × Tag) :=
  [("PERMANENT", .permanent), ("TRANSIENT", .transient),
   ("CONTENT_BASED_RETRYABLE", .contentBasedRetryable), ("UNCLASSIFIED", .unclassified)]

def toJson : StepError → Json
  | .permanent m d => object ([("kind", .str "PERMANENT"), ("message", .str m)]
    ++ optionalField "details" id d)
  | .transient m d => object ([("kind", .str "TRANSIENT"), ("message", .str m)]
    ++ optionalField "details" id d)
  | .contentBasedRetryable m d =>
    object ([("kind", .str "CONTENT_BASED_RETRYABLE"), ("message", .str m)]
      ++ optionalField "details" id d)
  | .unclassified name m =>
    object [("kind", .str "UNCLASSIFIED"), ("name", .str name), ("message", .str m)]

def detailed? (j : Json) : Option (String × Option Json) := do
  let r ← j.record? [("message", .required), ("details", .anywhere)]
  some (← r.required "message" text?, ← r.optional "details" document?)

def ofJson? (j : Json) : Option StepError := do
  let (tag, rest) ← j.tagged? .strict "kind" tags
  match tag with
  | .permanent => (detailed? rest).map fun p => .permanent p.1 p.2
  | .transient => (detailed? rest).map fun p => .transient p.1 p.2
  | .contentBasedRetryable => (detailed? rest).map fun p => .contentBasedRetryable p.1 p.2
  | .unclassified =>
    let r ← rest.record? [("name", .required), ("message", .required)]
    some (.unclassified (← r.required "name" text?) (← r.required "message" text?))

end StepError

namespace Status

def names : List (String × Status) :=
  [.initializing, .running, .completed, .failed, .timedOut, .cancelled].map fun s => (s.wireName, s)

end Status

namespace ExecutionState

def header (s : ExecutionState) : List (String × Json) :=
  [("flowExecutionId", .str s.executionId), ("flowDefinitionId", .str s.flowId),
   ("version", ofNat s.version.toNat), ("status", .str s.status.wireName),
   ("stepRetryAttempts", jsonDict (fun n : UInt32 => ofNat n.toNat) s.attempts)]
    ++ optionalField "currentStepInstanceId" .str s.current
    ++ optionalField "errorInfo" ErrorInfo.toJson s.errorInfo
    ++ optionalField "branchId" .str s.branchId
    ++ optionalField "branchExecutionId" .str s.branchExecutionId
    ++ optionalField "parentExecutionId" .str s.parentExecutionId

def toJson (s : ExecutionState) : Json :=
  object (s.header ++ [("currentContextData", .obj s.context)])

/-- What the expressions of a step see: the fields of the state, and over them the context. -/
def scope (s : ExecutionState) : Json :=
  .obj ((Dict.ofList (s.header ++ [("currentContextData", .obj s.context)])).update s.context)

def ofJson? (j : Json) : Option ExecutionState := do
  let r ← j.record? [("flowExecutionId", .required), ("flowDefinitionId", .required),
    ("version", .required), ("currentStepInstanceId", .anywhere), ("status", .required),
    ("currentContextData", .anywhere), ("stepRetryAttempts", .anywhere), ("errorInfo", .anywhere),
    ("branchId", .anywhere), ("branchExecutionId", .anywhere), ("parentExecutionId", .anywhere)]
  some {
    executionId := ← r.required "flowExecutionId" text?
    flowId := ← r.required "flowDefinitionId" text?
    version := ← r.required "version" word32?
    current := ← r.optional "currentStepInstanceId" text?
    status := ← r.required "status" (choice? .strict Status.names)
    context := ← r.defaulted "currentContextData" [] fields?
    attempts := ← r.defaulted "stepRetryAttempts" [] (dict? word32?)
    errorInfo := ← r.optional "errorInfo" ErrorInfo.ofJson?
    branchId := ← r.optional "branchId" text?
    branchExecutionId := ← r.optional "branchExecutionId" text?
    parentExecutionId := ← r.optional "parentExecutionId" text? }

end ExecutionState

namespace StartMessage

def toJson (m : StartMessage) : Json :=
  object ([("flowDefinitionId", .str m.flowId), ("flowVersion", ofNat m.version.toNat),
    ("initialContextData", .obj m.context)]
    ++ optionalField "flowExecutionId" .str m.executionId
    ++ optionalField "triggerSource" .str m.triggerSource
    ++ optionalField "parentExecutionId" .str m.parentExecutionId)

def ofJson? (j : Json) : Option StartMessage := do
  let r ← j.record? [("flowDefinitionId", .required), ("flowVersion", .required),
    ("initialContextData", .anywhere), ("flowExecutionId", .anywhere), ("triggerSource", .anywhere),
    ("parentExecutionId", .anywhere)]
  some {
    flowId := ← r.required "flowDefinitionId" text?
    version := ← r.required "flowVersion" word32?
    context := ← r.defaulted "initialContextData" [] fields?
    executionId := ← r.optional "flowExecutionId" text?
    triggerSource := ← r.optional "triggerSource" text?
    parentExecutionId := ← r.optional "parentExecutionId" text? }

end StartMessage

namespace BranchPayload

def toJson (p : BranchPayload) : Json :=
  object [("branchId", .str p.branchId), ("branchIndex", ofNat p.index.toNat),
    ("branchExecutionId", .str p.executionId), ("target", p.target.toJson),
    ("inputData", .obj p.input)]

def ofJson? (mode : Reading) (j : Json) : Option BranchPayload := do
  let r ← j.record? [("branchId", .required), ("branchIndex", .required),
    ("branchExecutionId", .required), ("target", .required), ("inputData", .anywhere)]
  some {
    branchId := ← r.required "branchId" text?
    index := ← r.required "branchIndex" word64?
    executionId := ← r.required "branchExecutionId" text?
    target := ← r.required "target" (BranchTarget.ofJson? mode)
    input := ← r.defaulted "inputData" [] fields? }

end BranchPayload

namespace BranchResult

def toJson (b : BranchResult) : Json :=
  object ([("branchId", .str b.branchId), ("branchIndex", ofNat b.index.toNat),
    ("succeeded", .bool b.succeeded)]
    ++ optionalField "output" id b.output ++ optionalField "error" ErrorInfo.toJson b.error)

def ofJson? (j : Json) : Option BranchResult := do
  let r ← j.record? [("branchId", .required), ("branchIndex", .required), ("succeeded", .required),
    ("output", .anywhere), ("error", .anywhere)]
  some {
    branchId := ← r.required "branchId" text?
    index := ← r.required "branchIndex" word64?
    succeeded := ← r.required "succeeded" flag?
    output := ← r.optional "output" document?
    error := ← r.optional "error" ErrorInfo.ofJson? }

end BranchResult

namespace NextAction

inductive Tag where
  | proceed
  | suspend
  | poll
  | fork
  | finalize

def tags : List (String × Tag) :=
  [("CONTINUE", .proceed), ("SUSPEND", .suspend), ("POLL", .poll), ("FORK", .fork),
   ("FINALIZE", .finalize)]

def toJson : NextAction → Json
  | .proceed => object [("type", .str "CONTINUE")]
  | .suspend => object [("type", .str "SUSPEND")]
  | .poll config => object [("type", .str "POLL"), ("pollingConfig", config.toJson)]
  | .fork branches aggregation maxConcurrency =>
    object ([("type", .str "FORK"), ("branches", .arr (branches.map BranchPayload.toJson)),
      ("aggregationConfig", aggregation.toJson)]
      ++ optionalField "maxConcurrency" (fun n => ofNat n.toNat) maxConcurrency)
  | .finalize => object [("type", .str "FINALIZE")]

def ofJson? (j : Json) : Option NextAction := do
  let (tag, rest) ← j.tagged? .strict "type" tags
  match tag with
  | .proceed => (bare? rest).map fun _ => .proceed
  | .suspend => (bare? rest).map fun _ => .suspend
  | .poll =>
    let r ← rest.record? [("pollingConfig", .required)]
    some (.poll (← r.required "pollingConfig" Polling.ofJson?))
  | .fork =>
    let r ← rest.record? [("branches", .required), ("aggregationConfig", .required),
      ("maxConcurrency", .anywhere)]
    some (.fork (← r.required "branches" (list? (BranchPayload.ofJson? .loose)))
      (← r.required "aggregationConfig" (Aggregation.ofJson? .loose))
      (← r.optional "maxConcurrency" word32?))
  | .finalize => (bare? rest).map fun _ => .finalize

end NextAction

namespace StepResult

def toJson (r : StepResult) : Json :=
  object [("state", r.state.toJson), ("action", r.action.toJson)]

def ofJson? (j : Json) : Option StepResult := do
  let r ← j.record? [("state", .required), ("action", .required)]
  some {
    state := ← r.required "state" ExecutionState.ofJson?
    action := ← r.required "action" NextAction.ofJson? }

end StepResult

namespace RetryableFailure

def toJson (f : RetryableFailure) : Json :=
  object [("state", f.state.toJson), ("error", f.error.toJson)]

def ofJson? (j : Json) : Option RetryableFailure := do
  let r ← j.record? [("state", .required), ("error", .required)]
  some {
    state := ← r.required "state" ExecutionState.ofJson?
    error := ← r.required "error" ErrorInfo.ofJson? }

end RetryableFailure

namespace ContinuationRecord

def toJson (r : ContinuationRecord) : Json :=
  object [("correlationKey", .str r.correlationKey), ("resumeToken", .str r.resumeToken),
    ("flowExecutionId", .str r.executionId), ("stepInstanceId", .str r.stepId),
    ("createdAt", .str r.createdAt.text), ("ttlSeconds", ofNat r.ttlSeconds.toNat)]

def ofJson? (j : Json) : Option ContinuationRecord := do
  let r ← j.record? [("correlationKey", .required), ("resumeToken", .required),
    ("flowExecutionId", .required), ("stepInstanceId", .required), ("createdAt", .required),
    ("ttlSeconds", .required)]
  some {
    correlationKey := ← r.required "correlationKey" text?
    resumeToken := ← r.required "resumeToken" text?
    executionId := ← r.required "flowExecutionId" text?
    stepId := ← r.required "stepInstanceId" text?
    createdAt := ← r.required "createdAt" instant?
    ttlSeconds := ← r.required "ttlSeconds" word64? }

end ContinuationRecord

namespace HandlerRegistration

def toJson (h : HandlerRegistration) : Json :=
  object ([("moduleIdentifier", .str h.moduleId), ("endpoint", .str h.endpoint)]
    ++ optionalField "timeoutSeconds" (fun n => ofNat n.toNat) h.timeoutSeconds)

def ofJson? (j : Json) : Option HandlerRegistration := do
  let r ← j.record? [("moduleIdentifier", .required), ("endpoint", .required),
    ("timeoutSeconds", .anywhere)]
  some {
    moduleId := ← r.required "moduleIdentifier" text?
    endpoint := ← r.required "endpoint" text?
    timeoutSeconds := ← r.optional "timeoutSeconds" word64? }

end HandlerRegistration

namespace HandlerRequest

def toJson (r : HandlerRequest) : Json :=
  object [("stepDefinition", r.step.toJson), ("stepInput", .obj r.input),
    ("executionState", r.state.toJson)]

def ofJson? (j : Json) : Option HandlerRequest := do
  let r ← j.record? [("stepDefinition", .required), ("stepInput", .required),
    ("executionState", .required)]
  some {
    step := ← r.required "stepDefinition" Step.ofJson?
    input := ← r.required "stepInput" fields?
    state := ← r.required "executionState" ExecutionState.ofJson? }

end HandlerRequest

namespace Settings

def toJson (s : Settings) : Json :=
  object [("offloadThresholdBytes", ofNat s.offloadThresholdBytes.toNat),
    ("maxPayloadBytes", ofNat s.maxPayloadBytes.toNat),
    ("objectStoreContainer", .str s.objectStoreContainer),
    ("maxTemplateDepth", ofNat s.maxTemplateDepth.toNat),
    ("defaultContinuationTtlSeconds", ofNat s.defaultContinuationTtlSeconds.toNat),
    ("maxRetryAttempts", ofNat s.maxRetryAttempts.toNat),
    ("maxCorrelationKeyLength", ofNat s.maxCorrelationKeyLength.toNat)]

def ofJson? (j : Json) : Option Settings := do
  let d : Settings := {}
  let r ← j.record? [("offloadThresholdBytes", .anywhere), ("maxPayloadBytes", .anywhere),
    ("objectStoreContainer", .anywhere), ("maxTemplateDepth", .anywhere),
    ("defaultContinuationTtlSeconds", .anywhere), ("maxRetryAttempts", .anywhere),
    ("maxCorrelationKeyLength", .anywhere)]
  some {
    offloadThresholdBytes := ← r.defaulted "offloadThresholdBytes" d.offloadThresholdBytes word64?
    maxPayloadBytes := ← r.defaulted "maxPayloadBytes" d.maxPayloadBytes word64?
    objectStoreContainer := ← r.defaulted "objectStoreContainer" d.objectStoreContainer text?
    maxTemplateDepth := ← r.defaulted "maxTemplateDepth" d.maxTemplateDepth word64?
    defaultContinuationTtlSeconds :=
      ← r.defaulted "defaultContinuationTtlSeconds" d.defaultContinuationTtlSeconds word64?
    maxRetryAttempts := ← r.defaulted "maxRetryAttempts" d.maxRetryAttempts word32?
    maxCorrelationKeyLength :=
      ← r.defaulted "maxCorrelationKeyLength" d.maxCorrelationKeyLength word64? }

end Settings

end Stepwise
