import Stepwise.Flow.Step
import Stepwise.Json.Record

/-!
# Flows as documents

Flow definitions as JSON documents: for every type a writer and a reader.
-/

namespace Stepwise

set_option autoImplicit false

open Json

def jsonDict {α : Type} (f : α → Json) (d : Dict α) : Json :=
  .obj (d.map fun e => (e.1, f e.2))

namespace OutputFormat

def names : List (String × OutputFormat) := [("RAW", .raw), ("JOIN", .join)]

def toJson : OutputFormat → Json
  | .raw => .str "RAW"
  | .join => .str "JOIN"

end OutputFormat

namespace SourceMapping

def toJson (m : SourceMapping) : Json :=
  object ([("sourcePath", .str m.sourcePath), ("format", m.format.toJson)]
    ++ optionalField "separator" .str m.separator)

def ofJson? (j : Json) : Option SourceMapping := do
  let r ← j.record? [("sourcePath", .required), ("format", .anywhere), ("separator", .anywhere)]
  some {
    sourcePath := ← r.required "sourcePath" text?
    format := ← r.defaulted "format" .raw (choice? .loose OutputFormat.names)
    separator := ← r.optional "separator" text? }

end SourceMapping

namespace InputMapping

def toJson : InputMapping → Json
  | .source m => m.toJson
  | .template t => t

/-- What can be read as a source mapping is one; anything else is a template. -/
def ofJson? (j : Json) : Option InputMapping :=
  match SourceMapping.ofJson? j with
  | some m => some (.source m)
  | none => some (.template j.normalize)

end InputMapping

namespace BranchTarget

inductive Tag where
  | step
  | flow

def tags : List (String × Tag) := [("STEP_REF", .step), ("SUB_FLOW", .flow)]

def toJson : BranchTarget → Json
  | .step id => object [("type", .str "STEP_REF"), ("stepInstanceId", .str id)]
  | .flow id version =>
    object [("type", .str "SUB_FLOW"), ("flowDefinitionId", .str id),
      ("version", ofNat version.toNat)]

def ofJson? (mode : Reading) (j : Json) : Option BranchTarget := do
  let (tag, rest) ← j.tagged? mode "type" tags
  match tag with
  | .step =>
    let r ← rest.record? [("stepInstanceId", .required)]
    some (.step (← r.required "stepInstanceId" text?))
  | .flow =>
    let r ← rest.record? [("flowDefinitionId", .required), ("version", .required)]
    some (.flow (← r.required "flowDefinitionId" text?) (← r.required "version" word32?))

end BranchTarget

namespace AggregationStrategy

def names : List (String × AggregationStrategy) :=
  [("COLLECT_ARRAY", .collectArray), ("COLLECT_DATA_PATH", .collectDataPath),
   ("CUSTOM_MODULE", .customModule)]

def toJson : AggregationStrategy → Json
  | .collectArray => .str "COLLECT_ARRAY"
  | .collectDataPath => .str "COLLECT_DATA_PATH"
  | .customModule => .str "CUSTOM_MODULE"

end AggregationStrategy

namespace Aggregation

def toJson (a : Aggregation) : Json :=
  object ([("strategy", a.strategy.toJson), ("failOnBranchError", .bool a.failOnBranchError)]
    ++ optionalField "dataPath" .str a.dataPath
    ++ optionalField "moduleIdentifier" .str a.moduleId
    ++ optionalField "toleratedFailurePercentage" ofFloat a.toleratedFailurePercentage)

def ofJson? (mode : Reading) (j : Json) : Option Aggregation := do
  let r ← j.record? [("strategy", .anywhere), ("dataPath", .anywhere),
    ("moduleIdentifier", .anywhere), ("failOnBranchError", .anywhere),
    ("toleratedFailurePercentage", .anywhere)]
  some {
    strategy := ← r.defaulted "strategy" .collectArray (choice? mode AggregationStrategy.names)
    dataPath := ← r.optional "dataPath" text?
    moduleId := ← r.optional "moduleIdentifier" text?
    failOnBranchError := ← r.defaulted "failOnBranchError" true flag?
    toleratedFailurePercentage := ← r.optional "toleratedFailurePercentage" float? }

end Aggregation

namespace Branch

def toJson (b : Branch) : Json :=
  object ([("branchId", .str b.id), ("target", b.target.toJson),
    ("inputMappings", jsonDict InputMapping.toJson b.inputMappings), ("literals", .obj b.literals)]
    ++ optionalField "condition" .str b.condition)

def ofJson? (mode : Reading) (j : Json) : Option Branch := do
  let r ← j.record? [("branchId", .required), ("target", .required), ("inputMappings", .anywhere),
    ("literals", .anywhere), ("condition", .anywhere)]
  some {
    id := ← r.required "branchId" text?
    target := ← r.required "target" (BranchTarget.ofJson? mode)
    inputMappings := ← r.defaulted "inputMappings" [] (dict? InputMapping.ofJson?)
    literals := ← r.defaulted "literals" [] fields?
    condition := ← r.optional "condition" text? }

end Branch

namespace Fork

def entries (f : Fork) : List (String × Json) :=
  [("parallelBranches", .arr (f.branches.map Branch.toJson)),
   ("aggregationConfig", f.aggregation.toJson)]
    ++ optionalField "maxConcurrency" (fun n => ofNat n.toNat) f.maxConcurrency

def ofJson? (mode : Reading) (j : Json) : Option Fork := do
  let r ← j.record? [("parallelBranches", .anywhere), ("aggregationConfig", .anywhere),
    ("maxConcurrency", .anywhere)]
  some {
    branches := ← r.defaulted "parallelBranches" [] (list? (Branch.ofJson? mode))
    aggregation := ← r.defaulted "aggregationConfig" {} (Aggregation.ofJson? mode)
    maxConcurrency := ← r.optional "maxConcurrency" word32? }

end Fork

namespace Wait

def entries (w : Wait) : List (String × Json) :=
  [("correlationKeyTemplate", .str w.correlationKeyTemplate)]
    ++ optionalField "maxWaitTimeSeconds" (fun n => ofNat n.toNat) w.maxWaitTimeSeconds

def ofJson? (j : Json) : Option Wait := do
  let r ← j.record? [("correlationKeyTemplate", .required), ("maxWaitTimeSeconds", .anywhere)]
  some {
    correlationKeyTemplate := ← r.required "correlationKeyTemplate" text?
    maxWaitTimeSeconds := ← r.optional "maxWaitTimeSeconds" word64? }

end Wait

namespace Polling

def toJson (p : Polling) : Json :=
  object ([("intervalSeconds", ofNat p.intervalSeconds.toNat),
    ("maxAttempts", ofNat p.maxAttempts.toNat)]
    ++ optionalField "completionCondition" .str p.completionCondition)

def ofJson? (j : Json) : Option Polling := do
  let r ← j.record? [("intervalSeconds", .anywhere), ("maxAttempts", .anywhere),
    ("completionCondition", .anywhere)]
  some {
    intervalSeconds := ← r.defaulted "intervalSeconds" 30 word64?
    maxAttempts := ← r.defaulted "maxAttempts" 10 word32?
    completionCondition := ← r.optional "completionCondition" text? }

def ofStepJson? (j : Json) : Option Polling := do
  let r ← j.record? [("pollingConfig", .anywhere)]
  r.defaulted "pollingConfig" {} ofJson?

end Polling

namespace FlowStart

def entries (s : FlowStart) : List (String × Json) :=
  [("targetFlowDefinitionId", .str s.flowId), ("targetFlowVersion", ofNat s.version.toNat)]
    ++ optionalField "triggerSource" .str s.triggerSource

def ofJson? (j : Json) : Option FlowStart := do
  let r ← j.record? [("targetFlowDefinitionId", .required), ("targetFlowVersion", .required),
    ("triggerSource", .anywhere)]
  some {
    flowId := ← r.required "targetFlowDefinitionId" text?
    version := ← r.required "targetFlowVersion" word32?
    triggerSource := ← r.optional "triggerSource" text? }

end FlowStart

namespace StepKind

inductive Tag where
  | plain (kind : StepKind)
  | fork
  | wait
  | poll
  | startSubFlow
  | startFlowExecution

/-- The kinds of step by name, in the order of their numbers. -/
def tags : List (String × Tag) :=
  [("NO_OP", .plain .noOp), ("END_FLOW", .plain .endFlow), ("CUSTOM_LOGIC", .plain .customLogic),
   ("EXTERNAL_INVOKE", .plain .externalInvoke), ("DATA_LOAD", .plain .dataLoad),
   ("DATA_SAVE", .plain .dataSave), ("DATA_TRANSFORMATION", .plain .dataTransformation),
   ("PARALLEL_FORK_MANAGER", .fork), ("WAIT_FOR_EXTERNAL_EVENT", .wait),
   ("POLL_EXTERNAL_API", .poll), ("START_SUB_FLOW", .startSubFlow),
   ("START_FLOW_EXECUTION", .startFlowExecution),
   ("SCHEDULE_START_POINT", .plain .scheduleStartPoint)]

def entries : StepKind → List (String × Json)
  | .fork config => config.entries
  | .wait config => config.entries
  | .poll config => [("pollingConfig", config.toJson)]
  | .startSubFlow config => config.entries
  | .startFlowExecution config => config.entries
  | _ => []

def ofJson? (j : Json) : Option StepKind := do
  let (tag, rest) ← j.tagged? .loose "stepType" tags
  match tag with
  | .plain kind => (bare? rest).map fun _ => kind
  | .fork => (Fork.ofJson? .loose rest).map .fork
  | .wait => (Wait.ofJson? rest).map .wait
  | .poll => (Polling.ofStepJson? rest).map .poll
  | .startSubFlow => (FlowStart.ofJson? rest).map .startSubFlow
  | .startFlowExecution => (FlowStart.ofJson? rest).map .startFlowExecution

end StepKind

namespace Transition

def toJson (t : Transition) : Json :=
  object [("condition", .str t.condition), ("nextStepInstanceId", .str t.next)]

def ofJson? (j : Json) : Option Transition := do
  let r ← j.record? [("condition", .required), ("nextStepInstanceId", .required)]
  some {
    condition := ← r.required "condition" text?
    next := ← r.required "nextStepInstanceId" text? }

end Transition

namespace OnError

def toJson (e : OnError) : Json := object (optionalField "fallbackStepInstanceId" .str e.fallback)

def ofJson? (j : Json) : Option OnError := do
  let r ← j.record? [("fallbackStepInstanceId", .anywhere)]
  some { fallback := ← r.optional "fallbackStepInstanceId" text? }

end OnError

namespace Step

def toJson (s : Step) : Json :=
  object ([("stepInstanceId", .str s.id), ("stepType", .str s.kind.typeName)]
    ++ s.kind.entries
    ++ optionalField "moduleIdentifier" .str s.moduleId
    ++ [("customConfig", .obj s.customConfig),
        ("inputMappings", jsonDict InputMapping.toJson s.inputMappings),
        ("outputMappings", .obj s.outputMappings), ("literals", .obj s.literals),
        ("transitions", .arr (s.transitions.map Transition.toJson))]
    ++ optionalField "defaultNextStepInstanceId" .str s.defaultNext
    ++ optionalField "onError" OnError.toJson s.onError)

def spec : List (String × Presence) :=
  [("stepInstanceId", .required), ("moduleIdentifier", .anywhere), ("customConfig", .anywhere),
   ("inputMappings", .anywhere), ("outputMappings", .anywhere), ("literals", .anywhere),
   ("transitions", .anywhere), ("defaultNextStepInstanceId", .anywhere), ("onError", .anywhere)]

def kindFields (fields : List (String × Json)) : Json :=
  .obj (fields.filter fun e => !(spec.map Prod.fst).contains e.1)

def ofJson? (j : Json) : Option Step :=
  match j with
  | .obj fields => do
    let r ← j.namedRecord? spec
    some {
      id := ← r.required "stepInstanceId" text?
      kind := ← StepKind.ofJson? (kindFields fields)
      moduleId := ← r.optional "moduleIdentifier" text?
      customConfig := ← r.defaulted "customConfig" [] fields?
      inputMappings := ← r.defaulted "inputMappings" [] (dict? InputMapping.ofJson?)
      outputMappings := ← r.defaulted "outputMappings" [] fields?
      literals := ← r.defaulted "literals" [] fields?
      transitions := ← r.defaulted "transitions" [] (list? Transition.ofJson?)
      defaultNext := ← r.optional "defaultNextStepInstanceId" text?
      onError := ← r.optional "onError" OnError.ofJson? }
  | _ => none

end Step

namespace Flow

def toJson (f : Flow) : Json :=
  object ([("id", .str f.id), ("version", ofNat f.version.toNat),
    ("isPublished", .bool f.isPublished), ("steps", jsonDict Step.toJson f.steps),
    ("startStepInstanceId", .str f.start), ("flowVariables", .obj f.defaultContext),
    ("defaultStepConfig", .obj f.defaultStepConfig),
    ("onCompletionActions", .arr f.onCompletionActions)]
    ++ optionalField "createdAt" (fun t => .str t.text) f.createdAt
    ++ optionalField "updatedAt" (fun t => .str t.text) f.updatedAt)

def ofJson? (j : Json) : Option Flow := do
  let r ← j.record? [("id", .required), ("version", .required), ("isPublished", .anywhere),
    ("steps", .required), ("startStepInstanceId", .required), ("flowVariables", .anywhere),
    ("defaultStepConfig", .anywhere), ("onCompletionActions", .anywhere), ("createdAt", .anywhere),
    ("updatedAt", .anywhere)]
  some {
    id := ← r.required "id" text?
    version := ← r.required "version" word32?
    isPublished := ← r.defaulted "isPublished" false flag?
    steps := ← r.required "steps" (dict? Step.ofJson?)
    start := ← r.required "startStepInstanceId" text?
    defaultContext := ← r.defaulted "flowVariables" [] fields?
    defaultStepConfig := ← r.defaulted "defaultStepConfig" [] fields?
    onCompletionActions := ← r.defaulted "onCompletionActions" [] (list? document?)
    createdAt := ← r.optional "createdAt" instant?
    updatedAt := ← r.optional "updatedAt" instant? }

end Flow

end Stepwise
