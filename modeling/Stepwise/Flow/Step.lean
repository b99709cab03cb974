import Stepwise.Json.Basic
import Stepwise.Time.Instant

/-!
# Flows and steps

Flow definitions: a graph of steps. Every kind of step carries only the fields that it needs.
-/

namespace Stepwise

set_option autoImplicit false

inductive OutputFormat where
  | raw
  | join
deriving DecidableEq, Repr

structure SourceMapping where
  sourcePath : String
  format : OutputFormat
  separator : Option String
deriving DecidableEq, Repr

/-- The source of one entry of a step's input. -/
inductive InputMapping where
  | source (mapping : SourceMapping)
  | template (template : Json)
deriving DecidableEq

/-- Where a branch begins: at a step of the same flow, or at the start of another flow. -/
inductive BranchTarget where
  | step (stepId : String)
  | flow (flowId : String) (version : UInt32)
deriving DecidableEq, Repr

inductive AggregationStrategy where
  | collectArray
  | collectDataPath
  | customModule
deriving DecidableEq, Repr

/-- How the results of branches are merged, and how many of them may fail. -/
structure Aggregation where
  strategy : AggregationStrategy := .collectArray
  dataPath : Option String := none
  moduleId : Option String := none
  failOnBranchError : Bool := true
  toleratedFailurePercentage : Option Float := none
deriving DecidableEq

structure Branch where
  id : String
  target : BranchTarget
  inputMappings : Dict InputMapping
  literals : Dict Json
  condition : Option String
deriving DecidableEq

structure Fork where
  branches : List Branch := []
  aggregation : Aggregation := {}
  maxConcurrency : Option UInt32 := none
deriving DecidableEq

structure Wait where
  correlationKeyTemplate : String
  maxWaitTimeSeconds : Option UInt64
deriving DecidableEq, Repr

structure Polling where
  intervalSeconds : UInt64 := 30
  maxAttempts : UInt32 := 10
  completionCondition : Option String := none
deriving DecidableEq, Repr

structure FlowStart where
  flowId : String
  version : UInt32
  triggerSource : Option String
deriving DecidableEq, Repr

inductive StepKind where
  | noOp
  | endFlow
  | customLogic
  | externalInvoke
  | dataLoad
  | dataSave
  | dataTransformation
  | fork (config : Fork)
  | wait (config : Wait)
  | poll (config : Polling)
  | startSubFlow (config : FlowStart)
  | startFlowExecution (config : FlowStart)
  | scheduleStartPoint
deriving DecidableEq

namespace StepKind

def typeName : StepKind → String
  | .noOp => "NO_OP"
  | .endFlow => "END_FLOW"
  | .customLogic => "CUSTOM_LOGIC"
  | .externalInvoke => "EXTERNAL_INVOKE"
  | .dataLoad => "DATA_LOAD"
  | .dataSave => "DATA_SAVE"
  | .dataTransformation => "DATA_TRANSFORMATION"
  | .fork _ => "PARALLEL_FORK_MANAGER"
  | .wait _ => "WAIT_FOR_EXTERNAL_EVENT"
  | .poll _ => "POLL_EXTERNAL_API"
  | .startSubFlow _ => "START_SUB_FLOW"
  | .startFlowExecution _ => "START_FLOW_EXECUTION"
  | .scheduleStartPoint => "SCHEDULE_START_POINT"

end StepKind

structure Transition where
  condition : String
  next : String
deriving DecidableEq, Repr

structure OnError where
  fallback : Option String
deriving DecidableEq, Repr

structure Step where
  id : String
  kind : StepKind
  moduleId : Option String := none
  customConfig : Dict Json := []
  inputMappings : Dict InputMapping := []
  outputMappings : Dict Json := []
  literals : Dict Json := []
  transitions : List Transition := []
  defaultNext : Option String := none
  onError : Option OnError := none
deriving DecidableEq

structure Flow where
  id : String
  version : UInt32
  isPublished : Bool
  steps : Dict Step
  start : String
  defaultContext : Dict Json
  defaultStepConfig : Dict Json
  onCompletionActions : List Json
  createdAt : Option Instant
  updatedAt : Option Instant
deriving DecidableEq

namespace Step

def fallback (s : Step) : Option String := s.onError.bind OnError.fallback

def branchTargets (s : Step) : List String :=
  match s.kind with
  | .fork config => config.branches.filterMap fun b =>
    match b.target with
    | .step id => some id
    | .flow _ _ => none
  | _ => []

/-- The steps that this step can lead to. -/
def references (s : Step) : List String :=
  s.transitions.map Transition.next ++ s.defaultNext.toList ++ s.fallback.toList ++ s.branchTargets

end Step

namespace Flow

def step? (f : Flow) (id : String) : Option Step := f.steps.get? id

def title (f : Flow) : String := f.id ++ " v" ++ toString f.version.toNat

end Flow

end Stepwise
