import Stepwise.Engine.Branching
import Stepwise.Engine.Dispatch
import Stepwise.Engine.Output
import Stepwise.Engine.Suspension
import Stepwise.Engine.Transition

/-!
# The interpreter of flows

Every entry point takes the state of an execution, runs at most one step, and answers the new state
with what is to be done next. It keeps nothing between two calls. A failure starts from the state as
it was before the step: it asks for a retry as long as the budget of the step lasts, and is terminal
afterwards.
-/

namespace Stepwise

set_option autoImplicit false

/-- What an entry point answers: a result, or a failure that is worth a retry. -/
abbrev Answered := Except RetryableFailure StepResult

namespace Step

/-- The name under which the polls of a step are counted. -/
def pollCounter (stepId : String) : String := stepId ++ ":poll"

end Step

namespace Interpreter

def flowText (id : String) (version : UInt32) : String := id ++ " v" ++ toString version.toNat

def start (m : StartMessage) : EngineProgram StepResult := do
  match ← EngineProgram.findFlow m.flowId m.version with
  | none => throw (.flowNotFound (flowText m.flowId m.version))
  | some flow =>
    let id ← match m.executionId with
      | some id => pure id
      | none => (liftM (Program.request .freshId) : EngineProgram String)
    pure ⟨{
      executionId := id
      flowId := m.flowId
      version := m.version
      current := some flow.start
      context := m.context
      parentExecutionId := m.parentExecutionId }, .proceed⟩

/-- The state of an execution as its first step sees it. -/
def activate (flow : Flow) (state : ExecutionState) : ExecutionState :=
  if state.status = .initializing then
    { state with
      context := state.context.withDefaults flow.defaultContext
      status := .running
      current := some (state.current.getD flow.start) }
  else state

/-- An execution that is ready to run a step. -/
structure Ready where
  flow : Flow
  step : Step
  state : ExecutionState

def locate (flow : Flow) (state : ExecutionState) : Except StepResult Ready :=
  match state.current with
  | none => .error ⟨{ state with status := .completed }, .finalize⟩
  | some id =>
    match flow.step? id with
    | some step => .ok ⟨flow, step, state⟩
    | none => .error (state.failTerminally (some flow) (some id)
        (.terminal "StepNotFound" (EngineError.stepNotFound id).message))

/-- Finds the flow and the step of an execution, or answers at once. -/
def prepare (state : ExecutionState) : Program (Except Answered Ready) := do
  if state.isTerminal then pure (.error (.ok ⟨state, .finalize⟩))
  else
    match ← (EngineProgram.findFlow state.flowId state.version).run with
    | .ok (some flow) =>
      pure (match locate flow (activate flow state) with
        | .ok ready => .ok ready
        | .error result => .error (.ok result))
    | .ok none =>
      pure (.error (.ok (state.failTerminally none state.current
        (.terminal "FlowDefinitionNotFound" (flowText state.flowId state.version)))))
    | .error e =>
      let error := StepError.ofEngine e
      pure (.error (if error.isRetryable then .error ⟨state, error.info⟩
        else .ok (state.failTerminally none state.current error.info)))

def writeOutput (s : Settings) (step : Step) (state : ExecutionState) (output : Json) :
    StepProgram ExecutionState := do
  let context ← (Output.apply s state.executionId step.outputMappings output state.context).asStep
  pure { { state with context := context }.resetAttempts step.id with errorInfo := none }

def complete (s : Settings) (flow : Flow) (step : Step) (state : ExecutionState) (output : Json) :
    StepProgram StepResult := do
  let state ← writeOutput s step state output
  let next ← (step.next state.scope).asStep
  let action ← (EngineProgram.ofExcept (flow.actionFor next)).asStep
  match next with
  | some id => pure ⟨{ state with current := some id }, action⟩
  | none => pure ⟨{ state with status := .completed, current := none }, action⟩

def input (s : Settings) (flow : Flow) (step : Step) (state : ExecutionState) :
    StepProgram (Dict Json) :=
  (Input.ofStep s step flow.defaultStepConfig state.scope).asStep

/-- A start that is wrongly configured fails for good; any other failure to start may go away. -/
def startFailure (e : EngineError) : StepError :=
  match e with
  | .configuration _ => .ofEngine e
  | .validation _ => .ofEngine e
  | _ => .transient ("Failed to enqueue flow start: " ++ e.message) none

def startFlow (s : Settings) (flow : Flow) (step : Step) (state : ExecutionState)
    (target : FlowStart) (parentId : Option String) : StepProgram StepResult := do
  let context ← input s flow step state
  let id ← (liftM (Program.request .freshId) : StepProgram String)
  let message : StartMessage := {
    flowId := target.flowId
    version := target.version
    context := context
    executionId := some id
    triggerSource := target.triggerSource
    parentExecutionId := parentId }
  ExceptT.adapt startFailure (EngineProgram.enqueueStart message)
  complete s flow step state (.object [("flowExecutionId", .str id)])

def pollIsComplete (polling : Polling) (state : ExecutionState) (output : Json) :
    EngineProgram Bool :=
  match polling.completionCondition with
  | none => pure true
  | some condition =>
    Condition.check condition
      (.obj (Dict.insert (Output.objectFields state.scope) "pollResult" output))

def poll (s : Settings) (flow : Flow) (step : Step) (state : ExecutionState) (polling : Polling) :
    StepProgram StepResult := do
  let output ← Dispatch.call step (← input s flow step state) state
  let counter := Step.pollCounter step.id
  if ← (pollIsComplete polling state output).asStep then
    complete s flow step (state.resetAttempts counter) output
  else
    let counted := state.countAttempt counter
    if polling.maxAttempts ≤ counted.attemptsOf counter then
      throw (.unclassified "PollingTimeoutError"
        ("step " ++ step.id ++ " did not complete within " ++ toString polling.maxAttempts.toNat
          ++ " polling attempts"))
    else pure ⟨counted, .poll polling⟩

/-- Starts the branches of a fork; a fork without branches is merged at once. -/
def fork (s : Settings) (flow : Flow) (step : Step) (state : ExecutionState) (config : Fork) :
    StepProgram StepResult := do
  let branches ← (config.payloads s state).asStep
  if branches.isEmpty then
    let output ← config.aggregation.merge [] step state
    complete s flow step state output
  else
    pure ⟨state, .fork branches config.aggregation (config.maxConcurrency.filter (0 < ·))⟩

def finish (s : Settings) (flow : Flow) (step : Step) (state : ExecutionState) :
    StepProgram StepResult := do
  let output ← input s flow step state
  let state ← writeOutput s step state (.obj output)
  pure ⟨{ state with status := .completed, current := none }, .finalize⟩

def passThrough (s : Settings) (flow : Flow) (step : Step) (state : ExecutionState) :
    StepProgram StepResult := do
  complete s flow step state (.obj (← input s flow step state))

def callHandler (s : Settings) (flow : Flow) (step : Step) (state : ExecutionState) :
    StepProgram StepResult := do
  complete s flow step state (← Dispatch.call step (← input s flow step state) state)

def runStep (s : Settings) (flow : Flow) (step : Step) (state : ExecutionState) :
    StepProgram StepResult :=
  match step.kind with
  | .endFlow => finish s flow step state
  | .wait _ => pure ⟨state, .suspend⟩
  | .fork config => fork s flow step state config
  | .startSubFlow target => startFlow s flow step state target (some state.executionId)
  | .startFlowExecution target => startFlow s flow step state target none
  | .poll polling => poll s flow step state polling
  | .noOp => passThrough s flow step state
  | .scheduleStartPoint => passThrough s flow step state
  | .dataTransformation =>
    if step.moduleId.isNone then passThrough s flow step state else callHandler s flow step state
  | .customLogic => callHandler s flow step state
  | .externalInvoke => callHandler s flow step state
  | .dataLoad => callHandler s flow step state
  | .dataSave => callHandler s flow step state

def failStep (r : Ready) (error : ErrorInfo) : StepResult :=
  (r.state.resetAttempts (Step.pollCounter r.step.id)).failTerminally (some r.flow) (some r.step.id)
    error

/-- Turns the outcome of a step into the answer. A retry is worth it as long as the attempts, the
one that failed among them, do not exceed the budget of the step. -/
def settle (s : Settings) (r : Ready) (outcome : Except StepError StepResult) : Answered :=
  match outcome with
  | .ok result => .ok result
  | .error e =>
    if e.isRetryable then
      let counted := r.state.countAttempt r.step.id
      if counted.attemptsOf r.step.id ≤ s.maxRetryAttempts then .error ⟨counted, e.info⟩
      else .ok (failStep { r with state := counted } e.info)
    else .ok (failStep r e.info)

def wrongKindError (r : Ready) (expected : String) : StepError :=
  .permanent
    ("step " ++ r.step.id ++ " is " ++ r.step.kind.typeName ++ ", expected " ++ expected) none

def wrongKind (r : Ready) (expected : String) : Answered :=
  .ok (failStep r (wrongKindError r expected).info)

def withStep (state : ExecutionState) (f : Ready → Program Answered) : Program Answered := do
  match ← prepare state with
  | .error answer => pure answer
  | .ok r => f r

def execute (s : Settings) (state : ExecutionState) : Program Answered :=
  withStep state fun r => do pure (settle s r (← (runStep s r.flow r.step r.state).run))

def suspend (s : Settings) (state : ExecutionState) (resumeToken : String) : Program Answered :=
  withStep state fun r =>
    match r.step.kind with
    | .wait config => do
      let outcome ← (config.suspend s r.state r.step.id resumeToken).run
      pure (settle s r (outcome.map fun _ => ⟨r.state, .suspend⟩))
    | _ => pure (wrongKind r "WAIT_FOR_EXTERNAL_EVENT")

/-- Completes the waiting step with the payload of an event as its output. -/
def resumeWithEvent (s : Settings) (state : ExecutionState) (payload : Json) : Program Answered :=
  withStep state fun r =>
    match r.step.kind with
    | .wait _ => do pure (settle s r (← (complete s r.flow r.step r.state payload).run))
    | _ => pure (wrongKind r "WAIT_FOR_EXTERNAL_EVENT")

def mergeAndComplete (s : Settings) (r : Ready) (config : Fork) (results : List BranchResult) :
    StepProgram StepResult := do
  let output ← config.aggregation.merge results r.step r.state
  complete s r.flow r.step r.state output

def aggregate (s : Settings) (state : ExecutionState) (results : List BranchResult) :
    Program Answered :=
  withStep state fun r =>
    match r.step.kind with
    | .fork config => do pure (settle s r (← (mergeAndComplete s r config results).run))
    | _ => pure (wrongKind r "PARALLEL_FORK_MANAGER")

/-- Ends the current step with a failure after the last retry. -/
def retriesExhausted (state : ExecutionState) (error : ErrorInfo) : Program Answered :=
  withStep state fun r => pure (.ok (failStep r error))

end Interpreter

end Stepwise
