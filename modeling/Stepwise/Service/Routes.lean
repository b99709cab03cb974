import Stepwise.Engine.Interpreter
import Stepwise.Json.Parser
import Stepwise.Service.Answer
import Stepwise.Service.Config
import Stepwise.Web.MediaType

/-!
# Endpoints

The endpoints of a service and their answers. The orchestrator starts an execution and then sends
its state back and forth; callers from outside resume waiting executions by their correlation key.
-/

namespace Stepwise

set_option autoImplicit false

inductive Endpoint where
  | start
  | execute
  | suspend
  | resumeStep
  | aggregate
  | retriesExhausted
  | resume
  | health
deriving DecidableEq, Repr

namespace Endpoint

def all : List Endpoint :=
  [.start, .execute, .suspend, .resumeStep, .aggregate, .retriesExhausted, .resume, .health]

def path : Endpoint → String
  | .start => "/v1/executions/start"
  | .execute => "/v1/executions/execute"
  | .suspend => "/v1/executions/suspend"
  | .resumeStep => "/v1/executions/resume-step"
  | .aggregate => "/v1/executions/aggregate"
  | .retriesExhausted => "/v1/executions/retries-exhausted"
  | .resume => "/resume"
  | .health => "/health"

def methods : Endpoint → List String
  | .health => ["GET", "HEAD"]
  | _ => ["POST"]

end Endpoint

structure HttpRequest where
  method : String
  path : String
  contentType : Option String
  body : String
deriving DecidableEq, Repr

namespace HttpRequest

def maxBodyBytes : Nat := 2097152

def route (r : HttpRequest) : String :=
  String.ofList (r.path.toList.takeWhile fun c => c ≠ '?' && c ≠ '#')

/-- The endpoint of a request, or the status that tells that there is none. -/
def endpoint (r : HttpRequest) : Except Nat Endpoint :=
  match Endpoint.all.find? fun e => e.path = r.route with
  | none => .error 404
  | some e => if e.methods.contains r.method then .ok e else .error 405

/-- Reads the body, which must be announced as JSON. What follows the document is not read. -/
def read {α : Type} (r : HttpRequest) (f : Json → Option α) : Except Nat α :=
  if !r.contentType.any Web.isJsonType then .error 415
  else if maxBodyBytes < r.body.utf8ByteSize then .error 413
  else
    match Json.parseFront r.body with
    | none => .error 400
    | some (j, _) =>
      match f j with
      | none => .error 422
      | some a => .ok a

end HttpRequest

structure SuspendRequest where
  state : ExecutionState
  resumeToken : String
deriving DecidableEq

namespace SuspendRequest

def ofJson? (j : Json) : Option SuspendRequest := do
  let r ← j.record? [("state", .required), ("resumeToken", .required)]
  some ⟨← r.required "state" ExecutionState.ofJson?, ← r.required "resumeToken" Json.text?⟩

end SuspendRequest

structure ResumeStepRequest where
  state : ExecutionState
  payload : Json
deriving DecidableEq

namespace ResumeStepRequest

def ofJson? (j : Json) : Option ResumeStepRequest := do
  let r ← j.record? [("state", .required), ("payload", .anywhere)]
  some ⟨← r.required "state" ExecutionState.ofJson?,
    ← r.defaulted "payload" .null Json.document?⟩

end ResumeStepRequest

structure AggregateRequest where
  state : ExecutionState
  results : List BranchResult
deriving DecidableEq

namespace AggregateRequest

def ofJson? (j : Json) : Option AggregateRequest := do
  let r ← j.record? [("state", .required), ("branchResults", .required)]
  some ⟨← r.required "state" ExecutionState.ofJson?,
    ← r.required "branchResults" (Json.list? BranchResult.ofJson?)⟩

end AggregateRequest

structure RetriesExhaustedRequest where
  state : ExecutionState
  error : ErrorInfo
deriving DecidableEq

namespace RetriesExhaustedRequest

def ofJson? (j : Json) : Option RetriesExhaustedRequest := do
  let r ← j.record? [("state", .required), ("errorInfo", .required)]
  some ⟨← r.required "state" ExecutionState.ofJson?, ← r.required "errorInfo" ErrorInfo.ofJson?⟩

end RetriesExhaustedRequest

/-- An event for the execution that waits on a correlation key. -/
structure ResumeRequest where
  correlationKey : String
  payload : Json
deriving DecidableEq

namespace ResumeRequest

def ofJson? (j : Json) : Option ResumeRequest := do
  let r ← j.record? [("correlationValue", .required), ("payload", .anywhere)]
  some ⟨← r.required "correlationValue" Json.text?,
    ← r.defaulted "payload" .null Json.document?⟩

end ResumeRequest

structure Service where
  config : ServiceConfig
  /-- The modules of the handlers of this process, in order. -/
  builtInModules : List String
deriving DecidableEq

namespace Service

def version : String := "0.1.0"

def presence : Option String → Json
  | some _ => .str "CONFIGURED"
  | none => .str "MISSING"

def health (s : Service) : Json :=
  .object [("status", .str "UP"), ("version", .str version),
    ("builtInModules", .arr (s.builtInModules.map .str)),
    ("dependencies", .object [("orchestratorResume", presence s.config.resumeUrl),
      ("orchestratorStart", presence s.config.startUrl)])]

def ofStart : Except EngineError StepResult → Answer
  | .ok result => .json 200 result.toJson
  | .error e => (Refusal.ofEngine e).answer

def ofRun : Answered → Answer
  | .ok result => .json 200 result.toJson
  | .error failure => (Refusal.retryable failure).answer

def ofDelivery : Except ResumeError ContinuationRecord → Answer
  | .ok record => .json 202 (.object [("status", .str "ACCEPTED"),
      ("flowExecutionId", .str record.executionId)])
  | .error e => (Refusal.ofResume e).answer

def withBody {α : Type} (r : HttpRequest) (read : Json → Option α) (f : α → Program Answer) :
    Program Answer :=
  match r.read read with
  | .error status => pure (.bare status)
  | .ok a => f a

def suspend (s : Service) (r : SuspendRequest) : Program Answer :=
  if (Text.trim r.resumeToken.toList).isEmpty then
    pure (Refusal.badRequest "resumeToken must not be empty").answer
  else do pure (ofRun (← Interpreter.suspend s.config.engine r.state r.resumeToken))

def resume (s : Service) (r : ResumeRequest) : Program Answer :=
  if r.correlationKey.isEmpty then
    pure (Refusal.badRequest "correlationValue must not be empty").answer
  else do pure (ofDelivery (← Resume.deliver s.config.engine r.correlationKey r.payload))

def atEndpoint (s : Service) (r : HttpRequest) : Endpoint → Program Answer
  | .start => withBody r StartMessage.ofJson? fun m => do
    pure (ofStart (← (Interpreter.start m).run))
  | .execute => withBody r ExecutionState.ofJson? fun state => do
    pure (ofRun (← Interpreter.execute s.config.engine state))
  | .suspend => withBody r SuspendRequest.ofJson? s.suspend
  | .resumeStep => withBody r ResumeStepRequest.ofJson? fun b => do
    pure (ofRun (← Interpreter.resumeWithEvent s.config.engine b.state b.payload))
  | .aggregate => withBody r AggregateRequest.ofJson? fun b => do
    pure (ofRun (← Interpreter.aggregate s.config.engine b.state b.results))
  | .retriesExhausted => withBody r RetriesExhaustedRequest.ofJson? fun b => do
    pure (ofRun (← Interpreter.retriesExhausted b.state b.error))
  | .resume => withBody r ResumeRequest.ofJson? s.resume
  | .health => pure (if r.method = "HEAD" then .bare 200 else .json 200 s.health)

def answer (s : Service) (r : HttpRequest) : Program Answer :=
  match r.endpoint with
  | .error status => pure (.bare status)
  | .ok e => s.atEndpoint r e

end Service

end Stepwise
