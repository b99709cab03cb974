import Stepwise.Json.Text
import Stepwise.Text.Quoted

/-!
# Failures

Failures of the engine and its stores, of a step, of a resume signal and of a remote handler. A
failure of the engine becomes a failure of the step that it happened in; failures of the stores can
go away by themselves, so they are the ones worth a retry.
-/

namespace Stepwise

set_option autoImplicit false

inductive EngineError where
  | resolution (cause : String)
  | template (cause : String)
  | templateDepth (cause : String)
  | condition (cause : String)
  | validation (cause : String)
  | objectStore (cause : String)
  | continuationStore (cause : String)
  | metadataStore (cause : String)
  | flowNotFound (cause : String)
  | stepNotFound (cause : String)
  | configuration (cause : String)
  | serialization (cause : String)
  | other (cause : String)
deriving DecidableEq, Repr

namespace EngineError

def name : EngineError → String
  | .resolution _ => "ResolutionError"
  | .template _ => "TemplateError"
  | .templateDepth _ => "TemplateDepthExceeded"
  | .condition _ => "ConditionEvaluationError"
  | .validation _ => "ValidationError"
  | .objectStore _ => "ObjectStoreError"
  | .continuationStore _ => "ContinuationStoreError"
  | .metadataStore _ => "MetadataStoreError"
  | .flowNotFound _ => "FlowDefinitionNotFound"
  | .stepNotFound _ => "StepNotFound"
  | .configuration _ => "ConfigurationError"
  | .serialization _ => "SerializationError"
  | .other _ => "Other"

def cause : EngineError → String
  | .resolution c | .template c | .templateDepth c | .condition c | .validation c | .objectStore c
  | .continuationStore c | .metadataStore c | .flowNotFound c | .stepNotFound c | .configuration c
  | .serialization c | .other c => c

def ofName (name cause : String) : EngineError :=
  match name with
  | "ResolutionError" => .resolution cause
  | "TemplateError" => .template cause
  | "TemplateDepthExceeded" => .templateDepth cause
  | "ConditionEvaluationError" => .condition cause
  | "ValidationError" => .validation cause
  | "ObjectStoreError" => .objectStore cause
  | "ContinuationStoreError" => .continuationStore cause
  | "MetadataStoreError" => .metadataStore cause
  | "FlowDefinitionNotFound" => .flowNotFound cause
  | "StepNotFound" => .stepNotFound cause
  | "ConfigurationError" => .configuration cause
  | "SerializationError" => .serialization cause
  | _ => .other cause

def message : EngineError → String
  | .resolution c => "Resolution error: " ++ c
  | .template c => "Template error: " ++ c
  | .templateDepth c => "Template recursion depth exceeded: " ++ c
  | .condition c => "Condition evaluation error: " ++ c
  | .validation c => "Validation error: " ++ c
  | .objectStore c => "Object store error: " ++ c
  | .continuationStore c => "Continuation store error: " ++ c
  | .metadataStore c => "Metadata store error: " ++ c
  | .flowNotFound c => "Flow definition not found: " ++ c
  | .stepNotFound c => "Step not found: " ++ c
  | .configuration c => "Configuration error: " ++ c
  | .serialization c => "Serialization error: " ++ c
  | .other c => c

/-- Whether the failure comes from a store, which may recover by itself. -/
def isInfrastructure : EngineError → Bool
  | .objectStore _ | .continuationStore _ | .metadataStore _ => true
  | _ => false

/-- The failure with its cause quoted, as it stands in the details of a step's failure. -/
def source (e : EngineError) : String := e.name ++ "(" ++ Text.quoted e.cause ++ ")"

end EngineError

structure ErrorInfo where
  name : String
  message : String
  details : Option Json := none
  isRetryable : Bool
deriving DecidableEq

namespace ErrorInfo

def terminal (name message : String) : ErrorInfo := ⟨name, message, none, false⟩

end ErrorInfo

inductive StepError where
  | permanent (message : String) (details : Option Json)
  | transient (message : String) (details : Option Json)
  | contentBasedRetryable (message : String) (details : Option Json)
  | unclassified (name message : String)
deriving DecidableEq

namespace StepError

/-- Names of unclassified failures that a retry may mend. -/
def transientNames : List String :=
  ["ThrottlingException", "TooManyRequestsException", "ProvisionedThroughputExceededException",
   "RequestLimitExceeded", "ServiceUnavailable", "ServiceUnavailableException",
   "InternalServerError", "RequestTimeout", "TimeoutError"]

def isRetryable : StepError → Bool
  | .permanent _ _ => false
  | .transient _ _ | .contentBasedRetryable _ _ => true
  | .unclassified name _ => transientNames.contains name

def name : StepError → String
  | .permanent _ _ => "PermanentStepError"
  | .transient _ _ => "TransientStepError"
  | .contentBasedRetryable _ _ => "ContentBasedRetryableError"
  | .unclassified name _ => name

def info (e : StepError) : ErrorInfo :=
  match e with
  | .permanent m d | .transient m d | .contentBasedRetryable m d => ⟨e.name, m, d, e.isRetryable⟩
  | .unclassified _ m => ⟨e.name, m, none, e.isRetryable⟩

def text : StepError → String
  | .permanent m _ | .transient m _ | .contentBasedRetryable m _ => m
  | .unclassified name m => name ++ ": " ++ m

def ofEngine (e : EngineError) : StepError :=
  let details := Json.object [("source", .str e.source)]
  if e.isInfrastructure then .transient e.message (some details)
  else .permanent e.message (some details)

@[simp] theorem isRetryable_ofEngine (e : EngineError) :
    (ofEngine e).isRetryable = e.isInfrastructure := by
  cases h : e.isInfrastructure <;> simp [ofEngine, h, isRetryable]

end StepError

inductive SignalError where
  | tokenExpired (cause : String)
  | invalidToken (cause : String)
  | failed (cause : String)
deriving DecidableEq, Repr

namespace SignalError

def message : SignalError → String
  | .tokenExpired c => "Resume token expired: " ++ c
  | .invalidToken c => "Resume token invalid: " ++ c
  | .failed c => "Resume signal failed: " ++ c

/-- Whether the token can never be used again. -/
def isTokenGone : SignalError → Bool
  | .tokenExpired _ | .invalidToken _ => true
  | .failed _ => false

def ofName (name cause : String) : SignalError :=
  match name with
  | "TokenExpired" => .tokenExpired cause
  | "InvalidToken" => .invalidToken cause
  | _ => .failed cause

end SignalError

inductive InvocationError where
  | transport (cause : String)
  | malformedResponse (cause : String)
deriving DecidableEq, Repr

namespace InvocationError

def message : InvocationError → String
  | .transport c => "Handler transport failure: " ++ c
  | .malformedResponse c => "Malformed handler response: " ++ c

end InvocationError

end Stepwise
