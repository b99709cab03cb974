import Stepwise.Engine.Suspension
import Stepwise.Execution.Codec
import Stepwise.Service.Failure

/-!
# Answers over HTTP

Answers of a service over HTTP. A refusal has a status, a code and a message, and the message stands
twice in the body; a failure worth a retry also carries the state to retry with.
-/

namespace Stepwise

set_option autoImplicit false

/-- An answer. Only the service itself writes bodies; what is refused before it has none. -/
structure Answer where
  status : Nat
  body : Option Json
deriving DecidableEq

namespace Answer

def json (status : Nat) (body : Json) : Answer := ⟨status, some body⟩

def bare (status : Nat) : Answer := ⟨status, none⟩

end Answer

inductive Refusal where
  | badRequest (message : String)
  | notFound (message : String)
  | gone (message : String)
  | payloadTooLarge (message : String)
  | internal (message : String)
  | badGateway (message : String)
  | unavailable (message : String)
  | retryable (failure : RetryableFailure)
  | service (cause : ServiceError)
deriving DecidableEq

namespace Refusal

def text : Refusal → String
  | .badRequest m => "Bad Request: " ++ m
  | .notFound m => "Not Found: " ++ m
  | .gone m => "Gone: " ++ m
  | .payloadTooLarge m => "Payload Too Large: " ++ m
  | .internal m => "Internal Server Error: " ++ m
  | .badGateway m => "Bad Gateway: " ++ m
  | .unavailable m => "Service Unavailable: " ++ m
  | .retryable f => "Retryable Failure: " ++ f.text
  | .service e => "Server Error: " ++ e.message

def ofEngine (e : EngineError) : Refusal :=
  match e with
  | .flowNotFound _ => .notFound e.message
  | .stepNotFound _ => .notFound e.message
  | _ => if e.isInfrastructure then .unavailable e.message else .badRequest e.message

def ofResume (e : ResumeError) : Refusal :=
  match e with
  | .payloadTooLarge _ _ => .payloadTooLarge e.message
  | .notFound _ => .notFound e.message
  | .tokenGone _ => .gone e.message
  | .signalFailed _ => .badGateway e.message
  | .store _ => .unavailable e.message

def status : Refusal → Nat
  | .badRequest _ => 400
  | .notFound _ => 404
  | .gone _ => 410
  | .payloadTooLarge _ => 413
  | .internal _ => 500
  | .badGateway _ => 502
  | .unavailable _ => 503
  | .retryable _ => 503
  | .service (.notFound _) => 404
  | .service (.invalid _) => 400
  | .service (.malformed _) => 400
  | .service _ => 500

def code : Refusal → String
  | .badRequest _ => "ERR_BAD_REQUEST"
  | .notFound _ => "ERR_NOT_FOUND"
  | .gone _ => "ERR_RESUME_TOKEN_GONE"
  | .payloadTooLarge _ => "ERR_PAYLOAD_TOO_LARGE"
  | .internal _ => "ERR_INTERNAL_SERVER_ERROR"
  | .badGateway _ => "ERR_BAD_GATEWAY"
  | .unavailable _ => "ERR_SERVICE_UNAVAILABLE"
  | .retryable _ => "ERR_RETRYABLE_STEP_FAILURE"
  | .service (.notFound _) => "ERR_NOT_FOUND"
  | .service (.invalid _) => "ERR_VALIDATION_ERROR"
  | .service (.malformed _) => "ERR_VALIDATION_ERROR"
  | .service _ => "ERR_INTERNAL_SERVER_ERROR"

/-- The message of the answer. Of definitions that cannot be used, only the cause is told. -/
def message : Refusal → String
  | .badRequest m => m
  | .notFound m => m
  | .gone m => m
  | .payloadTooLarge m => m
  | .internal m => m
  | .badGateway m => m
  | .unavailable m => m
  | .retryable f => f.text
  | .service (.invalid cause) => cause
  | .service (.malformed cause) => cause
  | .service e => e.message

def extra : Refusal → List (String × Json)
  | .retryable f => [("retryableFailure", f.toJson)]
  | _ => []

def answer (r : Refusal) : Answer :=
  .json r.status (.object ([("error", .str r.message),
    ("errorDetails", .object [("errorCode", .str r.code), ("errorMessage", .str r.message)])]
      ++ r.extra))

end Refusal

end Stepwise
