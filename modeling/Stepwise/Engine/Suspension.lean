import Stepwise.Execution.Codec
import Stepwise.Expression.Template

/-!
# Suspending and resuming

Waiting for an event from outside. Suspending saves a continuation under the correlation key;
resuming takes it away, so that one event resumes at most once, and puts it back if the signal could
not be delivered.
-/

namespace Stepwise

set_option autoImplicit false

/-- Why an event was refused. -/
inductive ResumeError where
  | payloadTooLarge (size limit : UInt64)
  | notFound (key : String)
  | tokenGone (cause : SignalError)
  | signalFailed (cause : SignalError)
  | store (cause : EngineError)
deriving DecidableEq, Repr

namespace ResumeError

def name : ResumeError → String
  | .payloadTooLarge _ _ => "PayloadTooLarge"
  | .notFound _ => "NotFound"
  | .tokenGone _ => "TokenGone"
  | .signalFailed _ => "SignalFailed"
  | .store _ => "Store"

def message : ResumeError → String
  | .payloadTooLarge size limit =>
    "Payload of " ++ toString size.toNat ++ " bytes exceeds the limit of " ++ toString limit.toNat
      ++ " bytes"
  | .notFound key => "No execution is waiting for: " ++ key
  | .tokenGone cause => cause.message
  | .signalFailed cause => cause.message
  | .store cause => cause.message

def status : ResumeError → Nat
  | .payloadTooLarge _ _ => 413
  | .notFound _ => 404
  | .tokenGone _ => 410
  | .signalFailed _ => 502
  | .store _ => 503

end ResumeError

namespace Wait

def invalidKey (w : Wait) (problem : String) : StepError :=
  .permanent ("Correlation key " ++ problem)
    (some (.object [("correlationKeyTemplate", .str w.correlationKeyTemplate)]))

/-- A pair of one brace stands in the text. -/
def hasPair (brace : Char) : List Char → Bool
  | a :: b :: rest => (a = brace && b = brace) || hasPair brace (b :: rest)
  | _ => false

def keyText (w : Wait) : Resolved → Except StepError String
  | .value (.str s) => .ok s
  | .value (.num n) => .ok n.text
  | .value (.bool b) => .ok (if b then "true" else "false")
  | .undefined => .error (w.invalidKey "rendered to nothing")
  | .value .null => .error (w.invalidKey "rendered to nothing")
  | .value (.arr _) => .error (w.invalidKey "rendered to an object or array")
  | .value (.obj _) => .error (w.invalidKey "rendered to an object or array")

def checkKey (w : Wait) (s : Settings) (key : String) : Except StepError String :=
  let cs := key.toList
  if (Text.trim cs).isEmpty then .error (w.invalidKey "rendered to an empty string")
  else if hasPair '\x7b' cs || hasPair '\x7d' cs then
    .error (w.invalidKey "contains unresolved placeholders")
  else if cs.any Text.isControl then .error (w.invalidKey "contains control characters")
  else if s.maxCorrelationKeyLength.toNat < key.utf8ByteSize then
    .error (w.invalidKey
      ("is longer than " ++ toString s.maxCorrelationKeyLength.toNat ++ " bytes"))
  else .ok key

/-- The key under which the continuation of a waiting step is saved. -/
def correlationKey (w : Wait) (s : Settings) (scope : Json) : StepProgram String := do
  let rendered ←
    (Template.renderText s.maxTemplateDepth.toNat w.correlationKeyTemplate scope).asStep
  .mk (pure ((w.keyText rendered).bind (w.checkKey s)))

def suspend (w : Wait) (s : Settings) (state : ExecutionState) (stepId resumeToken : String) :
    StepProgram ContinuationRecord := do
  if resumeToken = "" then throw (.permanent "resume token must not be empty" none)
  let key ← w.correlationKey s state.scope
  let createdAt ← (liftM (Program.request .now) : StepProgram Instant)
  let record : ContinuationRecord := {
    correlationKey := key
    resumeToken := resumeToken
    executionId := state.executionId
    stepId := stepId
    createdAt := createdAt
    ttlSeconds := w.maxWaitTimeSeconds.getD s.defaultContinuationTtlSeconds }
  (EngineProgram.saveContinuation key record record.ttlSeconds).asStep
  pure record

end Wait

namespace Resume

/-- The seconds for which a record that was taken is put back: those that it has left, but at least
one. -/
def remainingSeconds (r : ContinuationRecord) (now : Instant) : UInt64 :=
  match r.expiresAt with
  | some expiry => UInt64.ofNat (max 1 (expiry.secondsSince now)).toNat
  | none => r.ttlSeconds

def restore (key : String) (r : ContinuationRecord) : Program Unit := do
  let now ← (Program.request .now : Program Instant)
  let _ ← (EngineProgram.saveContinuation key r (remainingSeconds r now)).run
  pure ()

/-- Delivers an event to the execution that waits under a key. -/
def deliver (s : Settings) (key : String) (payload : Json) :
    Program (Except ResumeError ContinuationRecord) := do
  let size := payload.size
  if s.maxPayloadBytes.toNat < size then
    pure (.error (.payloadTooLarge (UInt64.ofNat size) s.maxPayloadBytes))
  else
    match ← (EngineProgram.takeContinuation key).run with
    | .error e => pure (.error (.store e))
    | .ok none => pure (.error (.notFound key))
    | .ok (some r) =>
      match ← (Program.request (.sendSignal r.resumeToken payload) :
          Program (Except SignalError Unit)) with
      | .ok () => pure (.ok r)
      | .error e =>
        if e.isTokenGone then pure (.error (.tokenGone e))
        else do
          restore key r
          pure (.error (.signalFailed e))

end Resume

end Stepwise
