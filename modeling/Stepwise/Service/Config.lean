import Stepwise.Execution.Codec
import Stepwise.Service.Failure

/-!
# Configuration

The configuration of a service: its defaults, how variables change them, and its JSON form.
-/

namespace Stepwise

set_option autoImplicit false

inductive LogFormat where
  | text
  | json
deriving DecidableEq, Repr

namespace LogFormat

def name : LogFormat → String
  | .text => "text"
  | .json => "json"

def all : List LogFormat := [.text, .json]

/-- Any text but the name of the JSON format, in letters of either case, means plain text. -/
def ofVariable (value : String) : LogFormat :=
  if value.toList.map Char.toLower = "json".toList then .json else .text

end LogFormat

structure ServiceConfig where
  port : UInt16 := 8080
  bindAddress : String := "0.0.0.0"
  logLevel : String := "info"
  logFormat : LogFormat := .text
  flowsDir : Option String := none
  handlersFile : Option String := none
  objectStoreUrl : Option String := none
  objectStoreToken : Option String := none
  objectStoreDir : Option String := none
  resumeUrl : Option String := none
  startUrl : Option String := none
  handlerTimeoutSeconds : UInt64 := 30
  engine : Settings := {}
deriving DecidableEq, Repr

namespace ServiceConfig

/-- The number that a text writes in decimal digits, perhaps behind a plus sign. -/
def number? (value : String) : Option Nat :=
  let cs := Text.trim value.toList
  let digits := match cs with
    | '+' :: rest => rest
    | _ => cs
  if digits.isEmpty ∨ !digits.all Char.isDigit then none else some (Number.readDigits digits).1

def numberBelow (bound : Nat) (vars : Dict String) (name : String) (default : Nat) :
    Except ServiceError Nat :=
  match vars.get? name with
  | none => .ok default
  | some value =>
    match number? value with
    | some n =>
      if n < bound then .ok n
      else .error (.configuration ("Invalid " ++ name ++ " value: " ++ value))
    | none => .error (.configuration ("Invalid " ++ name ++ " value: " ++ value))

def word16 (vars : Dict String) (name : String) (default : UInt16) : Except ServiceError UInt16 :=
  do
  pure (.ofNat (← numberBelow UInt16.size vars name default.toNat))

def word32 (vars : Dict String) (name : String) (default : UInt32) : Except ServiceError UInt32 :=
  do
  pure (.ofNat (← numberBelow UInt32.size vars name default.toNat))

def word64 (vars : Dict String) (name : String) (default : UInt64) : Except ServiceError UInt64 :=
  do
  pure (.ofNat (← numberBelow UInt64.size vars name default.toNat))

def settings (vars : Dict String) : Except ServiceError Settings := do
  let d : Settings := {}
  let offloadThresholdBytes ← word64 vars "RIVULET_OFFLOAD_THRESHOLD_BYTES" d.offloadThresholdBytes
  let maxPayloadBytes ← word64 vars "RIVULET_MAX_PAYLOAD_BYTES" d.maxPayloadBytes
  let maxTemplateDepth ← word64 vars "RIVULET_MAX_TEMPLATE_DEPTH" d.maxTemplateDepth
  let defaultContinuationTtlSeconds ←
    word64 vars "RIVULET_DEFAULT_CONTINUATION_TTL_SECONDS" d.defaultContinuationTtlSeconds
  let maxRetryAttempts ← word32 vars "RIVULET_MAX_RETRY_ATTEMPTS" d.maxRetryAttempts
  let maxCorrelationKeyLength ←
    word64 vars "RIVULET_MAX_CORRELATION_KEY_LENGTH" d.maxCorrelationKeyLength
  pure {
    offloadThresholdBytes, maxPayloadBytes, maxTemplateDepth, defaultContinuationTtlSeconds
    maxRetryAttempts, maxCorrelationKeyLength
    objectStoreContainer :=
      (vars.get? "RIVULET_OBJECT_STORE_CONTAINER").getD d.objectStoreContainer }

def check (c : ServiceConfig) : Except ServiceError Unit :=
  if c.objectStoreUrl.isSome ∧ c.objectStoreDir.isSome then
    .error (.configuration "OBJECT_STORE_URL and OBJECT_STORE_DIR are mutually exclusive")
  else if (Text.trim c.engine.objectStoreContainer.toList).isEmpty then
    .error (.configuration "Object store container name is required")
  else if c.engine.maxTemplateDepth = 0 then
    .error (.configuration "Template depth must be at least 1")
  else .ok ()

/-- The configuration that variables describe. The first variable with a bad value is reported. -/
def ofVariables (vars : Dict String) : Except ServiceError ServiceConfig := do
  let d : ServiceConfig := {}
  let port ← word16 vars "SERVER_PORT" d.port
  let handlerTimeoutSeconds ← word64 vars "HANDLER_TIMEOUT_SECONDS" d.handlerTimeoutSeconds
  let engine ← settings vars
  let c : ServiceConfig := {
    port, handlerTimeoutSeconds, engine
    bindAddress := (vars.get? "SERVER_HOST").getD d.bindAddress
    logLevel := (vars.get? "LOG_LEVEL").getD d.logLevel
    logFormat := ((vars.get? "LOG_FORMAT").map LogFormat.ofVariable).getD d.logFormat
    flowsDir := vars.get? "FLOWS_DIR"
    handlersFile := vars.get? "HANDLERS_FILE"
    objectStoreUrl := vars.get? "OBJECT_STORE_URL"
    objectStoreToken := vars.get? "OBJECT_STORE_TOKEN"
    objectStoreDir := vars.get? "OBJECT_STORE_DIR"
    resumeUrl := vars.get? "ORCHESTRATOR_RESUME_URL"
    startUrl := vars.get? "ORCHESTRATOR_START_URL" }
  c.check
  pure c

def orNull : Option String → Json
  | none => .null
  | some s => .str s

def toJson (c : ServiceConfig) : Json :=
  .object [("port", .ofNat c.port.toNat), ("bindAddress", .str c.bindAddress),
    ("logLevel", .str c.logLevel), ("logFormat", .str c.logFormat.name),
    ("flowsDir", orNull c.flowsDir), ("handlersFile", orNull c.handlersFile),
    ("objectStoreUrl", orNull c.objectStoreUrl), ("objectStoreToken", orNull c.objectStoreToken),
    ("objectStoreDir", orNull c.objectStoreDir), ("orchestratorResumeUrl", orNull c.resumeUrl),
    ("orchestratorStartUrl", orNull c.startUrl),
    ("handlerTimeoutSeconds", .ofNat c.handlerTimeoutSeconds.toNat),
    ("interpreter", c.engine.toJson)]

def ofJson? (j : Json) : Option ServiceConfig := do
  let d : ServiceConfig := {}
  let r ← j.record? [("port", .anywhere), ("bindAddress", .anywhere), ("logLevel", .anywhere),
    ("logFormat", .anywhere), ("flowsDir", .anywhere), ("handlersFile", .anywhere),
    ("objectStoreUrl", .anywhere), ("objectStoreToken", .anywhere), ("objectStoreDir", .anywhere),
    ("orchestratorResumeUrl", .anywhere), ("orchestratorStartUrl", .anywhere),
    ("handlerTimeoutSeconds", .anywhere), ("interpreter", .anywhere)]
  some {
    port := ← r.defaulted "port" d.port Json.word16?
    bindAddress := ← r.defaulted "bindAddress" d.bindAddress Json.text?
    logLevel := ← r.defaulted "logLevel" d.logLevel Json.text?
    logFormat := ← r.defaulted "logFormat" d.logFormat
      (Json.choice? .strict (LogFormat.all.map fun f => (f.name, f)))
    flowsDir := ← r.optional "flowsDir" Json.text?
    handlersFile := ← r.optional "handlersFile" Json.text?
    objectStoreUrl := ← r.optional "objectStoreUrl" Json.text?
    objectStoreToken := ← r.optional "objectStoreToken" Json.text?
    objectStoreDir := ← r.optional "objectStoreDir" Json.text?
    resumeUrl := ← r.optional "orchestratorResumeUrl" Json.text?
    startUrl := ← r.optional "orchestratorStartUrl" Json.text?
    handlerTimeoutSeconds :=
      ← r.defaulted "handlerTimeoutSeconds" d.handlerTimeoutSeconds Json.word64?
    engine := ← r.defaulted "interpreter" d.engine Settings.ofJson? }

end ServiceConfig

end Stepwise
