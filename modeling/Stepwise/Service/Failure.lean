import Stepwise.Storage.Location

/-!
# Failures of a service

Why a service cannot be built or cannot answer.
-/

namespace Stepwise

set_option autoImplicit false

inductive ServiceError where
  | notFound (resource : String)
  | invalid (cause : String)
  /-- A file of definitions cannot be read as what it should hold. -/
  | malformed (cause : String)
  | store (cause : String)
  | engine (cause : EngineError)
  | configuration (cause : String)
  | internal (cause : String)
deriving DecidableEq, Repr

namespace ServiceError

def name : ServiceError → String
  | .notFound _ => "NotFound"
  | .invalid _ => "ValidationError"
  | .malformed _ => "DefinitionParsingError"
  | .store _ => "ContentStoreError"
  | .engine _ => "InterpreterError"
  | .configuration _ => "ConfigError"
  | .internal _ => "InternalError"

def message : ServiceError → String
  | .notFound resource => resource ++ " not found"
  | .invalid cause => "Validation error: " ++ cause
  | .malformed cause => "Definition parsing error: " ++ cause
  | .store cause => "Content store error: " ++ cause
  | .engine cause => "Interpreter error: " ++ cause.message
  | .configuration cause => "Configuration error: " ++ cause
  | .internal cause => "Internal server error: " ++ cause

/-- A store that is set up wrongly is a wrong configuration of the service. -/
def ofStore : StoreError → ServiceError
  | .configuration cause => .configuration cause
  | e => .store e.message

end ServiceError

end Stepwise
