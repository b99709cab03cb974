/-!
# Settings

The limits of the engine.
-/

namespace Stepwise

set_option autoImplicit false

structure Settings where
  /-- Values with a longer text are moved to the object store. -/
  offloadThresholdBytes : UInt64 := 32768
  /-- Payloads with a longer text cannot resume an execution. -/
  maxPayloadBytes : UInt64 := 262144
  objectStoreContainer : String := "rivulet-large-values"
  maxTemplateDepth : UInt64 := 10
  defaultContinuationTtlSeconds : UInt64 := 604800
  maxRetryAttempts : UInt32 := 3
  maxCorrelationKeyLength : UInt64 := 512
deriving DecidableEq, Repr

end Stepwise
