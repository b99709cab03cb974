import Stepwise.Time.Instant

/-!
# Continuations

The record that lets an event from outside resume a suspended execution.
-/

namespace Stepwise

set_option autoImplicit false

structure ContinuationRecord where
  correlationKey : String
  resumeToken : String
  executionId : String
  stepId : String
  createdAt : Instant
  ttlSeconds : UInt64
deriving DecidableEq, Repr

namespace ContinuationRecord

/-- The end of the record's life, unless it is beyond all instants. -/
def expiresAt (r : ContinuationRecord) : Option Instant :=
  r.createdAt.addSeconds? r.ttlSeconds.toNat

def isExpired (r : ContinuationRecord) (now : Instant) : Bool :=
  match r.expiresAt with
  | some expiry => expiry.le now
  | none => false

end ContinuationRecord

end Stepwise
