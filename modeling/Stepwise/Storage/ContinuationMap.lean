import Stepwise.Execution.Continuation
import Stepwise.Execution.Error

/-!
# Continuations in memory

Each continuation has an instant from which on it is expired; saving one sweeps out all that are
expired by then.
-/

namespace Stepwise

set_option autoImplicit false

structure SavedContinuation where
  record : ContinuationRecord
  /-- Nanoseconds since 1970-01-01T00:00:00Z. -/
  expiresAt : Int
deriving DecidableEq, Repr

structure ContinuationMap where
  entries : Dict SavedContinuation := []
deriving DecidableEq

namespace ContinuationMap

def lastSecond : Int := 0x7fffffffffffffff

/-- The instant from which on a continuation is expired, if the clock reaches it. -/
def expiry? (now : Instant) (ttlSeconds : UInt64) : Option Int :=
  if lastSecond < now.second + ttlSeconds.toNat then none
  else some (now.toNanos + ttlSeconds.toNat * Instant.nanosPerSecond)

def isLive (now : Instant) (e : SavedContinuation) : Bool := now.toNanos < e.expiresAt

def sweep (m : ContinuationMap) (now : Instant) : Dict SavedContinuation :=
  m.entries.filter fun e => isLive now e.2

def save (m : ContinuationMap) (now : Instant) (key : String) (record : ContinuationRecord)
    (ttlSeconds : UInt64) : Except EngineError ContinuationMap :=
  match expiry? now ttlSeconds with
  | none => .error (.continuationStore "ttl out of range")
  | some expiry => .ok ⟨(m.sweep now).insert key ⟨record, expiry⟩⟩

/-- Removes what is saved under a key, and answers it unless it is expired. -/
def take (m : ContinuationMap) (now : Instant) (key : String) :
    Option ContinuationRecord × ContinuationMap :=
  match m.entries.get? key with
  | none => (none, m)
  | some e => (if isLive now e then some e.record else none, ⟨m.entries.erase key⟩)

def liveCount (m : ContinuationMap) (now : Instant) : Nat := (m.sweep now).length

end ContinuationMap

end Stepwise
