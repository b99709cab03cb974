import Stepwise.Execution.Error

/-!
# The state of an execution

All that is known about an execution between two calls of the engine.
-/

namespace Stepwise

set_option autoImplicit false

inductive Status where
  | initializing
  | running
  | completed
  | failed
  | timedOut
  | cancelled
deriving DecidableEq, Repr

namespace Status

def isTerminal : Status → Bool
  | .completed | .failed | .timedOut | .cancelled => true
  | .initializing | .running => false

def wireName : Status → String
  | .initializing => "INITIALIZING"
  | .running => "RUNNING"
  | .completed => "COMPLETED"
  | .failed => "FAILED"
  | .timedOut => "TIMED_OUT"
  | .cancelled => "CANCELLED"

def label : Status → String
  | .initializing => "Initializing"
  | .running => "Running"
  | .completed => "Completed"
  | .failed => "Failed"
  | .timedOut => "TimedOut"
  | .cancelled => "Cancelled"

end Status

structure ExecutionState where
  executionId : String
  flowId : String
  version : UInt32
  current : Option String := none
  status : Status := .initializing
  context : Dict Json := []
  attempts : Dict UInt32 := []
  errorInfo : Option ErrorInfo := none
  branchId : Option String := none
  branchExecutionId : Option String := none
  parentExecutionId : Option String := none
deriving DecidableEq

namespace ExecutionState

def isTerminal (s : ExecutionState) : Bool := s.status.isTerminal

def attemptsOf (s : ExecutionState) (name : String) : UInt32 := (s.attempts.get? name).getD 0

/-- Counts one more attempt. A counter that is full begins again at zero. -/
def countAttempt (s : ExecutionState) (name : String) : ExecutionState :=
  { s with attempts := s.attempts.insert name (s.attemptsOf name + 1) }

@[simp] theorem attemptsOf_countAttempt (s : ExecutionState) (name : String) :
    (s.countAttempt name).attemptsOf name = s.attemptsOf name + 1 := by
  simp [attemptsOf, countAttempt]

theorem attemptsOf_countAttempt_of_ne (s : ExecutionState) {name other : String}
    (h : other ≠ name) :
    (s.countAttempt name).attemptsOf other = s.attemptsOf other := by
  simp [attemptsOf, countAttempt, Dict.get?_insert_of_ne, h]

theorem toNat_attemptsOf_countAttempt {s : ExecutionState} {name : String}
    (h : s.attemptsOf name ≠ 0xffffffff) :
    ((s.countAttempt name).attemptsOf name).toNat = (s.attemptsOf name).toNat + 1 := by
  have hBound := (s.attemptsOf name).toNat_lt
  have hFull : (s.attemptsOf name).toNat ≠ 0xffffffff := fun hn => h (UInt32.toNat_inj.mp hn)
  rw [attemptsOf_countAttempt, UInt32.toNat_add]
  apply Nat.mod_eq_of_lt
  show (s.attemptsOf name).toNat + 1 < 2 ^ 32
  omega

def resetAttempts (s : ExecutionState) (name : String) : ExecutionState :=
  { s with attempts := s.attempts.erase name }

end ExecutionState

structure StartMessage where
  flowId : String
  version : UInt32
  context : Dict Json := []
  executionId : Option String := none
  triggerSource : Option String := none
  parentExecutionId : Option String := none
deriving DecidableEq

end Stepwise
