import Stepwise.Execution.Branch

/-!
# Answers of the engine

What a call of the engine answers: a state and what is to be done next, or a failure that is worth a
retry.
-/

namespace Stepwise

set_option autoImplicit false

inductive NextAction where
  | proceed
  | suspend
  | poll (config : Polling)
  | fork (branches : List BranchPayload) (aggregation : Aggregation)
    (maxConcurrency : Option UInt32)
  | finalize
deriving DecidableEq

structure StepResult where
  state : ExecutionState
  action : NextAction
deriving DecidableEq

/-- The state to call again with, and why. -/
structure RetryableFailure where
  state : ExecutionState
  error : ErrorInfo
deriving DecidableEq

namespace RetryableFailure

def text (f : RetryableFailure) : String := f.error.name ++ ": " ++ f.error.message

end RetryableFailure

end Stepwise
