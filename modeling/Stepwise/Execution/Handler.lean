import Stepwise.Execution.State
import Stepwise.Flow.Step

/-!
# Handlers

Handlers do the work of a step. They are asked with the step, its input and the state of the
execution; remote ones are registered with their address.
-/

namespace Stepwise

set_option autoImplicit false

structure HandlerRegistration where
  moduleId : String
  endpoint : String
  timeoutSeconds : Option UInt64
deriving DecidableEq, Repr

structure HandlerRequest where
  step : Step
  input : Dict Json
  state : ExecutionState
deriving DecidableEq

end Stepwise
