import Stepwise.Execution.Result
import Stepwise.Expression.Condition

/-!
# Transitions and fallbacks

Where an execution goes after a step, and after a failure that no retry mends.
-/

namespace Stepwise

set_option autoImplicit false

namespace Step

def chooseAmong (scope : Json) (fallback : Option String) :
    List Transition → EngineProgram (Option String)
  | [] => pure fallback
  | t :: rest => do
    if ← Condition.check t.condition scope then pure (some t.next)
    else chooseAmong scope fallback rest

/-- The step after this one; there is none at the end of a path. -/
def next (step : Step) (scope : Json) : EngineProgram (Option String) :=
  chooseAmong scope step.defaultNext step.transitions

def action (step : Step) : NextAction :=
  match step.kind with
  | .wait _ => .suspend
  | .poll config => .poll config
  | _ => .proceed

end Step

namespace Flow

/-- What is to be done after moving to a step, or to the end. -/
def actionFor (f : Flow) (next : Option String) : Except EngineError NextAction :=
  match next with
  | none => .ok .finalize
  | some id =>
    match f.step? id with
    | some step => .ok step.action
    | none => .error (.stepNotFound id)

def fallbackFrom? (f : Flow) (failed : String) : Option (String × NextAction) := do
  let step ← f.step? failed
  let target ← step.fallback
  match f.actionFor (some target) with
  | .ok action => some (target, action)
  | .error _ => none

end Flow

namespace ExecutionState

def resetAttemptsOf (s : ExecutionState) (step : Option String) : ExecutionState :=
  match step with
  | some id => s.resetAttempts id
  | none => s

/-- Records a failure that no retry mends. The execution goes on at the fallback of the failed step
if it has one, and fails otherwise. -/
def failTerminally (s : ExecutionState) (flow : Option Flow) (failed : Option String)
    (error : ErrorInfo) : StepResult :=
  let s := { s.resetAttemptsOf failed with errorInfo := some error }
  match flow.bind fun f => failed.bind f.fallbackFrom? with
  | some (target, action) => ⟨{ s with status := .running, current := some target }, action⟩
  | none => ⟨{ s with status := .failed, current := none }, .finalize⟩

end ExecutionState

end Stepwise
