import Stepwise.Flow.Step

/-!
# Valid flows

What a flow must satisfy before it is published. All problems are reported together, in the order of
the checks.
-/

namespace Stepwise

set_option autoImplicit false

/-- A way in which a flow can be wrong. -/
inductive FlowProblem where
  | versionNotPositive
  | noSteps
  | keyMismatch (key stepId : String)
  | unknownStart (stepId : String)
  | unknownReference (stepId target : String)
  | duplicateBranch (stepId branchId : String)
deriving DecidableEq, Repr

namespace FlowProblem

def message : FlowProblem → String
  | .versionNotPositive => "version must be positive"
  | .noSteps => "flow must have at least one step"
  | .keyMismatch key stepId =>
    "step key '" ++ key ++ "' does not match stepInstanceId '" ++ stepId ++ "'"
  | .unknownStart stepId => "startStepInstanceId references unknown step: " ++ stepId
  | .unknownReference stepId target => "step " ++ stepId ++ " references unknown step: " ++ target
  | .duplicateBranch stepId branchId =>
    "step " ++ stepId ++ " has duplicate branch id: " ++ branchId

end FlowProblem

/-- The elements that already stand earlier in the list. -/
def repeated : List String → List String → List String
  | _, [] => []
  | seen, a :: rest =>
    if seen.contains a then a :: repeated seen rest else repeated (a :: seen) rest

namespace Step

def branchIds (s : Step) : List String :=
  match s.kind with
  | .fork config => config.branches.map Branch.id
  | _ => []

def problems (s : Step) (steps : Dict Step) : List FlowProblem :=
  (s.references.filter fun t => !steps.contains t).map (.unknownReference s.id)
    ++ (repeated [] s.branchIds).map (.duplicateBranch s.id)

end Step

namespace Flow

def problems (f : Flow) : List FlowProblem :=
  (if f.version = 0 then [.versionNotPositive] else [])
    ++ (if f.steps.isEmpty then [.noSteps] else [])
    ++ (f.steps.filter fun e => e.1 ≠ e.2.id).map (fun e => .keyMismatch e.1 e.2.id)
    ++ (if f.steps.contains f.start then [] else [.unknownStart f.start])
    ++ f.steps.flatMap fun e => e.2.problems f.steps

def report (f : Flow) (problems : List FlowProblem) : String :=
  "flow " ++ f.title ++ ": " ++ "; ".intercalate (problems.map FlowProblem.message)

end Flow

end Stepwise
