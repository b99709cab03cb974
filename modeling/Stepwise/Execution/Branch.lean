import Stepwise.Execution.State
import Stepwise.Flow.Step

/-!
# Branches of a fork

What each branch of a fork is started with, and what comes back from it.
-/

namespace Stepwise

set_option autoImplicit false

structure BranchPayload where
  branchId : String
  index : UInt64
  executionId : String
  target : BranchTarget
  input : Dict Json
deriving DecidableEq

structure BranchResult where
  branchId : String
  index : UInt64
  succeeded : Bool
  output : Option Json := none
  error : Option ErrorInfo := none
deriving DecidableEq

def branchExecutionId (parentId branchId : String) : String := parentId ++ ":" ++ branchId

namespace BranchPayload

/-- The state a branch begins in. A branch that begins at a step goes on in the flow of its parent
with the parent's context under its own input; a branch that begins a flow has its input only. -/
def initialState (p : BranchPayload) (parent : ExecutionState) : ExecutionState :=
  let child : ExecutionState := match p.target with
    | .step id =>
      { executionId := p.executionId, flowId := parent.flowId, version := parent.version,
        current := some id, status := .running, context := parent.context.update p.input }
    | .flow id version =>
      { executionId := p.executionId, flowId := id, version := version, context := p.input }
  { child with
    branchId := some p.branchId
    branchExecutionId := some p.executionId
    parentExecutionId := some parent.executionId }

end BranchPayload

namespace BranchResult

def ofFinalState (p : BranchPayload) (s : ExecutionState) : BranchResult :=
  if s.status = .completed then
    { branchId := p.branchId, index := p.index, succeeded := true, output := some (.obj s.context) }
  else
    { branchId := p.branchId, index := p.index, succeeded := false,
      error := some (s.errorInfo.getD
        (.terminal "BranchExecutionError" ("branch ended with status " ++ s.status.label))) }

end BranchResult

end Stepwise
