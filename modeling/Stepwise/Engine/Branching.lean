import Stepwise.Engine.Input
import Stepwise.Execution.Codec
import Stepwise.Expression.Condition

/-!
# Forks

The branches that are started, and the output made of what came back from them.
-/

namespace Stepwise

set_option autoImplicit false

namespace Branch

def holds (b : Branch) (scope : Json) : EngineProgram Bool :=
  match b.condition with
  | none => pure true
  | some condition => Condition.check condition scope

def payload (b : Branch) (s : Settings) (state : ExecutionState) (index : Nat) :
    EngineProgram BranchPayload := do
  let input ← Input.bag s b.inputMappings b.literals state.scope
  pure {
    branchId := b.id
    index := UInt64.ofNat index
    executionId := Stepwise.branchExecutionId state.executionId b.id
    target := b.target
    input := input }

end Branch

namespace Fork

/-- The payloads of those branches whose condition holds; the index counts all branches. -/
def payloadsFrom (s : Settings) (state : ExecutionState) :
    Nat → List Branch → EngineProgram (List BranchPayload)
  | _, [] => pure []
  | index, b :: rest => do
    if ← b.holds state.scope then
      let p ← b.payload s state index
      let more ← payloadsFrom s state (index + 1) rest
      pure (p :: more)
    else payloadsFrom s state (index + 1) rest

def payloads (f : Fork) (s : Settings) (state : ExecutionState) :
    EngineProgram (List BranchPayload) :=
  payloadsFrom s state 0 f.branches

end Fork

namespace Aggregation

/-- Puts results in the order of their branches; results of one index keep their order. -/
def inOrder (results : List BranchResult) : List BranchResult :=
  results.mergeSort fun a b => a.index ≤ b.index

/-- Whether so many failures out of so many branches are tolerated. A percentage alone decides where
there is one. -/
def tolerates (a : Aggregation) (failed total : Nat) : Bool :=
  match a.toleratedFailurePercentage with
  | some limit => Float.ofNat failed / Float.ofNat total * 100.0 <= limit
  | none => !a.failOnBranchError

def failure? (a : Aggregation) (results : List BranchResult) : Option StepError :=
  let failed := results.filter fun r => !r.succeeded
  if failed.isEmpty ∨ a.tolerates failed.length results.length then none
  else some (.unclassified "BranchFailureError"
    (toString failed.length ++ " of " ++ toString results.length ++ " branches failed: "
      ++ ", ".intercalate (failed.map BranchResult.branchId)))

def outputs (results : List BranchResult) : List Json :=
  (results.filter BranchResult.succeeded).map fun r => r.output.getD .null

def project (path : String) : List Json → EngineProgram (List Json)
  | [] => pure []
  | v :: rest => do
    let r ← resolve path v true
    let more ← project path rest
    pure (r.orNull :: more)

/-- The output that is made of results once their failures are tolerated. -/
def collect (a : Aggregation) (results : List BranchResult) (step : Step) (state : ExecutionState) :
    StepProgram Json :=
  match a.strategy with
  | .collectArray => pure (.arr (outputs results))
  | .collectDataPath =>
    match a.dataPath with
    | none => throw (.permanent "COLLECT_DATA_PATH aggregation requires dataPath" none)
    | some path => do pure (.arr (← (project path (outputs results)).asStep))
  | .customModule =>
    match a.moduleId with
    | none => throw (.permanent "CUSTOM_MODULE aggregation requires moduleIdentifier" none)
    | some moduleId => do
      let input : Dict Json := Dict.ofList
        [("branchResults", .arr (results.map BranchResult.toJson)), ("aggregationConfig", a.toJson)]
      match ← (liftM (Program.request (.callHandler moduleId ⟨step, input, state⟩)) :
          StepProgram (Option (Except StepError Json))) with
      | some answer => .mk (pure answer)
      | none => throw (.permanent ("No aggregation module registered: " ++ moduleId) none)

def merge (a : Aggregation) (results : List BranchResult) (step : Step) (state : ExecutionState) :
    StepProgram Json :=
  match a.failure? (inOrder results) with
  | some e => throw e
  | none => a.collect (inOrder results) step state

end Aggregation

end Stepwise
