import Stepwise.Execution.Error

/-!
# Parameters of handlers

Parameters of handlers, read from the input of a step.
-/

namespace Stepwise

set_option autoImplicit false

namespace Dict

def requiredText (input : Dict Json) (name moduleId : String) : Except StepError String :=
  match (input.get? name).bind Json.text? with
  | some s => .ok s
  | none => .error (.permanent (moduleId ++ " requires a string '" ++ name ++ "' input") none)

/-- A parameter that counts as missing if it is no text. -/
def textOr (input : Dict Json) (name default : String) : String :=
  ((input.get? name).bind Json.text?).getD default

def flagOr (input : Dict Json) (name : String) (default : Bool) : Bool :=
  ((input.get? name).bind Json.flag?).getD default

end Dict

end Stepwise
