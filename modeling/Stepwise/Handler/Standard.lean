import Stepwise.Execution.Handler
import Stepwise.Handler.FreshId
import Stepwise.Handler.HttpCall
import Stepwise.Handler.MapData
import Stepwise.Handler.SchemaCheck

/-!
# Standard handlers

The standard handlers, which every process can have.
-/

namespace Stepwise

set_option autoImplicit false

inductive StandardHandler where
  | noOp
  | mapData
  | freshId
  | schemaCheck
  | httpCall
deriving DecidableEq, Repr

namespace StandardHandler

def all : List StandardHandler := [.noOp, .mapData, .freshId, .schemaCheck, .httpCall]

def moduleId : StandardHandler → String
  | .noOp => "StdLib:NoOp"
  | .mapData => MapData.moduleId
  | .freshId => FreshId.moduleId
  | .schemaCheck => SchemaCheck.moduleId
  | .httpCall => HttpCall.moduleId

/-- The answer of a handler, given an id that it may use. -/
def run (h : StandardHandler) (id : String) (request : HandlerRequest) : Except StepError Json :=
  match h with
  | .noOp => .ok (.obj request.input)
  | .mapData => MapData.run request.input
  | .freshId => FreshId.run id request.input
  | .schemaCheck => SchemaCheck.run request.input
  | .httpCall => HttpCall.run request.input

end StandardHandler

end Stepwise
