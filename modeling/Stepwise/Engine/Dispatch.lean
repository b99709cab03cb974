import Stepwise.Program.Basic

/-!
# Calling handlers

Calling the handler of a step: a handler of this process if there is one, else a registered remote
handler.
-/

namespace Stepwise

set_option autoImplicit false

namespace Dispatch

/-- Reads the answer of a remote handler: its output, an error that it reports and that no retry
mends, or anything else, which counts as a failure on the way. -/
def interpret (moduleId : String) (response : Json) : Except StepError Json :=
  let malformed := fun (problem : String) =>
    StepError.transient ("Malformed response from handler " ++ moduleId ++ ": " ++ problem) none
  match response with
  | .obj body =>
    match Dict.get? body "outputData" with
    | some v => .ok v
    | none =>
      let reported := (Dict.get? body "errorName").or (Dict.get? body "errorType")
      match reported.bind Json.text? with
      | some name =>
        .error (.permanent
          (((Dict.get? body "errorMessage").bind Json.text?).getD "handler reported an error")
          (some (.object [("module", .str moduleId), ("handlerErrorName", .str name),
            ("handlerErrorDetails", (Dict.get? body "errorDetails").getD .null)])))
      | none => .error (malformed "missing outputData")
  | _ => .error (malformed "not an object")

def remote (moduleId : String) (request : HandlerRequest) : StepProgram Json := do
  match ← (EngineProgram.findRegistration moduleId).asStep with
  | none => throw (.permanent ("No handler registered for module: " ++ moduleId) none)
  | some registration =>
    match ← (liftM (Program.request (.invokeRemote registration request)) :
        StepProgram (Option (Except InvocationError Json))) with
    | none => throw (.permanent
        ("module " ++ moduleId ++ " is external but no handler invoker is configured") none)
    | some (.error e) =>
      throw (.transient e.message (some (.object [("module", .str moduleId)])))
    | some (.ok response) => .mk (pure (interpret moduleId response))

def call (step : Step) (input : Dict Json) (state : ExecutionState) : StepProgram Json := do
  match step.moduleId with
  | none => throw (.permanent
      ("step " ++ step.id ++ " of type " ++ step.kind.typeName ++ " has no moduleIdentifier") none)
  | some moduleId =>
    let request : HandlerRequest := ⟨step, input, state⟩
    match ← (liftM (Program.request (.callHandler moduleId request)) :
        StepProgram (Option (Except StepError Json))) with
    | some answer => .mk (pure answer)
    | none => remote moduleId request

end Dispatch

end Stepwise
