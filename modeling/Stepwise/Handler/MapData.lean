import Stepwise.Handler.Input
import Stepwise.Query.Eval

/-!
# Reshaping data

A handler that reshapes data by queries. The mapping is one query, or an object in which texts that
begin with a dollar sign are queries and everything else stands for itself.
-/

namespace Stepwise.MapData

set_option autoImplicit false

def moduleId : String := "StdLib:MapData"

/-- The query that an expression stands for: without a leading dollar sign, then without a dot. -/
def queryText (expr : String) : String :=
  let cs := match expr.toList with
    | '$' :: rest => rest
    | cs => cs
  match cs with
  | '.' :: rest => if rest.isEmpty then "@" else String.ofList rest
  | cs => if cs.isEmpty then "@" else String.ofList cs

def evaluate (expr : String) (data : Json) : Except StepError Json :=
  match Query.Expr.ofText? (queryText expr) with
  | none => .error (.permanent
      ("Invalid JMESPath expression '" ++ expr ++ "': Parse error: unexpected text") none)
  | some query =>
    match Query.search query data with
    | .error e => .error (.permanent ("Failed to evaluate '" ++ expr ++ "': " ++ e.message) none)
    | .ok v => .ok v

def isExpression (s : String) : Bool := s.toList.head? = some '$'

mutual

def apply (data : Json) : Json → Except StepError Json
  | .str s => if isExpression s then evaluate s data else .ok (.str s)
  | .obj fields => do pure (.obj (← applyFields data fields))
  | v => .ok v

def applyFields (data : Json) : List (String × Json) → Except StepError (List (String × Json))
  | [] => .ok []
  | (k, v) :: rest => do
    let w ← apply data v
    let more ← applyFields data rest
    pure ((k, w) :: more)

end

def checkLanguage (input : Dict Json) : Except StepError Unit :=
  if input.contains "language" then do
    let language ← input.requiredText "language" moduleId
    if language.toLower = "jmespath" then pure ()
    else throw (.permanent ("Unsupported mapping language: " ++ language) none)
  else .ok ()

/-- Without data of its own, the mapping is applied to the whole input. -/
def run (input : Dict Json) : Except StepError Json := do
  checkLanguage input
  let data := (input.get? "data").getD (.obj input)
  match input.get? "mapping" with
  | none => throw (.permanent (moduleId ++ " requires a 'mapping' input") none)
  | some (.str expr) => evaluate expr data
  | some (.obj fields) => apply data (.obj fields)
  | some _ => throw (.permanent "'mapping' must be an object or an expression" none)

end Stepwise.MapData
