import Stepwise.Expression.Path
import Stepwise.Expression.Pointer
import Stepwise.Expression.QueryText
import Stepwise.Expression.Resolved
import Stepwise.Json.Parser
import Stepwise.Program.Basic
import Stepwise.Query.Eval

/-!
# Resolving expressions

Resolving expressions against a document. Paths are followed directly, and pointers met on the way
are replaced by the values they point to; other expressions go to the query language, which sees
pointers as they are.
-/

namespace Stepwise

set_option autoImplicit false

/-- The value that a document stands for: itself, unless it is a pointer. -/
def hydrate (v : Json) : EngineProgram Json :=
  match Pointer.ofJson? v with
  | none => pure v
  | some p => do
    let text ← EngineProgram.getObject p.container p.key
    match Json.parse text with
    | some w => pure w
    | none => throw (.objectStore
        ("offloaded value " ++ p.container ++ "/" ++ p.key ++
          " is not valid JSON: unexpected text"))

def hydrateIf (hydrating : Bool) (v : Json) : EngineProgram Json :=
  if hydrating then hydrate v else pure v

namespace Path

def walk (hydrating : Bool) : Path → Json → EngineProgram Resolved
  | [], v => do pure (.value (← hydrateIf hydrating v))
  | s :: rest, v => do
    match s.of? (← hydrateIf hydrating v) with
    | some w => walk hydrating rest w
    | none => pure .undefined

end Path

/-- The value of an expression in the query language; null counts as nothing. -/
def search (expr : String) (document : Json) : Except EngineError Resolved :=
  if QueryText.isRecursive expr.toList then
    .error (.resolution ("recursive descent is not supported: " ++ expr))
  else
    match Query.Expr.ofText? (QueryText.ofExpression expr) with
    | none =>
      .error (.resolution ("Failed to compile query " ++ expr ++ ": Parse error: unexpected text"))
    | some query =>
      match Query.search query document with
      | .error e => .error (.resolution ("Failed to evaluate query " ++ expr ++ ": " ++ e.message))
      | .ok .null => .ok .undefined
      | .ok v => .ok (.value v)

/-- Resolves an expression. A text that is no query stands for itself. -/
def resolve (expr : String) (document : Json) (hydrating : Bool) : EngineProgram Resolved :=
  if Path.isQuery expr then
    match Path.ofText? expr with
    | some path => path.walk hydrating document
    | none => do
      match ← EngineProgram.ofExcept (search expr document) with
      | .undefined => pure .undefined
      | .value v => do pure (.value (← hydrateIf hydrating v))
  else pure (.value (.str expr))

end Stepwise
