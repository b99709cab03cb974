import Stepwise.Json.Basic

/-!
# Queries

Expressions of the query language.
-/

namespace Stepwise.Query

set_option autoImplicit false

inductive Comparison where
  | eq
  | ne
  | lt
  | le
  | gt
  | ge
deriving DecidableEq, Repr

inductive Expr where
  /-- The value the expression is applied to. -/
  | identity
  | field (name : String)
  /-- An element of an array, counted from the end when the position is negative. -/
  | index (position : Int)
  | slice (start stop : Option Int) (step : Int)
  | literal (value : Json)
  /-- The second expression applied to the value of the first. -/
  | chain (first second : Expr)
  | or (left right : Expr)
  | and (left right : Expr)
  | not (operand : Expr)
  | compare (op : Comparison) (left right : Expr)
  /-- The second expression where the first one holds, and null elsewhere. -/
  | guarded (test body : Expr)
  /-- The second expression applied to every element of the first; nulls are left out. -/
  | project (source body : Expr)
  | flatten (operand : Expr)
  | values (operand : Expr)
  | list (elements : List Expr)
  | hash (entries : List (String × Expr))
  | call (name : String) (arguments : List Expr)
  /-- The expression itself, for a function to apply. -/
  | reference (operand : Expr)

end Stepwise.Query
