import Stepwise.Json.Text

/-!
# Values of queries

Documents, and expressions that a function may apply. Numbers are compared as doubles, for equality
with a relative tolerance of one unit of precision.
-/

namespace Stepwise.Query

set_option autoImplicit false

inductive QueryError where
  | unknownFunction (name : String)
  | wrongArguments (function : String)
  | wrongResult (function : String)
  | notANumber
  | zeroStep
deriving DecidableEq, Repr

namespace QueryError

def message : QueryError → String
  | .unknownFunction name => "Runtime error: unknown function " ++ name
  | .wrongArguments function => "Runtime error: wrong arguments for " ++ function
  | .wrongResult function => "Runtime error: wrong result of the expression given to " ++ function
  | .notANumber => "Runtime error: the result is not a number"
  | .zeroStep => "Runtime error: a slice with step 0"

end QueryError

inductive Value where
  | data (value : Json)
  | function (apply : Json → Except QueryError Value)

namespace Value

/-- The document of a value; an expression has only a placeholder. -/
def toJson : Value → Json
  | .data j => j
  | .function _ => .str "<expression>"

end Value

/-- What counts as true: everything but null, false, and empty texts, arrays and objects. -/
def holds : Json → Bool
  | .null => false
  | .bool b => b
  | .num _ => true
  | .str s => !s.isEmpty
  | .arr items => !items.isEmpty
  | .obj fields => !fields.isEmpty

def Value.holds : Value → Bool
  | .data j => Query.holds j
  | .function _ => false

def unitOfPrecision : Float := Float.ofBits 0x3CB0000000000000

def smallestNormal : Float := Float.ofBits 0x0010000000000000

def isNormal (x : Float) : Bool := smallestNormal ≤ x.abs && x.isFinite

/-- Equal, or so close that their distance is below a unit of precision of their sum. -/
def close (a b : Float) : Bool :=
  let distance := (a - b).abs
  if a == b then true
  else if !isNormal a || !isNormal b then distance < unitOfPrecision * smallestNormal
  else distance / (a.abs + b.abs) < unitOfPrecision

mutual

def equal : Json → Json → Bool
  | .null, .null => true
  | .bool a, .bool b => a == b
  | .num a, .num b => close a.toFloat b.toFloat
  | .str a, .str b => a == b
  | .arr a, .arr b => equalItems a b
  | .obj a, .obj b => equalFields a b
  | _, _ => false

def equalItems : List Json → List Json → Bool
  | [], [] => true
  | a :: as, b :: bs => equal a b && equalItems as bs
  | _, _ => false

def equalFields : List (String × Json) → List (String × Json) → Bool
  | [], [] => true
  | (k, a) :: as, (l, b) :: bs => k == l && equal a b && equalFields as bs
  | _, _ => false

end

/-- The order of texts, and of numbers as doubles; other documents are not ordered. -/
def less (a b : Json) : Bool :=
  match a, b with
  | .str a, .str b => a < b
  | .num a, .num b => a.toFloat < b.toFloat
  | _, _ => false

def isNumber : Json → Bool
  | .num _ => true
  | _ => false

def isText : Json → Bool
  | .str _ => true
  | _ => false

end Stepwise.Query
