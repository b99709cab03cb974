import Stepwise.Json.Text

/-!
# Resolved values

What an expression resolves to: a document, or nothing at all. Nothing differs from null.
-/

namespace Stepwise

set_option autoImplicit false

inductive Resolved where
  | undefined
  | value (value : Json)
deriving DecidableEq

namespace Resolved

def ofOption : Option Json → Resolved
  | none => .undefined
  | some v => .value v

def toOption : Resolved → Option Json
  | .undefined => none
  | .value v => some v

def orNull : Resolved → Json
  | .undefined => .null
  | .value v => v

/-- Nothing, null, false, zero and the empty text and list count as false, and all else as true. -/
def isTruthy : Resolved → Bool
  | .undefined => false
  | .value .null => false
  | .value (.bool b) => b
  | .value (.num n) => !(n.toFloat == 0.0) && !n.toFloat.isNaN
  | .value (.str s) => !s.isEmpty
  | .value (.arr items) => !items.isEmpty
  | .value (.obj _) => true

/-- How a resolved value stands in a longer text. -/
def inText : Resolved → String
  | .undefined => ""
  | .value (.str s) => s
  | .value v => v.render

end Resolved

end Stepwise
