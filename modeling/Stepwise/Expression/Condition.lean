import Stepwise.Expression.Resolve
import Stepwise.Expression.RealText

/-!
# Conditions

Single conditions joined by `&&`. A single condition is an operand by itself, or an operand compared
with a literal. Conditions are checked from left to right up to the first that does not hold.
-/

namespace Stepwise

set_option autoImplicit false

inductive Operator where
  | less
  | greater
  | lessEqual
  | greaterEqual
  | looseEqual
  | strictEqual
  | looseUnequal
  | strictUnequal
deriving DecidableEq, Repr

namespace Operator

def ofText? (token : String) : Option Operator :=
  match token with
  | "<" => some .less
  | ">" => some .greater
  | "<=" => some .lessEqual
  | ">=" => some .greaterEqual
  | "==" => some .looseEqual
  | "=" => some .looseEqual
  | "===" => some .strictEqual
  | "!=" => some .looseUnequal
  | "!==" => some .strictUnequal
  | _ => none

/-- The number that a value counts as; not a number where there is none. -/
def numberOf : Resolved → Float
  | .undefined => RealText.nan
  | .value .null => 0.0
  | .value (.bool b) => if b then 1.0 else 0.0
  | .value (.num n) => n.toFloat
  | .value (.str s) =>
    let cs := Text.trim s.toList
    if cs.isEmpty then 0.0 else (RealText.ofChars? cs).getD RealText.nan
  | .value (.arr _) => RealText.nan
  | .value (.obj _) => RealText.nan

def isNullish : Resolved → Bool
  | .undefined => true
  | .value .null => true
  | _ => false

/-- The same value; numbers are compared as doubles, unless they stand inside of other values. -/
def strictEq : Resolved → Resolved → Bool
  | .undefined, .undefined => true
  | .value (.num a), .value (.num b) => a.toFloat == b.toFloat
  | .value a, .value b => a.same b
  | _, _ => false

/-- Nothing and null are the same, truth values and texts beside numbers count as numbers. -/
def looseEq (a b : Resolved) : Bool :=
  if isNullish a || isNullish b then isNullish a && isNullish b
  else match a, b with
    | .value (.bool _), _ => numberOf a == numberOf b
    | _, .value (.bool _) => numberOf a == numberOf b
    | .value (.num _), .value (.str _) => numberOf a == numberOf b
    | .value (.str _), .value (.num _) => numberOf a == numberOf b
    | _, _ => strictEq a b

def before : Resolved → Resolved → Bool
  | .value (.str a), .value (.str b) => a < b
  | a, b => numberOf a < numberOf b

def beforeOrSame : Resolved → Resolved → Bool
  | .value (.str a), .value (.str b) => a < b || a == b
  | a, b => numberOf a <= numberOf b

/-- Compares two values: texts by their characters, everything else as numbers. -/
def apply (op : Operator) (a b : Resolved) : Bool :=
  match op with
  | .less => before a b
  | .greater => before b a
  | .lessEqual => beforeOrSame a b
  | .greaterEqual => beforeOrSame b a
  | .looseEqual => looseEq a b
  | .looseUnequal => !looseEq a b
  | .strictEqual => strictEq a b
  | .strictUnequal => !strictEq a b

def isMark (c : Char) : Bool := c = '<' || c = '>' || c = '=' || c = '!' || c = '~'

end Operator

namespace Condition

/-- Where a scan of a condition stands: how deep in brackets, and inside of which quotes. -/
structure Scan where
  depth : Int := 0
  quote : Option Char := none
deriving DecidableEq, Repr

namespace Scan

def isOutside (s : Scan) : Bool := s.depth = 0 && s.quote.isNone

def step (s : Scan) (c : Char) : Scan :=
  match s.quote with
  | some q => if c = q then { s with quote := none } else s
  | none =>
    if c = '\x27' ∨ c = '\x22' then { s with quote := some c }
    else if c = '[' ∨ c = '(' then { s with depth := s.depth + 1 }
    else if c = ']' ∨ c = ')' then { s with depth := s.depth - 1 }
    else s

end Scan

def conjuncts : Scan → List Char → List (List Char)
  | _, [] => [[]]
  | s, '&' :: '&' :: rest =>
    if s.isOutside then [] :: conjuncts s rest
    else
      match conjuncts s ('&' :: rest) with
      | [] => [['&']]
      | part :: parts => ('&' :: part) :: parts
  | s, c :: rest =>
    match conjuncts (s.step c) rest with
    | [] => [[c]]
    | part :: parts => (c :: part) :: parts

/-- Splits a single condition at the first run of comparison marks outside of quotes and brackets:
what stands before, the run, and what stands behind. -/
def comparison? : Scan → List Char → Option (List Char × List Char × List Char)
  | _, [] => none
  | s, c :: rest =>
    if s.isOutside ∧ Operator.isMark c then
      some ([], (c :: rest).takeWhile Operator.isMark, (c :: rest).dropWhile Operator.isMark)
    else (comparison? (s.step c) rest).map fun p => (c :: p.1, p.2)

def unquoted? : List Char → Option (List Char)
  | c :: rest =>
    if (c = '\x27' ∨ c = '\x22') ∧ rest.getLast? = some c then some rest.dropLast else none
  | [] => none

def literal (token : String) : Resolved :=
  match token with
  | "true" => .value (.bool true)
  | "false" => .value (.bool false)
  | "null" => .value .null
  | "undefined" => .undefined
  | _ =>
    match unquoted? token.toList with
    | some inside => .value (.str (String.ofList inside))
    | none =>
      match Json.parse token with
      | some (.num n) => .value (.num n)
      | _ => .value (.str token)

def operand (expr : String) (scope : Json) : EngineProgram Resolved :=
  if Path.isQuery expr then resolve expr scope true else pure (literal expr)

/-- Checks a single condition. An unknown run of comparison marks makes it false. -/
def single (cs : List Char) (scope : Json) : EngineProgram Bool :=
  match comparison? {} cs with
  | none => do pure (← operand (String.ofList cs) scope).isTruthy
  | some (left, marks, right) =>
    match Operator.ofText? (String.ofList marks) with
    | none => pure false
    | some op => do
      let a ← operand (String.ofList (Text.trim left)) scope
      pure (op.apply a (literal (String.ofList (Text.trim right))))

def all (scope : Json) : List (List Char) → EngineProgram Bool
  | [] => pure true
  | cs :: rest => do
    if ← single (Text.trim cs) scope then all scope rest else pure false

/-- Checks a condition. One without any text does not hold. -/
def check (condition : String) (scope : Json) : EngineProgram Bool :=
  let parts := conjuncts {} condition.toList
  if parts.all fun cs => (Text.trim cs).isEmpty then pure false else all scope parts

end Condition

end Stepwise
