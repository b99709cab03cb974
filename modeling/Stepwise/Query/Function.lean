import Stepwise.Json.Parser
import Stepwise.Query.Value

/-!
# Functions of queries

The functions of the query language. Each checks the kinds of its arguments; the arithmetic ones
answer doubles.
-/

namespace Stepwise.Query

set_option autoImplicit false

abbrev Answer := Except QueryError Value

def number (x : Float) : Answer :=
  if x.isFinite then .ok (.data (.num (.double x))) else .error .notANumber

def truth (b : Bool) : Answer := .ok (.data (.bool b))

def floats? (items : List Json) : Option (List Float) :=
  items.mapM fun
    | .num n => some n.toFloat
    | _ => none

def texts? (items : List Json) : Option (List String) := items.mapM Json.text?

def areComparable (items : List Json) : Bool := items.all isText || items.all isNumber

def total (xs : List Float) : Float := xs.foldl (· + ·) 0.0

def isInfixOf (part : List Char) : List Char → Bool
  | [] => part.isEmpty
  | c :: rest => part.isPrefixOf (c :: rest) || isInfixOf part rest

def kindOf : Json → String
  | .null => "null"
  | .bool _ => "boolean"
  | .num _ => "number"
  | .str _ => "string"
  | .arr _ => "array"
  | .obj _ => "object"

def kindOfValue : Value → String
  | .data j => kindOf j
  | .function _ => "expref"

/-- In ascending order; equal elements keep their places. -/
def ascending {α : Type} (key : α → Json) (items : List α) : List α :=
  items.mergeSort fun a b => !less (key b) (key a)

/-- Each document with the value that the expression gives for it. All the values must be texts, or
all numbers. -/
def keyed (name : String) (f : Json → Answer) (items : List Json) :
    Except QueryError (List (Json × Json)) := do
  let keys ← items.mapM fun v => do
    match ← f v with
    | .data k => pure (v, k)
    | .function _ => throw (.wrongResult name)
  if areComparable (keys.map Prod.snd) then pure keys else throw (.wrongResult name)

/-- The first element that no other one precedes. -/
def extreme {α : Type} (precedes : α → α → Bool) : List α → Option α
  | [] => none
  | a :: rest => some (rest.foldl (fun best b => if precedes b best then b else best) a)

/-- The last of the largest elements. -/
def maximum (items : List Json) : Json :=
  (extreme (fun a b => !less a b) items).getD .null

def minimum (items : List Json) : Json :=
  (extreme less items).getD .null

def applyData (name : String) (args : List Json) : Answer :=
  let wrong : Answer := .error (.wrongArguments name)
  let data := fun (j : Json) => (.ok (.data j) : Answer)
  match name, args with
  | "abs", [.num n] => number n.toFloat.abs
  | "avg", [.arr items] => match floats? items with
    | some xs => number (total xs / Float.ofNat xs.length)
    | none => wrong
  | "ceil", [.num n] => number n.toFloat.ceil
  | "contains", [.arr items, v] => truth (items.any (equal · v))
  | "contains", [.str s, v] => match v with
    | .str part => truth (isInfixOf part.toList s.toList)
    | _ => truth false
  | "ends_with", [.str s, .str part] => truth (part.toList.isSuffixOf s.toList)
  | "floor", [.num n] => number n.toFloat.floor
  | "join", [.str glue, .arr items] => match texts? items with
    | some parts => data (.str (glue.intercalate parts))
    | none => wrong
  | "keys", [.obj fields] => data (.arr (fields.map fun e => .str e.1))
  | "length", [.str s] => data (Json.ofNat s.length)
  | "length", [.arr items] => data (Json.ofNat items.length)
  | "length", [.obj fields] => data (Json.ofNat fields.length)
  | "max", [.arr items] => if areComparable items then data (maximum items) else wrong
  | "merge", .obj first :: rest =>
    match rest.mapM fun | .obj fields => some fields | _ => none with
    | some more => data (.obj (more.foldl Dict.update first))
    | none => wrong
  | "min", [.arr items] => if areComparable items then data (minimum items) else wrong
  | "reverse", [.arr items] => data (.arr items.reverse)
  | "reverse", [.str s] => data (.str (String.ofList s.toList.reverse))
  | "sort", [.arr items] => if areComparable items then data (.arr (ascending id items)) else wrong
  | "starts_with", [.str s, .str part] => truth (part.toList.isPrefixOf s.toList)
  | "sum", [.arr items] => match floats? items with
    | some xs => number (total xs)
    | none => wrong
  | "to_number", [.num n] => data (.num n)
  | "to_number", [.str s] => data ((Json.parse s).getD .null)
  | "to_number", [_] => data .null
  | "to_string", [.str s] => data (.str s)
  | "to_string", [v] => data (.str v.render)
  | "values", [.obj fields] => data (.arr (fields.map Prod.snd))
  | _, _ => wrong

def dataFunctions : List String :=
  ["abs", "avg", "ceil", "contains", "ends_with", "floor", "join", "keys", "length", "max", "merge",
   "min", "reverse", "sort", "starts_with", "sum", "to_number", "to_string", "values"]

def allData? (args : List Value) : Option (List Json) :=
  args.mapM fun
    | .data j => some j
    | .function _ => none

def isNullValue : Value → Bool
  | .data .null => true
  | _ => false

def applyFunction (name : String) (args : List Value) : Answer :=
  let wrong : Answer := .error (.wrongArguments name)
  match name with
  | "map" => match args with
    | [.function f, .data (.arr items)] => do
      let results ← items.mapM fun v => (f v).map Value.toJson
      pure (.data (.arr results))
    | _ => wrong
  | "max_by" => match args with
    | [.data (.arr items), .function f] => do
      let pairs ← keyed name f items
      pure (.data (((extreme (fun a b => less b.2 a.2) pairs).map Prod.fst).getD .null))
    | _ => wrong
  | "min_by" => match args with
    | [.data (.arr items), .function f] => do
      let pairs ← keyed name f items
      pure (.data (((extreme (fun a b => less a.2 b.2) pairs).map Prod.fst).getD .null))
    | _ => wrong
  | "not_null" =>
    if args.isEmpty then wrong
    else .ok ((args.find? fun v => !isNullValue v).getD (.data .null))
  | "sort_by" => match args with
    | [.data (.arr items), .function f] => do
      let pairs ← keyed name f items
      pure (.data (.arr ((ascending Prod.snd pairs).map Prod.fst)))
    | _ => wrong
  | "to_array" => match args with
    | [.data (.arr items)] => .ok (.data (.arr items))
    | [v] => .ok (.data (.arr [v.toJson]))
    | _ => wrong
  | "type" => match args with
    | [v] => .ok (.data (.str (kindOfValue v)))
    | _ => wrong
  | _ =>
    if dataFunctions.contains name then
      match allData? args with
      | some data => applyData name data
      | none => wrong
    else .error (.unknownFunction name)

end Stepwise.Query
