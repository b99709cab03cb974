import Stepwise.Query.Function
import Stepwise.Query.Parser

/-!
# Evaluating queries

The value of a query for a document.
-/

namespace Stepwise.Query

set_option autoImplicit false

/-- An end of a slice of an array of `length` elements, moved to where the slice can begin or end.
-/
def sliceEnd (length endpoint step : Int) : Int :=
  if endpoint < 0 then
    if 0 ≤ endpoint + length then endpoint + length else if step < 0 then -1 else 0
  else if endpoint < length then endpoint
  else if step < 0 then length - 1 else length

/-- The elements from position `i` up to `stop`, by steps. The first argument bounds their number.
-/
def takeSteps (items : Array Json) (stop step : Int) : Nat → Int → List Json
  | 0, _ => []
  | count + 1, i =>
    if (0 < step ∧ i < stop) ∨ (step < 0 ∧ stop < i) then
      match items[i.toNat]? with
      | some v => v :: takeSteps items stop step count (i + step)
      | none => []
    else []

def slice (items : List Json) (start stop : Option Int) (step : Int) : List Json :=
  let length : Int := items.length
  let first := match start with
    | some i => sliceEnd length i step
    | none => if step < 0 then length - 1 else 0
  let last := match stop with
    | some i => sliceEnd length i step
    | none => if step < 0 then -1 else length
  takeSteps items.toArray last step items.length first

def itemAt (j : Json) (position : Int) : Json :=
  match j with
  | .arr items =>
    if 0 ≤ position then (items[position.toNat]?).getD .null
    else if position.natAbs ≤ items.length then
      (items[items.length - position.natAbs]?).getD .null
    else .null
  | _ => .null

def flattenItems : List Json → List Json
  | [] => []
  | .arr items :: rest => items ++ flattenItems rest
  | v :: rest => v :: flattenItems rest

def compareData (op : Comparison) (a b : Json) : Json :=
  let ordered := isNumber a && isNumber b
  match op with
  | .eq => .bool (equal a b)
  | .ne => .bool (!equal a b)
  | .lt => if ordered then .bool (less a b) else .null
  | .le => if ordered then .bool (!less b a) else .null
  | .gt => if ordered then .bool (less b a) else .null
  | .ge => if ordered then .bool (!less a b) else .null

/-- Applies a function to every element and leaves out nulls. -/
def projectItems (f : Json → Answer) : List Json → Except QueryError (List Json)
  | [] => .ok []
  | v :: rest => do
    let w := (← f v).toJson
    let more ← projectItems f rest
    pure (if w.isNull then more else w :: more)

mutual

def eval : Expr → Json → Answer
  | .identity, d => .ok (.data d)
  | .field name, d => .ok (.data ((d.field? name).getD .null))
  | .index i, d => .ok (.data (itemAt d i))
  | .slice start stop step, d =>
    if step = 0 then .error .zeroStep
    else match d with
      | .arr items => .ok (.data (.arr (slice items start stop step)))
      | _ => .ok (.data .null)
  | .literal v, _ => .ok (.data v)
  | .chain a b, d => do eval b (← eval a d).toJson
  | .or a b, d => do
    let left ← eval a d
    if left.holds then pure left else eval b d
  | .and a b, d => do
    let left ← eval a d
    if left.holds then eval b d else pure left
  | .not a, d => do truth (!(← eval a d).holds)
  | .compare op a b, d => do
    let left ← eval a d
    let right ← eval b d
    pure (.data (compareData op left.toJson right.toJson))
  | .guarded test body, d => do
    if (← eval test d).holds then eval body d else pure (.data .null)
  | .project source body, d => do
    match (← eval source d).toJson with
    | .arr items => do pure (.data (.arr (← projectItems (fun v => eval body v) items)))
    | _ => pure (.data .null)
  | .flatten a, d => do
    match (← eval a d).toJson with
    | .arr items => pure (.data (.arr (flattenItems items)))
    | _ => pure (.data .null)
  | .values a, d => do
    match (← eval a d).toJson with
    | .obj fields => pure (.data (.arr (fields.map Prod.snd)))
    | _ => pure (.data .null)
  | .list elements, d =>
    if d.isNull then .ok (.data .null)
    else do pure (.data (.arr ((← evalAll elements d).map Value.toJson)))
  | .hash entries, d =>
    if d.isNull then .ok (.data .null)
    else do pure (.data (.obj (Dict.ofList (← evalEntries entries d))))
  | .call name arguments, d => do applyFunction name (← evalAll arguments d)
  | .reference a, _ => .ok (.function fun d => eval a d)

def evalAll : List Expr → Json → Except QueryError (List Value)
  | [], _ => .ok []
  | e :: rest, d => do
    let v ← eval e d
    let more ← evalAll rest d
    pure (v :: more)

def evalEntries : List (String × Expr) → Json → Except QueryError (List (String × Json))
  | [], _ => .ok []
  | (name, e) :: rest, d => do
    let v ← eval e d
    let more ← evalEntries rest d
    pure ((name, v.toJson) :: more)

end

theorem eval_call (name : String) (arguments : List Expr) (d : Json) :
    eval (.call name arguments) d = evalAll arguments d >>= applyFunction name := by
  rw [eval]

def search (e : Expr) (d : Json) : Except QueryError Json := (eval e d).map Value.toJson

end Stepwise.Query
