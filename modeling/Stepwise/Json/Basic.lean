import Stepwise.Dict
import Stepwise.Json.Number

/-!
# JSON documents

Objects keep their entries in ascending order of the names, so that two documents with the same
content are the same value. Functions on documents recurse over values, items and fields together.
-/

namespace Stepwise

set_option autoImplicit false

inductive Json where
  | null
  | bool (value : Bool)
  | num (value : Number)
  | str (value : String)
  | arr (items : List Json)
  | obj (fields : List (String × Json))

namespace Json

instance : Inhabited Json := ⟨.null⟩

mutual

def decEq : (a b : Json) → Decidable (a = b)
  | .null, b => match b with
    | .null => isTrue rfl
    | .bool _ | .num _ | .str _ | .arr _ | .obj _ => isFalse (by intro h; cases h)
  | .bool x, b => match b with
    | .bool y =>
      if h : x = y then isTrue (by rw [h]) else isFalse (by intro e; cases e; exact h rfl)
    | .null | .num _ | .str _ | .arr _ | .obj _ => isFalse (by intro h; cases h)
  | .num x, b => match b with
    | .num y => if h : x = y then isTrue (by rw [h]) else isFalse (by intro e; cases e; exact h rfl)
    | .null | .bool _ | .str _ | .arr _ | .obj _ => isFalse (by intro h; cases h)
  | .str x, b => match b with
    | .str y => if h : x = y then isTrue (by rw [h]) else isFalse (by intro e; cases e; exact h rfl)
    | .null | .bool _ | .num _ | .arr _ | .obj _ => isFalse (by intro h; cases h)
  | .arr xs, b => match b with
    | .arr ys => match decEqItems xs ys with
      | isTrue h => isTrue (by rw [h])
      | isFalse h => isFalse (by intro e; cases e; exact h rfl)
    | .null | .bool _ | .num _ | .str _ | .obj _ => isFalse (by intro h; cases h)
  | .obj xs, b => match b with
    | .obj ys => match decEqFields xs ys with
      | isTrue h => isTrue (by rw [h])
      | isFalse h => isFalse (by intro e; cases e; exact h rfl)
    | .null | .bool _ | .num _ | .str _ | .arr _ => isFalse (by intro h; cases h)

def decEqItems : (a b : List Json) → Decidable (a = b)
  | [], [] => isTrue rfl
  | [], _ :: _ => isFalse (by intro h; cases h)
  | _ :: _, [] => isFalse (by intro h; cases h)
  | x :: xs, y :: ys => match decEq x y with
    | isFalse h => isFalse (by intro e; cases e; exact h rfl)
    | isTrue h => match decEqItems xs ys with
      | isTrue h' => isTrue (by rw [h, h'])
      | isFalse h' => isFalse (by intro e; cases e; exact h' rfl)

def decEqFields : (a b : List (String × Json)) → Decidable (a = b)
  | [], [] => isTrue rfl
  | [], _ :: _ => isFalse (by intro h; cases h)
  | _ :: _, [] => isFalse (by intro h; cases h)
  | (k, x) :: xs, (l, y) :: ys =>
    if hk : k = l then
      match decEq x y with
      | isFalse h => isFalse (by intro e; cases e; exact h rfl)
      | isTrue h => match decEqFields xs ys with
        | isTrue h' => isTrue (by rw [hk, h, h'])
        | isFalse h' => isFalse (by intro e; cases e; exact h' rfl)
    else isFalse (by intro e; cases e; exact hk rfl)

end

instance : DecidableEq Json := decEq

def ofNat (n : Nat) : Json := .num (.int n)

def ofFloat (x : Float) : Json := if x.isFinite then .num (.double x) else .null

/-- The object with the given entries; of two entries with one name the later counts. -/
def object (entries : List (String × Json)) : Json := .obj (Dict.ofList entries)

def field? : Json → String → Option Json
  | .obj fields, key => Dict.get? fields key
  | _, _ => none

def text? : Json → Option String
  | .str s => some s
  | _ => none

def flag? : Json → Option Bool
  | .bool b => some b
  | _ => none

def isNull : Json → Bool
  | .null => true
  | _ => false

mutual

/-- The same document, where doubles are compared as doubles. -/
def same : Json → Json → Bool
  | .null, .null => true
  | .bool a, .bool b => a == b
  | .num a, .num b => a.same b
  | .str a, .str b => a == b
  | .arr a, .arr b => sameItems a b
  | .obj a, .obj b => sameFields a b
  | _, _ => false

def sameItems : List Json → List Json → Bool
  | [], [] => true
  | a :: as, b :: bs => same a b && sameItems as bs
  | _, _ => false

def sameFields : List (String × Json) → List (String × Json) → Bool
  | [], [] => true
  | (k, a) :: as, (l, b) :: bs => k == l && same a b && sameFields as bs
  | _, _ => false

end

mutual

/-- Puts the fields of every object in order; of two fields with one name the later counts. -/
def normalize : Json → Json
  | .arr items => .arr (normalizeItems items)
  | .obj fields => .obj (Dict.ofList (normalizeFields fields))
  | .null => .null
  | .bool b => .bool b
  | .num n => .num n
  | .str s => .str s

def normalizeItems : List Json → List Json
  | [] => []
  | v :: rest => normalize v :: normalizeItems rest

def normalizeFields : List (String × Json) → List (String × Json)
  | [] => []
  | (k, v) :: rest => (k, normalize v) :: normalizeFields rest

end

end Json

end Stepwise
