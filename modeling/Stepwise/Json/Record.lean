import Stepwise.Json.Basic
import Stepwise.Time.Instant

/-!
# Typed reading of documents

Typed reading of JSON documents. A record is an object of named fields or an array of its fields in
order; a choice is given by its name; a tagged record carries the name of its variant. A part that
was first set aside and is read afterwards is read loosely: there the tag of a variant may be given
by its number, and an empty object stands for null.
-/

namespace Stepwise

set_option autoImplicit false

/-- Whether a field may be left out of an object, and whether it may be left out of an array. -/
inductive Presence where
  | required
  | named
  | anywhere
deriving DecidableEq

/-- Whether a part is read where it stands or after being set aside. -/
inductive Reading where
  | strict
  | loose
deriving DecidableEq

namespace Json

variable {α : Type}

def word16? : Json → Option UInt16
  | .num (.int n) => if 0 ≤ n ∧ n.toNat < UInt16.size then some (UInt16.ofNat n.toNat) else none
  | _ => none

def word32? : Json → Option UInt32
  | .num (.int n) => if 0 ≤ n ∧ n.toNat < UInt32.size then some (UInt32.ofNat n.toNat) else none
  | _ => none

def word64? : Json → Option UInt64
  | .num (.int n) => if 0 ≤ n ∧ n.toNat < UInt64.size then some (UInt64.ofNat n.toNat) else none
  | _ => none

def float? : Json → Option Float
  | .num n => some n.toFloat
  | _ => none

def instant? : Json → Option Instant
  | .str s => Instant.ofText? s
  | _ => none

def document? (j : Json) : Option Json := some j.normalize

def readAll (f : Json → Option α) : List Json → Option (List α)
  | [] => some []
  | v :: rest => do
    let a ← f v
    let more ← readAll f rest
    some (a :: more)

def readEntries (f : Json → Option α) : List (String × Json) → Option (List (String × α))
  | [] => some []
  | (k, v) :: rest => do
    let a ← f v
    let more ← readEntries f rest
    some ((k, a) :: more)

def list? (f : Json → Option α) : Json → Option (List α)
  | .arr items => readAll f items
  | _ => none

def dict? (f : Json → Option α) : Json → Option (Dict α)
  | .obj fields => (readEntries f fields).map Dict.ofList
  | _ => none

def fields? : Json → Option (Dict Json) := dict? document?

/-- Pairs the items of an array with the fields of a record; the last fields may be missing when
they may be left out anywhere. -/
def positional : List (String × Presence) → List Json → Option (Dict Json)
  | [], [] => some []
  | [], _ :: _ => none
  | (_, p) :: spec, [] => if p = .anywhere then positional spec [] else none
  | (name, _) :: spec, v :: items => (positional spec items).map ((name, v) :: ·)

def distinct (names : List String) (fields : List (String × Json)) : Bool :=
  names.all fun name => (fields.filter fun e => e.1 = name).length ≤ 1

/-- The fields of a record, by name. Fields it does not know are left out. -/
def record? (spec : List (String × Presence)) : Json → Option (Dict Json)
  | .obj fields =>
    let names := spec.map Prod.fst
    if distinct names fields then some (fields.filter fun e => names.contains e.1) else none
  | .arr items => positional spec items
  | _ => none

def namedRecord? (spec : List (String × Presence)) : Json → Option (Dict Json)
  | .obj fields => record? spec (.obj fields)
  | _ => none

/-- A choice given by its name, or by an object that has the name for its only field. -/
def choice? (mode : Reading) (names : List (String × α)) : Json → Option α
  | .str s => names.lookup s
  | .obj [(k, v)] =>
    if v = .null ∨ (mode = .loose ∧ v = .obj []) then names.lookup k else none
  | _ => none

/-- A variant given by its name or, in a loose reading, by its number. -/
def variant? (mode : Reading) (names : List (String × α)) : Json → Option α
  | .str s => names.lookup s
  | .num (.int n) =>
    if mode = .loose ∧ 0 ≤ n then (names[n.toNat]?).map Prod.snd else none
  | _ => none

def tagged? (mode : Reading) (tag : String) (names : List (String × α)) : Json → Option (α × Json)
  | .obj fields => do
    let t ← Dict.get? fields tag
    let v ← variant? mode names t
    if distinct [tag] fields then some (v, .obj (fields.filter fun e => e.1 ≠ tag)) else none
  | .arr (t :: items) => (variant? mode names t).map fun v => (v, .arr items)
  | _ => none

def bare? : Json → Option Unit
  | .obj _ => some ()
  | .arr [] => some ()
  | _ => none

end Json

namespace Dict

variable {α : Type}

def required (r : Dict Json) (name : String) (f : Json → Option α) : Option α :=
  (r.get? name).bind f

def defaulted (r : Dict Json) (name : String) (default : α) (f : Json → Option α) : Option α :=
  match r.get? name with
  | none => some default
  | some v => f v

def optional (r : Dict Json) (name : String) (f : Json → Option α) : Option (Option α) :=
  match r.get? name with
  | none => some none
  | some .null => some none
  | some v => (f v).map some

end Dict

def optionalField {α : Type} (name : String) (f : α → Json) : Option α → List (String × Json)
  | none => []
  | some a => [(name, f a)]

end Stepwise
