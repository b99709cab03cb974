import Stepwise.Schema.Reader
import Stepwise.Text.Base64

/-!
# Violations of schemas

The ways in which a document violates a schema. References are looked up in the document that the
whole schema was read from.
-/

namespace Stepwise

set_option autoImplicit false

/-- A violation: where in the document, and of which kind. -/
structure Violation where
  place : List String
  kind : String
deriving DecidableEq, Repr

namespace Violation

def escapeChar (c : Char) : List Char :=
  if c = '~' then ['~', '0'] else if c = '/' then ['~', '1'] else [c]

def pointer (v : Violation) : String :=
  String.join (v.place.map fun s => "/" ++ String.ofList (s.toList.flatMap escapeChar))

def toJson (v : Violation) : Json :=
  .object [("field", .str v.pointer), ("keyword", .str v.kind),
    ("message", .str ("the value violates the rule " ++ v.kind))]

end Violation

namespace Schema

mutual

def alike : Json → Json → Bool
  | .null, .null => true
  | .bool a, .bool b => a == b
  | .num a, .num b => a.toFloat == b.toFloat
  | .str a, .str b => a == b
  | .arr a, .arr b => alikeItems a b
  | .obj a, .obj b => alikeFields a b
  | _, _ => false

def alikeItems : List Json → List Json → Bool
  | [], [] => true
  | a :: as, b :: bs => alike a b && alikeItems as bs
  | _, _ => false

def alikeFields : List (String × Json) → List (String × Json) → Bool
  | [], [] => true
  | (k, a) :: as, (l, b) :: bs => k == l && alike a b && alikeFields as bs
  | _, _ => false

end

def unitDistance : Float := Float.ofScientific 2220446049250313 true 31

/-- The constant of a schema. A number by itself may differ by less than the unit distance. -/
def isConstant (value v : Json) : Bool :=
  match value, v with
  | .num a, .num b => (a.toFloat - b.toFloat).abs < unitDistance
  | _, _ => alike value v

def boundHolds (kind : BoundKind) (limit n : Number) : Bool :=
  match kind with
  | .minimum => limit.exactLe n
  | .maximum => n.exactLe limit
  | .exclusiveMinimum => !n.exactLe limit
  | .exclusiveMaximum => !limit.exactLe n

def boundName : BoundKind → String
  | .minimum => "Minimum"
  | .maximum => "Maximum"
  | .exclusiveMinimum => "ExclusiveMinimum"
  | .exclusiveMaximum => "ExclusiveMaximum"

def dividesExactly (a b : Number) : Bool :=
  let (p, q) := a.fraction
  let (r, s) := b.fraction
  r = 0 || (p * s) % (q * r) = 0

/-- A multiple of a whole number is exact; a multiple of another number may fall short of the next
whole quotient by any part, but exceeds one by less than the unit distance. -/
def isMultiple (divisor n : Number) : Bool :=
  let d := Number.double divisor.toFloat
  let x := Number.double n.toFloat
  if d.isIntegral then x.isIntegral && dividesExactly x d
  else
    let quotient := x.toFloat / d.toFloat
    if quotient.isInf || quotient.isNaN then dividesExactly x d
    else
      let (p, q) := (Number.double quotient).fraction
      Int.tmod p q * Decimal.leadingBit < q

def sizeOf? (counted : Counted) (v : Json) : Option Nat :=
  match counted, v with
  | .length, .str s => some s.length
  | .items, .arr items => some items.length
  | .properties, .obj fields => some fields.length
  | _, _ => none

def countedName : Counted → String
  | .length => "Length"
  | .items => "Items"
  | .properties => "Properties"

def allDifferent : List Json → Bool
  | [] => true
  | v :: rest => !rest.any (alike v) && allDifferent rest

def contentProblem? (base64 json : Bool) (s : String) : Option String :=
  if base64 then
    match Text.Base64.decode? s with
    | none => some "ContentEncoding"
    | some bytes =>
      if !json then none
      else match String.fromUTF8? bytes with
        | none => some "FromUtf8"
        | some text => if (Json.parse text).isSome then none else some "ContentMediaType"
  else if json ∧ (Json.parse s).isNone then some "ContentMediaType"
  else none

def follow : List (List Char) → Json → Option Json
  | [], j => some j
  | s :: rest, j =>
    let name := String.ofList s
    match j with
    | .obj fields => (Dict.get? fields name).bind (follow rest)
    | .arr items =>
      if s.isEmpty ∨ !s.all Char.isDigit then none
      else (items[(Number.readDigits s).1]?).bind (follow rest)
    | _ => none

def unescape : List Char → List Char
  | '~' :: '1' :: rest => '/' :: unescape rest
  | '~' :: '0' :: rest => '~' :: unescape rest
  | c :: rest => c :: unescape rest
  | [] => []

/-- The bytes of a text in which percent escapes stand for bytes. -/
def percentBytes : List Char → List UInt8
  | '%' :: a :: b :: rest =>
    match Json.hexValue? a, Json.hexValue? b with
    | some x, some y => UInt8.ofNat (x * 16 + y) :: percentBytes rest
    | _, _ => (String.singleton '%').toUTF8.toList ++ percentBytes (a :: b :: rest)
  | c :: rest => (String.singleton c).toUTF8.toList ++ percentBytes rest
  | [] => []

def percentDecoded (cs : List Char) : Option String :=
  String.fromUTF8? ⟨(percentBytes cs).toArray⟩

def resolve? (root : Json) (target : String) : Option Schema :=
  match target.toList with
  | '#' :: rest =>
    match (percentDecoded rest).map String.toList with
    | some [] => ofJson? root
    | some ('/' :: path) =>
      (follow ((Text.splitAt '/' path).map unescape) root).bind ofJson?
    | _ => none
  | _ => none

/-- The violations of a document. The first argument bounds how far references and parts are
followed. -/
def check (root : Json) : Nat → Schema → List String → Json → List Violation
  | 0, _, _, _ => []
  | depth + 1, schema, place, v =>
    let sub := check root depth
    let holds := fun (s : Schema) (w : Json) => (sub s place w).isEmpty
    let when_ := fun (bad : Bool) (kind : String) => if bad then [Violation.mk place kind] else []
    let onNumber := fun (f : Number → List Violation) => match v with
      | .num n => f n
      | _ => []
    let onText := fun (f : String → List Violation) => match v with
      | .str s => f s
      | _ => []
    let onItems := fun (f : List Json → List Violation) => match v with
      | .arr items => f items
      | _ => []
    let onFields := fun (f : List (String × Json) → List Violation) => match v with
      | .obj fields => f fields
      | _ => []
    let onItem := fun (s : Schema) (e : Json × Nat) => sub s (place ++ [toString e.2]) e.1
    let rule : Rule → List Violation := fun r => match r with
      | .type names => when_ (!names.any fun t => t.holds v) "Type"
      | .enum values => when_ (!values.any fun w => alike w v) "Enum"
      | .constant value => when_ (!isConstant value v) "Constant"
      | .bound kind limit => onNumber fun n => when_ (!boundHolds kind limit n) (boundName kind)
      | .multipleOf d => onNumber fun n => when_ (!isMultiple d n) "MultipleOf"
      | .atLeast counted limit =>
        when_ ((sizeOf? counted v).any fun n => n < limit) ("Min" ++ countedName counted)
      | .atMost counted limit =>
        when_ ((sizeOf? counted v).any fun n => limit < n) ("Max" ++ countedName counted)
      | .pattern p => onText fun s => when_ (!p.occursIn s) "Pattern"
      | .format f => onText fun s => when_ (!f.holds s) "Format"
      | .content base64 json => onText fun s =>
        (contentProblem? base64 json s).toList.map fun kind => ⟨place, kind⟩
      | .allItems s => onItems fun items => items.zipIdx.flatMap (onItem s)
      | .tuple ss => onItems fun items =>
        (ss.zip items.zipIdx).flatMap fun p => onItem p.1 p.2
      | .moreItems after s => onItems fun items =>
        match s with
        | .always false => when_ (after < items.length) "AdditionalItems"
        | s => (items.zipIdx.drop after).flatMap (onItem s)
      | .contains s => onItems fun items => when_ (!items.any (holds s)) "Contains"
      | .uniqueItems => onItems fun items => when_ (!allDifferent items) "UniqueItems"
      | .fields properties patterns additional => onFields fun fields =>
        let isExtra := fun (name : String) =>
          (properties.lookup name).isNone && !patterns.any fun p => p.1.occursIn name
        let ofField := fun (e : String × Json) =>
          let deeper := place ++ [e.1]
          let own := (properties.lookup e.1).toList.flatMap fun s => sub s deeper e.2
          let matched := (patterns.filter fun p => p.1.occursIn e.1).flatMap fun p =>
            sub p.2 deeper e.2
          let rest := match additional with
            | .checked s => if isExtra e.1 then sub s deeper e.2 else []
            | _ => []
          own ++ matched ++ rest
        let refused := match additional with
          | .refused => when_ (fields.any fun e => isExtra e.1) "AdditionalProperties"
          | _ => []
        fields.flatMap ofField ++ refused
      | .noFields => onFields fun fields => when_ (!fields.isEmpty) "FalseSchema"
      | .propertyNames s => onFields fun fields =>
        match s with
        | .always false => when_ (!fields.isEmpty) "FalseSchema"
        | s => fields.flatMap fun e =>
          (sub s place (.str e.1)).map fun _ => ⟨place, "PropertyNames"⟩
      | .required names => onFields fun fields =>
        (names.filter fun n => !Dict.contains fields n).map fun _ => ⟨place, "Required"⟩
      | .dependentNames name names => onFields fun fields =>
        if Dict.contains fields name then
          (names.filter fun n => !Dict.contains fields n).map fun _ => ⟨place, "Required"⟩
        else []
      | .dependentSchema name s => onFields fun fields =>
        if Dict.contains fields name then sub s place v else []
      | .allOf ss => ss.flatMap fun s => sub s place v
      | .anyOf ss => when_ (!ss.any fun s => holds s v) "AnyOf"
      | .oneOf ss =>
        match (ss.filter fun s => holds s v).length with
        | 0 => when_ true "OneOfNotValid"
        | 1 => []
        | _ => when_ true "OneOfMultipleValid"
      | .not s => when_ (holds s v) "Not"
      | .conditional test consequent alternative =>
        let next := if holds test v then consequent else alternative
        next.toList.flatMap fun s => sub s place v
    match schema with
    | .always true => []
    | .always false => when_ true "FalseSchema"
    | .reference target =>
      match resolve? root target with
      | some s => sub s place v
      | none => when_ true "InvalidReference"
    | .rules all => all.flatMap rule

/-- The violations of a document by the schema that another document describes; none if that is no
schema. -/
def violations? (schema v : Json) : Option (List Violation) :=
  (ofJson? schema).map fun s => check schema ((schema.size + 2) * (v.size + 2)) s [] v

end Schema

end Stepwise
