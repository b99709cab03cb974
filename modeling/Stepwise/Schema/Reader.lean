import Stepwise.Json.Record
import Stepwise.Json.Text
import Stepwise.Schema.Format

/-!
# Reading schemas

Reading a schema from a JSON document. All keywords must be well formed, those in other parts of the
schema and those without rules included. The first argument of each recursive function bounds how
deep schemas stand in each other.
-/

namespace Stepwise

set_option autoImplicit false

open Json

namespace Schema

def textList? (j : Json) : Option (List String) := do
  let names ← list? text? j
  if names.Nodup then some names else none

def count? (j : Json) : Option Nat := (word64? j).map UInt64.toNat

def number? : Json → Option Number
  | .num n => some n
  | _ => none

def typeNames? : Json → Option (List TypeName)
  | .str s => (TypeName.names.lookup s).map fun t => [t]
  | j => do
    let names ← textList? j
    if names.isEmpty then none else names.mapM fun n => TypeName.names.lookup n

def nonempty? {α : Type} (l : List α) : Option (List α) := if l.isEmpty then none else some l

/-- A keyword that only has to be well formed. -/
def isAnnotation (key : String) (v : Json) : Option Bool :=
  match key with
  | "$id" => some v.text?.isSome
  | "$schema" => some v.text?.isSome
  | "$comment" => some v.text?.isSome
  | "$ref" => some v.text?.isSome
  | "title" => some v.text?.isSome
  | "description" => some v.text?.isSome
  | "readOnly" => some v.flag?.isSome
  | "writeOnly" => some v.flag?.isSome
  | "examples" => some (list? document? v).isSome
  | _ => none

def contentRules (fields : List (String × Json)) : List Rule :=
  let encoding := Dict.get? fields "contentEncoding"
  match Dict.get? fields "contentMediaType" with
  | some media =>
    if media = .str "application/json" then
      match encoding with
      | none => [.content false true]
      | some e => if e = .str "base64" then [.content true true] else []
    else []
  | none => if encoding = some (.str "base64") then [.content true false] else []

def formatRules (v : Json) : List Rule :=
  match v.text?.bind fun s => Format.names.lookup s with
  | some f => [.format f]
  | none => []

/-- The rule of a keyword whose value holds no schemas; `some []` where it has none. -/
def plainRules? (key : String) (v : Json) : Option (List Rule) :=
  let bound := fun (kind : BoundKind) => (number? v).map fun n => [Rule.bound kind n]
  match key with
  | "type" => (typeNames? v).map fun ts => [.type ts]
  | "enum" => (list? document? v).map fun vs => [.enum vs]
  | "const" => some [.constant v]
  | "minimum" => bound .minimum
  | "maximum" => bound .maximum
  | "exclusiveMinimum" => bound .exclusiveMinimum
  | "exclusiveMaximum" => bound .exclusiveMaximum
  | "multipleOf" =>
    match number? v with
    | some n => if n.exactLe (.int 0) then none else some [.multipleOf n]
    | none => none
  | "minLength" => (count? v).map fun n => [.atLeast .length n]
  | "maxLength" => (count? v).map fun n => [.atMost .length n]
  | "minItems" => (count? v).map fun n => [.atLeast .items n]
  | "maxItems" => (count? v).map fun n => [.atMost .items n]
  | "minProperties" => (count? v).map fun n => [.atLeast .properties n]
  | "maxProperties" => (count? v).map fun n => [.atMost .properties n]
  | "pattern" => ((v.text?).bind Pattern.ofText?).map fun p => [.pattern p]
  | "format" => v.text?.map fun _ => formatRules v
  | "contentMediaType" => v.text?.map fun _ => []
  | "contentEncoding" => v.text?.map fun _ => []
  | "uniqueItems" => v.flag?.map fun b => if b then [.uniqueItems] else []
  | "required" => (textList? v).map fun names => [.required names]
  | _ =>
    match isAnnotation key v with
    | some good => if good then some [] else none
    | none => some []

def patterned? (fields : List (String × Schema)) : Option (List (Pattern × Schema)) :=
  fields.mapM fun e => (Pattern.ofText? e.1).map fun p => (p, e.2)

/-- The rule on the fields of an object, from the three keywords that speak of them. -/
def fieldRules (properties : Option (List (String × Schema)))
    (patterns : Option (List (Pattern × Schema))) (additional : Option Schema) : List Rule :=
  let names := properties.getD []
  let ps := patterns.getD []
  match additional with
  | some (.always false) =>
    if properties.isNone ∧ patterns.isNone then [.noFields]
    else [.fields names ps .refused]
  | some (.always true) => if names.isEmpty ∧ ps.isEmpty then [] else [.fields names ps .allowed]
  | some s => [.fields names ps (.checked s)]
  | none => if names.isEmpty ∧ ps.isEmpty then [] else [.fields names ps .allowed]

def keyword? {α : Type} (fields : List (String × Json)) (key : String) (f : Json → Option α) :
    Option (Option α) :=
  match Dict.get? fields key with
  | none => some none
  | some v => (f v).map some

def rulesOf {α : Type} (f : α → List Rule) : Option α → List Rule
  | none => []
  | some a => f a

inductive ItemSchemas where
  | all (schema : Schema)
  | tuple (schemas : List Schema)

inductive Dependency where
  | names (names : List String)
  | schema (schema : Schema)

def itemRules (items : Option ItemSchemas) (additional : Option Schema) : List Rule :=
  match items with
  | none => []
  | some (.all s) => [.allItems s]
  | some (.tuple ss) =>
    .tuple ss :: rulesOf (fun s => [.moreItems ss.length s]) additional

def dependencyRules (deps : List (String × Dependency)) : List Rule :=
  deps.map fun d => match d.2 with
    | .names names => .dependentNames d.1 names
    | .schema s => .dependentSchema d.1 s

def entries? {α : Type} (f : Json → Option α) : Json → Option (List (String × α))
  | .obj fields => readEntries f fields
  | _ => none

def schemaList? (schema : Json → Option Schema) (v : Json) : Option (List Schema) :=
  (list? schema v).bind nonempty?

def items? (schema : Json → Option Schema) (v : Json) : Option ItemSchemas :=
  match v with
  | .arr _ => (schemaList? schema v).map .tuple
  | _ => (schema v).map .all

def dependency? (schema : Json → Option Schema) (v : Json) : Option Dependency :=
  match v with
  | .arr _ => (textList? v).map .names
  | _ => (schema v).map .schema

def partRules? (schema : Json → Option Schema) (fields : List (String × Json)) :
    Option (List Rule) := do
  let items ← keyword? fields "items" (items? schema)
  let additionalItems ← keyword? fields "additionalItems" schema
  let contains ← keyword? fields "contains" schema
  let properties ← keyword? fields "properties" (entries? schema)
  let patterns ← keyword? fields "patternProperties" fun v => (entries? schema v).bind patterned?
  let additional ← keyword? fields "additionalProperties" schema
  let propertyNames ← keyword? fields "propertyNames" schema
  let dependencies ← keyword? fields "dependencies" (entries? (dependency? schema))
  some (itemRules items additionalItems ++ rulesOf (fun s => [.contains s]) contains
    ++ fieldRules properties patterns additional
    ++ rulesOf (fun s => [.propertyNames s]) propertyNames ++ rulesOf dependencyRules dependencies)

def joinRules? (schema : Json → Option Schema) (fields : List (String × Json)) :
    Option (List Rule) := do
  let _ ← keyword? fields "definitions" (entries? schema)
  let allOf ← keyword? fields "allOf" (schemaList? schema)
  let anyOf ← keyword? fields "anyOf" (schemaList? schema)
  let oneOf ← keyword? fields "oneOf" (schemaList? schema)
  let negated ← keyword? fields "not" schema
  let test ← keyword? fields "if" schema
  let consequent ← keyword? fields "then" schema
  let alternative ← keyword? fields "else" schema
  some (rulesOf (fun ss => [.allOf ss]) allOf ++ rulesOf (fun ss => [.anyOf ss]) anyOf
    ++ rulesOf (fun ss => [.oneOf ss]) oneOf ++ rulesOf (fun s => [.not s]) negated
    ++ rulesOf (fun t => [.conditional t consequent alternative]) test)

/-- A reference stands for itself; the rules beside it do not count. -/
def read : Nat → Json → Option Schema
  | 0, _ => none
  | depth + 1, j =>
    match j with
    | .bool b => some (.always b)
    | .obj fields => do
      let plain ← fields.mapM fun e => plainRules? e.1 e.2
      let parts ← partRules? (read depth) fields
      let joins ← joinRules? (read depth) fields
      match Dict.get? fields "$ref" with
      | some (.str target) => some (.reference target)
      | some _ => none
      | none => some (.rules (plain.flatten ++ contentRules fields ++ parts ++ joins))
    | _ => none

def ofJson? (j : Json) : Option Schema := read (j.size + 1) j

end Schema

end Stepwise
