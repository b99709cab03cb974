import Stepwise.Json.Basic
import Stepwise.Pattern.Basic

/-!
# Schemas

Schemas that say which documents are valid. A schema is a truth value, a reference to another
schema, or a list of rules, each of which speaks of documents of one kind and accepts all others.
-/

namespace Stepwise

set_option autoImplicit false

inductive TypeName where
  | null
  | boolean
  | integer
  | number
  | string
  | array
  | object
deriving DecidableEq, Repr

namespace TypeName

def names : List (String × TypeName) :=
  [("null", .null), ("boolean", .boolean), ("integer", .integer), ("number", .number),
   ("string", .string), ("array", .array), ("object", .object)]

/-- A double without fraction counts as an integer. -/
def holds : TypeName → Json → Bool
  | .null, .null => true
  | .boolean, .bool _ => true
  | .integer, .num n => n.isIntegral
  | .number, .num _ => true
  | .string, .str _ => true
  | .array, .arr _ => true
  | .object, .obj _ => true
  | _, _ => false

end TypeName

inductive BoundKind where
  | minimum
  | maximum
  | exclusiveMinimum
  | exclusiveMaximum
deriving DecidableEq, Repr

/-- What is counted: characters, items or fields. -/
inductive Counted where
  | length
  | items
  | properties
deriving DecidableEq, Repr

inductive Format where
  | date
  | dateTime
  | time
  | email
  | hostname
  | ipv4
  | ipv6
  | uri
  | uriReference
  | uriTemplate
  | jsonPointer
  | relativeJsonPointer
  | regex
deriving DecidableEq, Repr

mutual

inductive Schema where
  | always (holds : Bool)
  | reference (target : String)
  | rules (rules : List Rule)

inductive Rule where
  | type (names : List TypeName)
  | enum (values : List Json)
  | constant (value : Json)
  | bound (kind : BoundKind) (limit : Number)
  | multipleOf (divisor : Number)
  | atLeast (counted : Counted) (limit : Nat)
  | atMost (counted : Counted) (limit : Nat)
  | pattern (pattern : Pattern)
  | format (format : Format)
  /-- The text is base64, and what it stands for is JSON. -/
  | content (base64 json : Bool)
  | allItems (schema : Schema)
  | tuple (schemas : List Schema)
  /-- The items behind the first ones. -/
  | moreItems (after : Nat) (schema : Schema)
  | contains (schema : Schema)
  | uniqueItems
  | fields (properties : List (String × Schema)) (patterns : List (Pattern × Schema))
      (additional : Additional)
  /-- No field at all. -/
  | noFields
  | propertyNames (schema : Schema)
  | required (names : List String)
  /-- A field that asks for other fields. -/
  | dependentNames (name : String) (names : List String)
  /-- A field that asks for another schema. -/
  | dependentSchema (name : String) (schema : Schema)
  | allOf (schemas : List Schema)
  | anyOf (schemas : List Schema)
  | oneOf (schemas : List Schema)
  | not (schema : Schema)
  | conditional (test : Schema) (consequent alternative : Option Schema)

/-- What holds for fields that have no schema of their own. -/
inductive Additional where
  | allowed
  | refused
  | checked (schema : Schema)

end

end Stepwise
