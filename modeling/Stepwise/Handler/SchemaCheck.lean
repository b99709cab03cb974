import Stepwise.Handler.Input
import Stepwise.Schema.Violation

/-!
# Checking data against a schema

A handler that checks data against a schema. Invalid data fails the step, unless the input says that
the violations are the output.
-/

namespace Stepwise.SchemaCheck

set_option autoImplicit false

def moduleId : String := "StdLib:JsonSchemaValidator"

def run (input : Dict Json) : Except StepError Json :=
  match input.get? "schema" with
  | none => .error (.permanent (moduleId ++ " requires a 'schema' input") none)
  | some schema =>
    let data := (input.get? "data").getD .null
    match Schema.violations? schema data with
    | none => .error (.permanent "Invalid JSON schema: a keyword is not well formed" none)
    | some [] => .ok (.object [("valid", .bool true), ("data", data)])
    | some violations =>
      let listed := Json.arr (violations.map Violation.toJson)
      if input.flagOr "failOnInvalid" true then
        .error (.permanent
          ("Data failed schema validation with " ++ toString violations.length ++ " error(s)")
          (some (.object [("validationErrors", listed)])))
      else .ok (.object [("valid", .bool false), ("validationErrors", listed)])

end Stepwise.SchemaCheck
