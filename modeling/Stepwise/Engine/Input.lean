import Stepwise.Execution.Settings
import Stepwise.Expression.Template
import Stepwise.Flow.Step

/-!
# The input of a step

The defaults of the flow, under the configuration of the step, under its literals, under its mapped
values. A mapping that resolves to nothing adds nothing.
-/

namespace Stepwise

set_option autoImplicit false

def Json.itemText : Json → String
  | .str s => s
  | .null => ""
  | v => v.render

namespace SourceMapping

def formatted (m : SourceMapping) (r : Resolved) : Resolved :=
  match m.format, r with
  | .join, .value (.arr items) =>
    .value (.str ((m.separator.getD ",").intercalate (items.map Json.itemText)))
  | _, _ => r

end SourceMapping

namespace Input

def resolveMapping (s : Settings) (scope : Json) : InputMapping → EngineProgram Resolved
  | .template t => Template.render s.maxTemplateDepth.toNat scope t
  | .source m => do
    let r ← if Path.isQuery m.sourcePath then resolve m.sourcePath scope true
      else Template.renderText s.maxTemplateDepth.toNat m.sourcePath scope
    pure (m.formatted r)

def addMapped (s : Settings) (scope : Json) :
    List (String × InputMapping) → Dict Json → EngineProgram (Dict Json)
  | [], bag => pure bag
  | (name, m) :: rest, bag => do
    match ← resolveMapping s scope m with
    | .value v => addMapped s scope rest (bag.insert name v)
    | .undefined => addMapped s scope rest bag

/-- Literals under mapped values. -/
def bag (s : Settings) (mappings : Dict InputMapping) (literals : Dict Json) (scope : Json) :
    EngineProgram (Dict Json) :=
  addMapped s scope mappings literals

def ofStep (s : Settings) (step : Step) (defaults : Dict Json) (scope : Json) :
    EngineProgram (Dict Json) := do
  let mapped ← bag s step.inputMappings step.literals scope
  pure ((defaults.update step.customConfig).update mapped)

end Input

end Stepwise
