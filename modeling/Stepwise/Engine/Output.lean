import Stepwise.Engine.Offload
import Stepwise.Expression.Resolve
import Stepwise.Text.Split

/-!
# The output of a step

The output of a step is written into the context through output mappings: each gives a destination
in the context and a source in the output.
-/

namespace Stepwise

set_option autoImplicit false

namespace Output

def objectFields : Json → Dict Json
  | .obj fields => fields
  | _ => []

/-- Writes a value at a path of names. What stands on the way and is no object gives way to one. -/
def setAt : List String → Json → Dict Json → Dict Json
  | [], _, d => d
  | [name], v, d => d.insert name v
  | name :: rest, v, d =>
    d.insert name (.obj (setAt rest v (objectFields ((d.get? name).getD .null))))

/-- The names of a destination, without a leading `$.`; a name is never empty. -/
def names? (destination : String) : Option (List String) :=
  let parts := Text.splitAt '.' (Offload.plainDestination destination.toList)
  if parts.any List.isEmpty then none else some (parts.map String.ofList)

/-- The value that a mapping takes from the output. Pointers in the output stay pointers. -/
def source (output : Json) (mapping : Json) : EngineProgram Resolved :=
  match mapping with
  | .str path => if Path.isQuery path then resolve path output false else pure (.value mapping)
  | _ => pure (.value mapping)

/-- What writing has led to: the context with all that was written, and what stopped the writing. -/
structure Written where
  context : Dict Json
  failure : Option EngineError
deriving DecidableEq

def writeField (s : Settings) (executionId name : String) (v : Json) (context : Dict Json) :
    Program Written := do
  match ← (offload s executionId name v).run with
  | .ok v => pure ⟨context.insert name v, none⟩
  | .error e => pure ⟨context, some e⟩

def writeFields (s : Settings) (executionId : String) :
    List (String × Json) → Dict Json → Program Written
  | [], context => pure ⟨context, none⟩
  | (name, v) :: rest, context => do
    let w ← writeField s executionId name v context
    match w.failure with
    | none => writeFields s executionId rest w.context
    | some _ => pure w

def writePath (s : Settings) (executionId destination : String) (v : Json) (context : Dict Json) :
    Program Written := do
  match ← (offload s executionId destination v).run with
  | .error e => pure ⟨context, some e⟩
  | .ok v =>
    match names? destination with
    | some names => pure ⟨setAt names v context, none⟩
    | none => pure ⟨context,
        some (.validation ("invalid output mapping destination: " ++ destination))⟩

/-- Writes one value at a destination. At `$` the fields of an object are written at the top, and
anything else is left out. -/
def writeValue (s : Settings) (executionId destination : String) (v : Json) (context : Dict Json) :
    Program Written :=
  if destination = "$" then
    match v with
    | .obj fields => writeFields s executionId fields context
    | _ => pure ⟨context, none⟩
  else writePath s executionId destination v context

/-- Writes an output through mappings, in order. A source that is not there is left out. -/
def write (s : Settings) (executionId : String) (output : Json) :
    List (String × Json) → Dict Json → Program Written
  | [], context => pure ⟨context, none⟩
  | (destination, mapping) :: rest, context => do
    match ← (source output mapping).run with
    | .error e => pure ⟨context, some e⟩
    | .ok .undefined => write s executionId output rest context
    | .ok (.value v) => do
      let w ← writeValue s executionId destination v context
      match w.failure with
      | none => write s executionId output rest w.context
      | some _ => pure w

def apply (s : Settings) (executionId : String) (mappings : Dict Json) (output : Json)
    (context : Dict Json) : EngineProgram (Dict Json) :=
  .mk do
    let w ← write s executionId output mappings context
    pure (match w.failure with
      | none => .ok w.context
      | some e => .error e)

end Output

end Stepwise
