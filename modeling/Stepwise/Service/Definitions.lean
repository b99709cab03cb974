import Stepwise.Flow.Codec
import Stepwise.Flow.Validity
import Stepwise.Execution.Codec
import Stepwise.Json.Parser
import Stepwise.Service.Failure
import Stepwise.Storage.Catalog
import Stepwise.Storage.FileTree

/-!
# Definitions in files

A folder of flows holds one flow a file and is accepted as a whole or not at all; a file of
registrations holds a list of them. What the folder answers depends on what stands in it, not on the
order in which it is listed.
-/

namespace Stepwise

set_option autoImplicit false

inductive DefinitionFormat where
  | json
  | yaml
deriving DecidableEq, Repr

namespace DefinitionFormat

/-- What follows the last dot of a file's name, unless the name begins with that dot. -/
def extension? (name : String) : Option (List Char) :=
  match (Text.splitAt '.' name.toList).reverse with
  | [] => none
  | [_] => none
  | [_, []] => none
  | last :: _ => some last

def ofFileName? (name : String) : Option DefinitionFormat :=
  match (extension? name).map fun cs => String.ofList (cs.map Char.toLower) with
  | some "json" => some .json
  | some "yaml" => some .yaml
  | some "yml" => some .yaml
  | _ => none

def report : DefinitionFormat → String
  | .json => "JSON error: not a definition"
  | .yaml => "YAML error: not a definition"

end DefinitionFormat

/-- A reader of YAML: what a text holds when a definition is expected there. -/
structure YamlReader where
  flow? : String → Option Flow
  registrations? : String → Option (List HandlerRegistration)

namespace YamlReader

/-- Reads of YAML the part that is also JSON. -/
def ofJson : YamlReader where
  flow? text := (Json.parseRaw text).bind Flow.ofJson?
  registrations? text := (Json.parseRaw text).bind (Json.list? HandlerRegistration.ofJson?)

end YamlReader

namespace Definitions

/-- What the text of the file at a path holds, if it can be read. -/
def readOr {α : Type} (path : String) (format : DefinitionFormat) : Option α → Except ServiceError α
  | some a => .ok a
  | none => .error (.malformed (path ++ ": " ++ (ServiceError.malformed format.report).message))

structure Source where
  name : String
  format : DefinitionFormat
  text : String
deriving DecidableEq

def source? (entry : String × FileNode) : Option Source :=
  match entry.2, DefinitionFormat.ofFileName? entry.1 with
  | .file text, some format => some ⟨entry.1, format, text⟩
  | _, _ => none

def Source.isBefore (a b : Source) : Bool := decide (a.name < b.name) || a.name == b.name

/-- The files of definitions among the entries of a folder, in the order of their names. -/
def sources (entries : List (String × FileNode)) : List Source :=
  (entries.filterMap source?).mergeSort Source.isBefore

def entryPath (folder name : String) : String :=
  if folder.toList.getLast? = some '/' then folder ++ name else folder ++ "/" ++ name

section Reading

variable (yaml : YamlReader)

def flowOf? : DefinitionFormat → String → Option Flow
  | .json, text => (Json.parseRaw text).bind Flow.ofJson?
  | .yaml, text => yaml.flow? text

def registrationsOf? : DefinitionFormat → String → Option (List HandlerRegistration)
  | .json, text => (Json.parseRaw text).bind (Json.list? HandlerRegistration.ofJson?)
  | .yaml, text => yaml.registrations? text

def Source.flow (folder : String) (s : Source) : Except ServiceError Flow := do
  let path := entryPath folder s.name
  let flow ← readOr path s.format (flowOf? yaml s.format s.text)
  match flow.problems with
  | [] => pure flow
  | problems =>
    throw (.invalid (path ++ ": " ++ (EngineError.validation (flow.report problems)).message))

/-- The flows of files, none of them with the id and version of an earlier one. -/
def collect (folder : String) : List Flow → List Source → Except ServiceError (List Flow)
  | _, [] => .ok []
  | earlier, s :: rest => do
    let flow ← s.flow yaml folder
    if earlier.any fun f => f.id = flow.id && f.version = flow.version then
      throw (.invalid (entryPath folder s.name ++ ": duplicate flow " ++ flow.title))
    let more ← collect folder (flow :: earlier) rest
    pure (flow :: more)

def flowsOf (folder : String) (entries : List (String × FileNode)) :
    Except ServiceError (List Flow) :=
  collect yaml folder [] (sources entries)

def flows (path : String) (files : Folder) : Except ServiceError (List Flow) :=
  match Folder.findPath path files with
  | .ok (.folder entries) => flowsOf yaml path entries
  | _ => .error (.configuration ("cannot read flows directory " ++ path ++ ": not a folder"))

def isComplete (r : HandlerRegistration) : Bool := !r.moduleId.isEmpty && !r.endpoint.isEmpty

def registrations (path : String) (files : Folder) :
    Except ServiceError (List HandlerRegistration) :=
  let names := Folder.segments path
  match names.getLast?.bind DefinitionFormat.ofFileName? with
  | none => .error (.malformed (path ++ ": unsupported file extension"))
  | some format =>
    match Folder.readFile names files with
    | .error _ => .error (.internal "IO error: the file cannot be read")
    | .ok text => do
      let all ← readOr path format (registrationsOf? yaml format text)
      if all.all isComplete then pure all
      else throw (.invalid
        (path ++ ": handler registrations need a moduleIdentifier and an endpoint"))

/-- What stands at a path that may be missing. -/
def atPath {α : Type} (load : String → Folder → Except ServiceError (List α)) (files : Folder) :
    Option String → Except ServiceError (List α)
  | none => .ok []
  | some path => load path files

def catalog (flowsPath registrationsPath : Option String) (files : Folder) :
    Except ServiceError Catalog := do
  let fs ← atPath (flows yaml) files flowsPath
  let rs ← atPath (registrations yaml) files registrationsPath
  pure (.ofLists fs rs)

end Reading

end Definitions

end Stepwise
