import Stepwise.Dict
import Stepwise.Text.Split

/-!
# Files and folders

A tree of files and folders, and the rules of a file system on it: a name has at most 255 bytes, a
path does not lead through a file, and a file does not take the place of a folder.
-/

namespace Stepwise

set_option autoImplicit false

inductive FileNode where
  | file (text : String)
  | folder (entries : List (String × FileNode))

abbrev Folder := Dict FileNode

/-- Why a path leads to no file. -/
inductive FileFailure where
  | missing
  | refused
deriving DecidableEq, Repr

namespace Folder

def maxNameBytes : Nat := 255

def isNameTooLong (name : String) : Bool := maxNameBytes < name.utf8ByteSize

def segments (path : String) : List String :=
  ((Text.splitAt '/' path.toList).filter fun p => !p.isEmpty && p ≠ ['.']).map String.ofList

/-- Goes on along a path. A path that begins with a slash starts anew. -/
def join (path : List String) (more : String) : List String :=
  if more.toList.head? = some '/' then segments more else path ++ segments more

def find : List String → Folder → Except FileFailure FileNode
  | [], entries => .ok (.folder entries)
  | name :: rest, entries =>
    if isNameTooLong name then .error .refused
    else match Dict.get? entries name with
      | none => .error .missing
      | some (.folder inner) => find rest inner
      | some (.file text) => if rest.isEmpty then .ok (.file text) else .error .refused

def findPath (path : String) (entries : Folder) : Except FileFailure FileNode :=
  if path.isEmpty then .error .missing else find (segments path) entries

def readFile (path : List String) (entries : Folder) : Except FileFailure String :=
  match find path entries with
  | .ok (.file text) => .ok text
  | .ok (.folder _) => .error .refused
  | .error e => .error e

def makeFolders : List String → Folder → Folder × Bool
  | [], entries => (entries, true)
  | name :: rest, entries =>
    if isNameTooLong name then (entries, false)
    else match Dict.get? entries name with
      | some (.file _) => (entries, false)
      | some (.folder inner) =>
        let (inner, made) := makeFolders rest inner
        (Dict.insert entries name (.folder inner), made)
      | none =>
        let (inner, made) := makeFolders rest []
        (Dict.insert entries name (.folder inner), made)

/-- Puts a file at a path whose folders are there. -/
def putFile (text : String) : List String → Folder → Option Folder
  | [], _ => none
  | [name], entries =>
    match Dict.get? entries name with
    | some (.folder _) => none
    | _ => some (Dict.insert entries name (.file text))
  | name :: rest, entries =>
    match Dict.get? entries name with
    | some (.folder inner) =>
      (putFile text rest inner).map fun inner => Dict.insert entries name (.folder inner)
    | _ => none

mutual

/-- The paths of the files below a node, behind the path of the node itself. -/
def nodePaths (path : String) : FileNode → List String
  | .file _ => [path]
  | .folder entries => entryPaths (path ++ "/") entries

def entryPaths (start : String) : List (String × FileNode) → List String
  | [] => []
  | (name, node) :: rest => nodePaths (start ++ name) node ++ entryPaths start rest

end

def paths (entries : Folder) : List String :=
  (entryPaths "" entries).mergeSort fun a b => decide (a < b) || a == b

end Folder

end Stepwise
