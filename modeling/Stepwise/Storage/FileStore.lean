import Stepwise.Storage.FileTree
import Stepwise.Storage.Location

/-!
# Objects as files

An object of a container has its path below a root folder. A file is written beside its place under
a longer name and moved there, so that no reader meets a half-written one.
-/

namespace Stepwise.FileStore

set_option autoImplicit false

def path (root : List String) (container key : String) : Except StoreError (List String) := do
  Location.check container key
  pure (((Location.keySegments key).map String.ofList).foldl Folder.join
    (Folder.join root container))

/-- How much longer the first name of a file is, in bytes. -/
def temporarySuffixBytes : Nat := 41

def refused : StoreError := .io "the file system refused the operation"

/-- Writes an object. Folders that were made on the way stay. -/
def write (root : List String) (container key text : String) (files : Folder) :
    Except StoreError Unit × Folder :=
  match path root container key with
  | .error e => (.error e, files)
  | .ok names =>
    let (files, made) := Folder.makeFolders names.dropLast files
    if !made ∨ Folder.maxNameBytes < (names.getLast?.getD "").utf8ByteSize +
      temporarySuffixBytes then
      (.error refused, files)
    else match Folder.putFile text names files with
      | some files => (.ok (), files)
      | none => (.error refused, files)

def read (root : List String) (container key : String) (files : Folder) :
    Except StoreError String :=
  match path root container key with
  | .error e => .error e
  | .ok names =>
    match Folder.readFile names files with
    | .ok text => .ok text
    | .error .missing => .error (.notFound container key)
    | .error .refused => .error refused

end Stepwise.FileStore
