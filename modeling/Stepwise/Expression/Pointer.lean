import Stepwise.Json.Text

/-!
# Pointers

Pointers to values that were too large to stay in a document. A pointer is itself a document: an
object with the one field `objectStoreRef`.
-/

namespace Stepwise

set_option autoImplicit false

/-- Where a large value is stored. -/
structure Pointer where
  container : String
  key : String
deriving DecidableEq, Repr

namespace Pointer

def toJson (p : Pointer) : Json :=
  .obj [("objectStoreRef", .obj [("container", .str p.container), ("key", .str p.key)])]

/-- Recognizes a pointer. An object with other fields beside the reference is none. -/
def ofJson? : Json → Option Pointer
  | .obj [("objectStoreRef", .obj fields)] =>
    match Dict.get? fields "container", Dict.get? fields "key" with
    | some (.str container), some (.str key) => some ⟨container, key⟩
    | _, _ => none
  | _ => none

@[simp] theorem ofJson?_toJson (p : Pointer) : ofJson? p.toJson = some p := rfl

end Pointer

end Stepwise
