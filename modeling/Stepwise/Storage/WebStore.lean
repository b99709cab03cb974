import Stepwise.Storage.Location

/-!
# Objects behind a web service

Objects behind an HTTP service: an object of a container has its address below a base address.
-/

namespace Stepwise

set_option autoImplicit false

structure WebStore where
  baseUrl : String
deriving DecidableEq, Repr

namespace WebStore

def ofUrl? (url : String) : Except StoreError WebStore :=
  let base := String.ofList (url.toList.reverse.dropWhile (· = '/')).reverse
  if base.isEmpty then .error (.configuration "object store base URL is empty") else .ok ⟨base⟩

/-- The address of an object. -/
def objectUrl (s : WebStore) (container key : String) : Except StoreError String := do
  Location.check container key
  pure (s.baseUrl ++ "/" ++ container ++ "/" ++ key)

end WebStore

end Stepwise
