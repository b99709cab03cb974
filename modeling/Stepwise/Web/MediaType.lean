import Stepwise.Text.CharClass
import Stepwise.Text.Split
import Stepwise.Web.Token

/-!
# Media types

Media types, as far as it takes to tell whether one announces JSON.
-/

namespace Stepwise.Web

set_option autoImplicit false

def isParameter (cs : List Char) : Bool :=
  let value := (cs.dropWhile (· ≠ '=')).drop 1
  isToken (cs.takeWhile (· ≠ '='))
    && (isToken value ||
      (value.head? = some '\x22' && value.getLast? = some '\x22' && 2 ≤ value.length))

def splitSuffix (cs : List Char) : List Char × Option (List Char) :=
  match (cs.reverse.dropWhile (· ≠ '+')).reverse.dropLast with
  | [] => (cs, none)
  | front => (front, some (cs.reverse.takeWhile (· ≠ '+')).reverse)

def isJsonName (cs : List Char) : Bool := cs.map Char.toLower = "json".toList

/-- Whether a media type is JSON, or a format that is written as JSON. -/
def isJsonType (s : String) : Bool :=
  let parts := Text.splitAt ';' s.toList
  let essence := parts.headD []
  let parameters := ((parts.drop 1).map Text.trimStart).filter (!·.isEmpty)
  let (name, suffix) := splitSuffix ((essence.dropWhile (· ≠ '/')).drop 1)
  (essence.takeWhile (· ≠ '/')).map Char.toLower = "application".toList
    && isToken name && suffix.all isToken && (isJsonName name || suffix.any isJsonName)
    && parameters.all isParameter

end Stepwise.Web
