import Stepwise.Json.Basic
import Stepwise.Text.Hex

/-!
# The compact text of a document

The compact text of a JSON document: no blanks, fields in order, and in strings only the quote, the
backslash and the control characters below a blank are escaped.
-/

namespace Stepwise.Json

set_option autoImplicit false

def escape? (c : Char) : Option String :=
  if c = '\x22' then some "\\\""
  else if c = '\x5c' then some "\\\\"
  else if c = '\x08' then some "\\b"
  else if c = '\t' then some "\\t"
  else if c = '\n' then some "\\n"
  else if c = '\x0c' then some "\\f"
  else if c = '\r' then some "\\r"
  else if c.toNat < 32 then
    some ("\\u00" ++ String.ofList [Text.hexDigit (c.toNat / 16), Text.hexDigit (c.toNat % 16)])
  else none

def writeChar (out : String) (c : Char) : String :=
  match escape? c with
  | some e => out ++ e
  | none => out.push c

def writeString (out : String) (s : String) : String :=
  (s.toList.foldl writeChar (out.push '\x22')).push '\x22'

mutual

/-- Writes a document behind the text written so far. -/
def write (out : String) : Json → String
  | .null => out ++ "null"
  | .bool true => out ++ "true"
  | .bool false => out ++ "false"
  | .num n => out ++ n.text
  | .str s => writeString out s
  | .arr items => (writeItems (out.push '[') true items).push ']'
  | .obj fields => (writeFields (out.push '\x7b') true fields).push '\x7d'

def writeItems (out : String) (first : Bool) : List Json → String
  | [] => out
  | v :: rest => writeItems (write (if first then out else out.push ',') v) false rest

def writeFields (out : String) (first : Bool) : List (String × Json) → String
  | [] => out
  | (k, v) :: rest =>
    writeFields (write ((writeString (if first then out else out.push ',') k).push ':') v) false
      rest

end

def render (j : Json) : String := write "" j

/-- The number of bytes of the compact text. -/
def size (j : Json) : Nat := j.render.utf8ByteSize

end Stepwise.Json
