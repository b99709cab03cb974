import Stepwise.Text.CharClass
import Stepwise.Text.Hex

/-!
# Quoted text

Quoted text in the details of a failure: quotes and backslashes are escaped, and characters that
cannot be shown by themselves are given by number.
-/

namespace Stepwise.Text

set_option autoImplicit false

def quoteChar (c : Char) : String :=
  if c = '\x22' then "\\\""
  else if c = '\x5c' then "\\\\"
  else if c = '\n' then "\\n"
  else if c = '\r' then "\\r"
  else if c = '\t' then "\\t"
  else if c.toNat = 0 then "\\0"
  else if isPlain c then String.singleton c
  else "\\u\x7b" ++ hexNumber c.toNat ++ "\x7d"

def quoted (s : String) : String := "\"" ++ String.join (s.toList.map quoteChar) ++ "\""

end Stepwise.Text
