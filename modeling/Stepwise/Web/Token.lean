/-!
# Tokens of web messages

Tokens: the words that the lines of a web message are made of.
-/

namespace Stepwise.Web

set_option autoImplicit false

def isTokenChar (c : Char) : Bool := c.isAlphanum || "!#$%&'*+-.^_\x60|~".toList.contains c

def isToken (cs : List Char) : Bool := !cs.isEmpty && cs.all isTokenChar

end Stepwise.Web
