import Stepwise.Handler.Input
import Stepwise.Text.UpperCase
import Stepwise.Web.Address
import Stepwise.Web.Token

/-!
# Requests over the web

A handler that sends a request over the web. A request is checked before anything is sent: its
method and the names of its headers are tokens, the values of its headers are without control
characters, and its address is one that a request can be sent to.
-/

namespace Stepwise.HttpCall

set_option autoImplicit false

def moduleId : String := "StdLib:HttpCall"

structure Message where
  method : String
  url : String
  headers : List (String × String)
  query : List (String × String)
  body : Option Json
  /-- An answer that reports a failure fails the step. -/
  failOnError : Bool
deriving DecidableEq

def isHeaderValue (s : String) : Bool :=
  s.toList.all fun c => c = '\t' || (0x20 ≤ c.toNat && c.toNat ≠ 0x7f)

def plainText : Json → String
  | .str s => s
  | v => v.render

def textEntries : Option Json → List (String × String)
  | some (.obj fields) => fields.map fun e => (e.1, plainText e.2)
  | _ => []

def Message.isSendable (m : Message) : Bool :=
  Web.isRequestable m.url && m.headers.all fun h => Web.isToken h.1.toList && isHeaderValue h.2

def message (input : Dict Json) : Except StepError Message := do
  let url ← input.requiredText "url" moduleId
  let method := Text.inCapitals (input.textOr "method" "GET")
  if !Web.isToken method.toList then throw (.permanent ("Invalid HTTP method: " ++ method) none)
  let m : Message := {
    method, url
    headers := textEntries (input.get? "headers")
    query := textEntries (input.get? "query")
    body := input.get? "body"
    failOnError := input.flagOr "failOnError" true }
  if m.isSendable then pure m
  else throw (.permanent ("Invalid HTTP request to " ++ url ++ ": builder error") none)

/-- Sends the message of an input where nobody answers. -/
def run (input : Dict Json) : Except StepError Json := do
  let m ← message input
  throw (.transient ("HTTP request to " ++ m.url ++ " failed: no answer") none)

end Stepwise.HttpCall
