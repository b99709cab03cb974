import Stepwise.Pattern.Parser
import Stepwise.Schema.Basic
import Stepwise.Text.Split
import Stepwise.Time.Instant
import Stepwise.Web.Address

/-!
# Formats of texts

Checks of the formats of texts.
-/

namespace Stepwise.Format

set_option autoImplicit false

def names : List (String × Format) :=
  [("date", .date), ("date-time", .dateTime), ("time", .time), ("email", .email),
   ("idn-email", .email), ("hostname", .hostname), ("ipv4", .ipv4), ("ipv6", .ipv6), ("uri", .uri),
   ("iri", .uri), ("uri-reference", .uriReference), ("iri-reference", .uriReference),
   ("uri-template", .uriTemplate), ("json-pointer", .jsonPointer),
   ("relative-json-pointer", .relativeJsonPointer), ("regex", .regex)]

def fitsPattern (pattern s : String) : Bool :=
  ((Pattern.ofText? pattern).map fun p => p.occursIn s).getD false

def datePattern : String := "^[0-9]\x7b4\x7d-[0-9]\x7b2\x7d-[0-9]\x7b2\x7d\\z"

def timePattern : String :=
  "^([01][0-9]|2[0-3]):([0-5][0-9]):([0-5][0-9])"
    ++ "(\\.[0-9]\x7b6\x7d)?(([Zz])|([+|\\-]([01][0-9]|2[0-3]):[0-5][0-9]))\\z"

def dateTimePattern : String :=
  "^[0-9]\x7b4\x7d-[0-9]\x7b2\x7d-[0-9]\x7b2\x7d"
    ++ "[Tt][0-9]\x7b2\x7d:[0-9]\x7b2\x7d:[0-9]\x7b2\x7d"
    ++ "(\\.[0-9]+)?([Zz]|[+\\-][0-9]\x7b2\x7d:[0-9]\x7b2\x7d)\\z"

def uriReferencePattern : String := "^(\\w+:(/?/?))?[^#\\\\\\s]*(#[^\\\\\\s]*)?\\z"

def jsonPointerPattern : String := "^(/(([^/~])|(~[01]))*)*\\z"

def relativeJsonPointerPattern : String :=
  "^(?:0|[1-9][0-9]*)(?:#|(?:/(?:[^~/]|~0|~1)*)*)\\z"

def uriTemplatePattern : String :=
  "^(?:(?:[^\\x00-\\x20\"'<>%\\\\^\x60\x7b|\x7d]|%[0-9a-f]\x7b2\x7d)"
    ++ "|\\\x7b[+#./;?&=,!@|]?(?:[a-z0-9_]|%[0-9a-f]\x7b2\x7d)+"
    ++ "(?::[1-9][0-9]\x7b0,3\x7d|\\*)?"
    ++ "(?:,(?:[a-z0-9_]|%[0-9a-f]\x7b2\x7d)+(?::[1-9][0-9]\x7b0,3\x7d|\\*)?)*\x7d)*\\z"

def isDate (s : String) : Bool :=
  fitsPattern datePattern s && (Instant.ofText? (s ++ "T00:00:00Z")).isSome

def isDateTime (s : String) : Bool := fitsPattern dateTimePattern s && (Instant.ofText? s).isSome

def isHostname (s : String) : Bool :=
  let cs := s.toList
  !cs.isEmpty && cs.head? ≠ some '-' && cs.getLast? ≠ some '-' && cs.length ≤ 255
    && cs.all (fun c => Text.isAlphanumeric c || c = '-' || c = '.')
    && (Text.splitAt '.' cs).all fun part => part.length ≤ 63

def holds (f : Format) (s : String) : Bool :=
  match f with
  | .date => isDate s
  | .dateTime => isDateTime s
  | .time => fitsPattern timePattern s
  | .email => s.toList.contains '@'
  | .hostname => isHostname s
  | .ipv4 => Web.isIpv4 s.toList
  | .ipv6 => Web.isIpv6 s.toList
  | .uri => Web.isAbsolute s
  | .uriReference => fitsPattern uriReferencePattern s
  | .uriTemplate => fitsPattern uriTemplatePattern s
  | .jsonPointer => fitsPattern jsonPointerPattern s
  | .relativeJsonPointer => fitsPattern relativeJsonPointerPattern s
  | .regex => (Pattern.ofText? s).isSome

end Stepwise.Format
