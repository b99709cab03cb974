import Stepwise.Json.Parser
import Stepwise.Text.CharClass
import Stepwise.Text.Split

/-!
# Web addresses

Addresses of the web: their scheme, host and port, as far as it takes to tell whether a request can
be sent to them.
-/

namespace Stepwise.Web

set_option autoImplicit false

def isIpv4 (cs : List Char) : Bool :=
  let parts := Text.splitAt '.' cs
  parts.length = 4 && parts.all fun p =>
    !p.isEmpty && p.all Char.isDigit && p.length ≤ 3 && (p.length = 1 || p.head? ≠ some '0')
      && (Number.readDigits p).1 ≤ 255

def isIpv6Group (p : List Char) : Bool :=
  !p.isEmpty && p.length ≤ 4 && p.all fun c => (Json.hexValue? c).isSome

/-- The number of groups that a part of an address fills, if it is well formed. An address of the
older kind can stand last and fills two. -/
def ipv6Groups? (cs : List Char) : Option Nat :=
  if cs.isEmpty then some 0
  else
    let parts := Text.splitAt ':' cs
    match parts.getLast? with
    | none => none
    | some last =>
      if parts.all isIpv6Group then some parts.length
      else if parts.dropLast.all isIpv6Group ∧ isIpv4 last then some (parts.length + 1)
      else none

def splitDoubleColon : List Char → Option (List Char × List Char)
  | ':' :: ':' :: rest => some ([], rest)
  | c :: rest => (splitDoubleColon rest).map fun p => (c :: p.1, p.2)
  | [] => none

def isIpv6 (cs : List Char) : Bool :=
  match splitDoubleColon cs with
  | none => ipv6Groups? cs = some 8
  | some (front, back) =>
    match ipv6Groups? front, ipv6Groups? back with
    | some a, some b => a + b ≤ 7 && (front.isEmpty || !front.contains '.')
    | _, _ => false

def isSchemeChar (c : Char) : Bool := c.isAlphanum || c = '+' || c = '-' || c = '.'

/-- Leaves out what surrounds or interrupts an address without being part of it. -/
def clean (s : String) : List Char :=
  let isOuter := fun (c : Char) => c.toNat ≤ 32
  let cs := ((s.toList.dropWhile isOuter).reverse.dropWhile isOuter).reverse
  cs.filter fun c => c ≠ '\t' && c ≠ '\n' && c ≠ '\r'

def scheme? (cs : List Char) : Option (String × List Char) :=
  match cs with
  | c :: _ =>
    if c.isAlpha then
      match cs.dropWhile isSchemeChar with
      | ':' :: rest => some (String.ofList ((cs.takeWhile isSchemeChar).map Char.toLower), rest)
      | _ => none
    else none
  | [] => none

def isForbiddenInHost (c : Char) : Bool :=
  c.toNat ≤ 32 || c.toNat = 127 || "#/:<>?@[\\]^|%".toList.contains c

/-- The parts of a number that a host that looks like an address is made of. -/
def isHostNumber (p : List Char) : Bool :=
  match p with
  | '0' :: x :: rest =>
    if x = 'x' ∨ x = 'X' then rest.all fun c => (Json.hexValue? c).isSome else p.all Char.isDigit
  | _ => !p.isEmpty && p.all Char.isDigit

def hostNumber? (p : List Char) : Option Nat :=
  match p with
  | '0' :: x :: rest =>
    if x = 'x' ∨ x = 'X' then
      (rest.mapM Json.hexValue?).map fun ds => ds.foldl (fun n d => n * 16 + d) 0
    else if (x :: rest).all fun c => '0' ≤ c && c ≤ '7' then
      some ((x :: rest).foldl (fun n c => n * 8 + (c.toNat - 48)) 0)
    else none
  | _ => if p.isEmpty ∨ !p.all Char.isDigit then none else some (Number.readDigits p).1

/-- A host whose last part is a number is an address of at most four numbers. -/
def isNumericHost (parts : List (List Char)) : Bool :=
  let parts := if parts.getLast? = some [] ∧ 1 < parts.length then parts.dropLast else parts
  match parts.mapM hostNumber?, parts.length with
  | some ns, n =>
    n ≤ 4 && ns.dropLast.all (· ≤ 255) && (ns.getLast?.getD 0) < Nat.pow 256 (5 - n)
  | none, _ => false

def endsInNumber (parts : List (List Char)) : Bool :=
  let parts := if parts.getLast? = some [] ∧ 1 < parts.length then parts.dropLast else parts
  match parts.getLast? with
  | some p => isHostNumber p
  | none => false

def isHost (cs : List Char) : Bool :=
  match cs with
  | [] => false
  | '[' :: rest => rest.getLast? = some ']' && isIpv6 rest.dropLast
  | _ =>
    let parts := Text.splitAt '.' cs
    !cs.any isForbiddenInHost && (!endsInNumber parts || isNumericHost parts)

def isPort (cs : List Char) : Bool := cs.all Char.isDigit && (Number.readDigits cs).1 ≤ 65535

def splitPort (cs : List Char) : List Char × List Char :=
  match cs with
  | '[' :: _ =>
    let host := cs.takeWhile (· ≠ ']')
    match cs.dropWhile (· ≠ ']') with
    | _ :: ':' :: port => (host ++ [']'], port)
    | _ :: rest => (host ++ ']' :: rest, [])
    | [] => (host, [])
  | _ => (cs.takeWhile (· ≠ ':'), (cs.dropWhile (· ≠ ':')).drop 1)

def isAuthorityEnd (c : Char) : Bool := c = '/' || c = '\x5c' || c = '?' || c = '#'

def isAuthority (cs : List Char) : Bool :=
  let target := (cs.reverse.takeWhile (· ≠ '@')).reverse
  let (host, port) := splitPort target
  isHost host && isPort port

/-- Whether a request can be sent to an address. -/
def isRequestable (url : String) : Bool :=
  match scheme? (clean url) with
  | none => false
  | some (scheme, rest) =>
    (scheme = "http" || scheme = "https") &&
      isAuthority
        ((rest.dropWhile fun c => c = '/' || c = '\x5c').takeWhile fun c => !isAuthorityEnd c)

def isAbsolute (s : String) : Bool :=
  match scheme? (clean s) with
  | none => false
  | some (scheme, _) => if scheme = "http" ∨ scheme = "https" then isRequestable s else true

end Stepwise.Web
