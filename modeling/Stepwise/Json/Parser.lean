import Stepwise.Json.Basic

/-!
# Reading JSON

Reading a JSON text. Arrays and objects may stand 127 deep. `parseRaw` keeps the fields of an object
as they stand in the text; `parse` puts them in order.
-/

namespace Stepwise.Json

set_option autoImplicit false

def isBlank (c : Char) : Bool := c = ' ' || c = '\n' || c = '\t' || c = '\r'

def skipBlanks (cs : List Char) : List Char := cs.dropWhile isBlank

def hexValue? (c : Char) : Option Nat :=
  if '0' ≤ c ∧ c ≤ '9' then some (c.toNat - 48)
  else if 'a' ≤ c ∧ c ≤ 'f' then some (c.toNat - 87)
  else if 'A' ≤ c ∧ c ≤ 'F' then some (c.toNat - 55)
  else none

def readUnit : List Char → Option (Nat × List Char)
  | a :: b :: c :: d :: rest => do
    let a ← hexValue? a
    let b ← hexValue? b
    let c ← hexValue? c
    let d ← hexValue? d
    some (((a * 16 + b) * 16 + c) * 16 + d, rest)
  | _ => none

/-- The character of an escape, after its backslash. A surrogate must be the first half of a pair
that is escaped in full. -/
def readEscape : List Char → Option (Char × List Char)
  | [] => none
  | c :: rest =>
    if c = '\x22' ∨ c = '\x5c' ∨ c = '/' then some (c, rest)
    else if c = 'b' then some ('\x08', rest)
    else if c = 'f' then some ('\x0c', rest)
    else if c = 'n' then some ('\n', rest)
    else if c = 'r' then some ('\r', rest)
    else if c = 't' then some ('\t', rest)
    else if c = 'u' then
      match readUnit rest with
      | none => none
      | some (u, rest) =>
        if u < 0xD800 ∨ 0xDFFF < u then some (Char.ofNat u, rest)
        else if 0xDC00 ≤ u then none
        else match rest with
          | '\x5c' :: 'u' :: more =>
            match readUnit more with
            | none => none
            | some (v, more) =>
              if 0xDC00 ≤ v ∧ v ≤ 0xDFFF then
                some (Char.ofNat (0x10000 + (u - 0xD800) * 0x400 + (v - 0xDC00)), more)
              else none
          | _ => none
    else none

/-- Reads a string after its opening quote; what was read so far stands in reverse. The first
argument bounds the number of characters. -/
def readString : Nat → List Char → List Char → Option (String × List Char)
  | 0, _, _ => none
  | _, _, [] => none
  | steps + 1, read, c :: rest =>
    if c = '\x22' then some (String.ofList read.reverse, rest)
    else if c = '\x5c' then
      match readEscape rest with
      | some (d, rest) => readString steps (d :: read) rest
      | none => none
    else if c.toNat < 32 then none
    else readString steps (c :: read) rest

def maxDepth : Nat := 127

mutual

/-- Reads one document from the start of the text, blanks before it included. The first argument
bounds the steps, the second is the depth that is left. -/
def readValue : Nat → Nat → List Char → Option (Json × List Char)
  | 0, _, _ => none
  | steps + 1, depth, cs =>
    match skipBlanks cs with
    | 'n' :: 'u' :: 'l' :: 'l' :: rest => some (.null, rest)
    | 't' :: 'r' :: 'u' :: 'e' :: rest => some (.bool true, rest)
    | 'f' :: 'a' :: 'l' :: 's' :: 'e' :: rest => some (.bool false, rest)
    | '\x22' :: rest => (readString (steps + 1) [] rest).map fun p => (.str p.1, p.2)
    | '[' :: rest =>
      match depth with
      | 0 => none
      | depth + 1 =>
        match skipBlanks rest with
        | ']' :: rest => some (.arr [], rest)
        | rest => (readItems steps depth [] rest).map fun p => (.arr p.1, p.2)
    | '\x7b' :: rest =>
      match depth with
      | 0 => none
      | depth + 1 =>
        match skipBlanks rest with
        | '\x7d' :: rest => some (.obj [], rest)
        | rest => (readFields steps depth [] rest).map fun p => (.obj p.1, p.2)
    | rest => (Number.read rest).map fun p => (.num p.1, p.2)

def readItems : Nat → Nat → List Json → List Char → Option (List Json × List Char)
  | 0, _, _, _ => none
  | steps + 1, depth, read, cs =>
    match readValue steps depth cs with
    | none => none
    | some (v, rest) =>
      match skipBlanks rest with
      | ',' :: rest => readItems steps depth (v :: read) rest
      | ']' :: rest => some ((v :: read).reverse, rest)
      | _ => none

def readFields : Nat → Nat → List (String × Json) → List Char →
    Option (List (String × Json) × List Char)
  | 0, _, _, _ => none
  | steps + 1, depth, read, cs =>
    match skipBlanks cs with
    | '\x22' :: rest =>
      match readString (steps + 1) [] rest with
      | none => none
      | some (k, rest) =>
        match skipBlanks rest with
        | ':' :: rest =>
          match readValue steps depth rest with
          | none => none
          | some (v, rest) =>
            match skipBlanks rest with
            | ',' :: rest => readFields steps depth ((k, v) :: read) rest
            | '\x7d' :: rest => some (((k, v) :: read).reverse, rest)
            | _ => none
        | _ => none
    | _ => none

end

def parseFront (text : String) : Option (Json × List Char) :=
  let cs := text.toList
  readValue (2 * cs.length + 2) maxDepth cs

/-- Reads a text that holds one document, and keeps the fields of objects as they stand. -/
def parseRaw (text : String) : Option Json :=
  match parseFront text with
  | some (j, rest) => if (skipBlanks rest).isEmpty then some j else none
  | none => none

def parse (text : String) : Option Json := (parseRaw text).map normalize

end Stepwise.Json
