import Stepwise.Decimal.Shortest

/-!
# Numbers

Numbers of a JSON document: exact integers of up to 64 bits, and doubles for everything else.
Reading collects a significand of 64 bits, leaves out the digits that do not fit, and scales the
significand by powers of ten.
-/

namespace Stepwise

set_option autoImplicit false

inductive Number where
  | int (value : Int)
  | double (value : Float)
deriving DecidableEq

namespace Number

def toFloat : Number → Float
  | .int n => Float.ofInt n
  | .double x => x

/-- The exact value of a number as a fraction. A double that is no number counts as zero. -/
def fraction : Number → Int × Nat
  | .int n => (n, 1)
  | .double x =>
    match Decimal.Binary.ofFloat? x with
    | none => (0, 1)
    | some (negative, b) =>
      let top := b.mantissa * Nat.pow 2 b.exponent.toNat
      (if negative then -(top : Int) else top, Nat.pow 2 (-b.exponent).toNat)

def exactLe (a b : Number) : Bool :=
  let (p, q) := a.fraction
  let (r, s) := b.fraction
  p * s ≤ r * q

def isIntegral (n : Number) : Bool :=
  let (p, q) := n.fraction
  p % q = 0

/-- An integer and a double are never the same number; doubles are compared as doubles. -/
def same : Number → Number → Bool
  | .int a, .int b => a == b
  | .double a, .double b => a == b
  | _, _ => false

/-- Doubles from `0.00001` up to, and not including, `1e+16` are written without exponent. -/
def style : Decimal.Style := ⟨-5, 15⟩

def text : Number → String
  | .int n => toString n
  | .double x =>
    match Decimal.shortest? x with
    | none => "null"
    | some (negative, d) => (if negative then "-" else "") ++ Decimal.write style d

def significandLimit : Nat := UInt64.size - 1

def digitValue (c : Char) : Nat := c.toNat - '0'.toNat

/-- Reads the digits of a whole part. Answers the significand, the number of digits left out
because the significand was full, and the rest of the text. -/
def readWhole : Nat → List Char → Nat × Nat × List Char
  | n, [] => (n, 0, [])
  | n, c :: rest =>
    if c.isDigit then
      if n * 10 + digitValue c ≤ significandLimit then readWhole (n * 10 + digitValue c) rest
      else (n, ((c :: rest).takeWhile Char.isDigit).length, (c :: rest).dropWhile Char.isDigit)
    else (n, 0, c :: rest)

def readFraction : Nat → Nat → List Char → Nat × Nat × List Char
  | n, taken, [] => (n, taken, [])
  | n, taken, c :: rest =>
    if c.isDigit then
      if n * 10 + digitValue c ≤ significandLimit then
        readFraction (n * 10 + digitValue c) (taken + 1) rest
      else (n, taken, (c :: rest).dropWhile Char.isDigit)
    else (n, taken, c :: rest)

def readDigits (cs : List Char) : Nat × List Char :=
  ((cs.takeWhile Char.isDigit).foldl (fun n c => n * 10 + digitValue c) 0,
  cs.dropWhile Char.isDigit)

def powerOfTen (e : Nat) : Float := Float.ofScientific 1 false e

/-- Divides by a power of ten, by at most `10 ^ 308` at a time. -/
def scaleDown (x : Float) (e : Nat) : Float :=
  if e ≤ 308 then x / powerOfTen e
  else if x == 0.0 then x
  else scaleDown (x / powerOfTen 308) (e - 308)
termination_by e

def scale? (n : Nat) (e : Int) : Option Float :=
  let x := Float.ofNat n
  if e < 0 then some (scaleDown x e.natAbs)
  else if e ≤ 308 then
    let y := x * powerOfTen e.toNat
    if y.isInf then none else some y
  else if n = 0 then some x
  else none

def signed (negative : Bool) (x : Float) : Float := if negative then -x else x

def readExponent (negative : Bool) (n : Nat) (e : Int) (cs : List Char) :
    Option (Number × List Char) :=
  let finish := fun (e : Int) (rest : List Char) =>
    (scale? n e).map fun x => (Number.double (signed negative x), rest)
  match cs with
  | c :: rest =>
    if c = 'e' ∨ c = 'E' then
      let (down, rest) := match rest with
        | '-' :: r => (true, r)
        | '+' :: r => (false, r)
        | r => (false, r)
      match rest with
      | d :: _ =>
        if d.isDigit then
          let (k, rest) := readDigits rest
          if k < 0x80000000 then finish (if down then e - k else e + k) rest
          else if n ≠ 0 ∧ ¬ down then none
          else some (.double (signed negative 0.0), rest)
        else none
      | [] => none
    else finish e cs
  | [] => finish e []

/-- An integer that fits in 64 bits stays exact, except that `-0` is a double. -/
def ofInteger (negative : Bool) (n : Nat) : Number :=
  if negative then
    if n = 0 ∨ 0x8000000000000000 < n then .double (signed true (Float.ofNat n))
    else .int (-(n : Int))
  else .int n

def readTail (negative : Bool) (n dropped : Nat) (cs : List Char) : Option (Number × List Char) :=
  match cs with
  | '.' :: rest =>
    match rest with
    | d :: _ =>
      if d.isDigit then
        let (n, taken, rest) := readFraction n 0 rest
        readExponent negative n ((dropped : Int) - taken) rest
      else none
    | [] => none
  | 'e' :: _ => readExponent negative n dropped cs
  | 'E' :: _ => readExponent negative n dropped cs
  | _ => if dropped = 0 then some (ofInteger negative n, cs) else readExponent negative n dropped cs

/-- Reads a number from the start of the text: no leading zeros, a digit on either side of the
point, and a digit in the exponent. -/
def read (cs : List Char) : Option (Number × List Char) :=
  let (negative, cs) := match cs with
    | '-' :: rest => (true, rest)
    | _ => (false, cs)
  match cs with
  | '0' :: rest =>
    match rest with
    | d :: _ => if d.isDigit then none else readTail negative 0 0 rest
    | [] => readTail negative 0 0 []
  | c :: rest =>
    if c.isDigit then
      let (n, dropped, rest) := readWhole 0 (c :: rest)
      readTail negative n dropped rest
    else none
  | [] => none

end Number

end Stepwise
