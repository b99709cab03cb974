import Stepwise.Json.Number

/-!
# Texts that count as numbers

Texts that count as numbers in a comparison: decimal numbers with an optional sign, point and
exponent, and the words for infinity and for no number, in letters of either case.
-/

namespace Stepwise.RealText

set_option autoImplicit false

def infinity : Float := 1.0 / 0.0

def nan : Float := 0.0 / 0.0

/-- The double nearest to `n * 10 ^ e`, where `n` has at most `digits` digits. Exponents far outside
of the doubles need not be computed. -/
def scaled (n digits : Nat) (e : Int) : Float :=
  if n = 0 then 0.0
  else if 400 < e then infinity
  else if e + digits < -400 then 0.0
  else if 0 ≤ e then Float.ofScientific n false e.toNat
  else Float.ofScientific n true e.natAbs

def exponent? : List Char → Option Int
  | [] => some 0
  | c :: rest =>
    if c = 'e' ∨ c = 'E' then
      let (negative, digits) := match rest with
        | '-' :: r => (true, r)
        | '+' :: r => (false, r)
        | r => (false, r)
      if digits.isEmpty ∨ !digits.all Char.isDigit then none
      else
        let n := (Number.readDigits digits).1
        some (if negative then -(n : Int) else n)
    else none

def magnitude? (cs : List Char) : Option Float :=
  let word := cs.map Char.toLower
  if word = "inf".toList ∨ word = "infinity".toList then some infinity
  else if word = "nan".toList then some nan
  else
    let whole := cs.takeWhile Char.isDigit
    let rest := cs.dropWhile Char.isDigit
    let (fraction, rest) := match rest with
      | '.' :: r => (r.takeWhile Char.isDigit, r.dropWhile Char.isDigit)
      | r => ([], r)
    let digits := whole ++ fraction
    if digits.isEmpty then none
    else (exponent? rest).map fun e =>
      scaled (Number.readDigits digits).1 digits.length (e - fraction.length)

def ofChars? (cs : List Char) : Option Float :=
  match cs with
  | '-' :: rest => (magnitude? rest).map fun x => -x
  | '+' :: rest => magnitude? rest
  | _ => magnitude? cs

end Stepwise.RealText
