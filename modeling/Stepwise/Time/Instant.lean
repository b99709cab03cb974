import Stepwise.Text.CharClass
import Stepwise.Text.Hex
import Stepwise.Time.Calendar

/-!
# Instants

Instants in universal time with nanoseconds, their text, and the reading of it. A leap second is
kept as the second before it with more than `10 ^ 9` nanoseconds.
-/

namespace Stepwise

set_option autoImplicit false

/-- Seconds since 1970-01-01T00:00:00Z, and nanoseconds within the second. -/
structure Instant where
  second : Int
  nano : Nat
deriving DecidableEq, Repr

namespace Instant

def nanosPerSecond : Nat := 1000000000

def toNanos (t : Instant) : Int := t.second * nanosPerSecond + t.nano

def isLeap (t : Instant) : Bool := nanosPerSecond ≤ t.nano

def le (a b : Instant) : Bool := a.second < b.second || (a.second = b.second && a.nano ≤ b.nano)

def lt (a b : Instant) : Bool := !le b a

def firstSecond : Int := (Time.Date.mk (-262143) 1 1).toDays * 86400

def lastSecond : Int := ((Time.Date.mk 262142 12 31).toDays + 1) * 86400 - 1

def inRange (t : Instant) : Bool := firstSecond ≤ t.second && t.second ≤ lastSecond

/-- The longest span that can be added: as many seconds as their milliseconds fit in 64 bits. -/
def longestSpan : Nat := 0x7fffffffffffffff / 1000

/-- The instant a number of seconds later, if it can be represented. Leaving a leap second counts
from the second before it. -/
def addSeconds? (t : Instant) (seconds : Nat) : Option Instant :=
  if longestSpan < seconds then none
  else
    let nano := if t.isLeap ∧ 0 < seconds then t.nano - nanosPerSecond else t.nano
    let later : Instant := ⟨t.second + seconds, nano⟩
    if later.inRange then some later else none

/-- Whole seconds from the second instant to the first, toward zero. -/
def secondsSince (later earlier : Instant) : Int :=
  Int.tdiv (later.toNanos - earlier.toNanos) nanosPerSecond

def pad (width n : Nat) : String :=
  let digits := toString n
  String.ofList (List.replicate (width - digits.length) '0') ++ digits

def fractionText (nano : Nat) : String :=
  if nano = 0 then ""
  else if nano % 1000000 = 0 then "." ++ pad 3 (nano / 1000000)
  else if nano % 1000 = 0 then "." ++ pad 6 (nano / 1000)
  else "." ++ pad 9 nano

def yearText (year : Int) : String :=
  if 0 ≤ year ∧ year ≤ 9999 then pad 4 year.toNat
  else (if year < 0 then "-" else "+") ++ pad 4 year.natAbs

def text (t : Instant) : String :=
  let date := Time.Date.ofDays (t.second / 86400)
  let clock := (t.second % 86400).toNat
  let second := clock % 60 + if t.isLeap then 1 else 0
  let nano := if t.isLeap then t.nano - nanosPerSecond else t.nano
  yearText date.year ++ "-" ++ pad 2 date.month ++ "-" ++ pad 2 date.day ++ "T"
    ++ pad 2 (clock / 3600) ++ ":" ++ pad 2 (clock / 60 % 60) ++ ":" ++ pad 2 second
    ++ fractionText nano ++ "Z"

def readNumber (width : Nat) (cs : List Char) : Option (Nat × List Char) :=
  let cs := Text.trimStart cs
  let digits := (cs.take width).takeWhile Char.isDigit
  if digits.isEmpty then none
  else some (Text.natOfDigits digits, cs.drop digits.length)

def readMark (mark : Char) (cs : List Char) : Option (List Char) :=
  match Text.trimStart cs with
  | c :: rest => if c = mark then some rest else none
  | [] => none

/-- A year of up to four digits, or of any number of digits after a sign. -/
def readYear (cs : List Char) : Option (Int × List Char) :=
  match Text.trimStart cs with
  | '-' :: rest => if (rest.head?.map Char.isDigit).getD false then
      (readNumber rest.length rest).map fun p => (-(p.1 : Int), p.2) else none
  | '+' :: rest => if (rest.head?.map Char.isDigit).getD false then
      (readNumber rest.length rest).map fun p => ((p.1 : Int), p.2) else none
  | cs => (readNumber 4 cs).map fun p => ((p.1 : Int), p.2)

def readFraction (cs : List Char) : Option (Nat × List Char) :=
  match cs with
  | '.' :: rest =>
    let digits := (rest.takeWhile Char.isDigit).take 9
    if digits.isEmpty then none
    else
      let n := Text.natOfDigits digits
      some (n * Nat.pow 10 (9 - digits.length), rest.dropWhile Char.isDigit)
  | _ => some (0, cs)

def twoDigits : List Char → Option (Nat × List Char)
  | a :: b :: rest =>
    if a.isDigit ∧ b.isDigit then some ((a.toNat - 48) * 10 + (b.toNat - 48), rest) else none
  | _ => none

/-- The offset from universal time in seconds: `Z`, `UTC`, or signed hours and minutes. -/
def readOffset (cs : List Char) : Option (Int × List Char) :=
  let cs := Text.trimStart cs
  if (cs.take 3).map Char.toUpper = ['U', 'T', 'C'] then some (0, cs.drop 3)
  else match cs with
    | [] => none
    | c :: rest =>
      if c = 'Z' ∨ c = 'z' then some (0, rest)
      else if c = '+' ∨ c = '-' ∨ c = '\u2212' then do
        let (hours, rest) ← twoDigits rest
        let (minutes, rest) ← twoDigits (rest.dropWhile fun c => c = ':' || Text.isBlank c)
        if 60 ≤ minutes then none
        else
          let seconds : Int := hours * 3600 + minutes * 60
          some (if c = '+' then seconds else -seconds, rest)
      else none

/-- Reads a date, a separator, a time of day and an offset, with blanks allowed between the parts.
-/
def ofText? (s : String) : Option Instant := do
  let cs := s.toList
  let (year, cs) ← readYear cs
  let cs ← readMark '-' cs
  let (month, cs) ← readNumber 2 cs
  let cs ← readMark '-' cs
  let (day, cs) ← readNumber 2 cs
  let cs ← match cs with
    | c :: rest => if c = 'T' ∨ c = 't' ∨ c = ' ' then some rest else none
    | [] => none
  let (hour, cs) ← readNumber 2 cs
  let cs ← readMark ':' cs
  let (minute, cs) ← readNumber 2 cs
  let cs ← readMark ':' cs
  let (second, cs) ← readNumber 2 cs
  let (nano, cs) ← readFraction cs
  let (offset, cs) ← readOffset cs
  let date : Time.Date := ⟨year, month, day⟩
  if ¬ (Text.trimStart cs).isEmpty then none
  else if ¬ date.isValid ∨ 23 < hour ∨ 59 < minute ∨ 60 < second then none
  else if 86400 ≤ offset.natAbs then none
  else
    let leap := second = 60
    let clock : Nat := hour * 3600 + minute * 60 + if leap then 59 else second
    let utc : Instant :=
      ⟨date.toDays * 86400 + clock - offset, if leap then nano + nanosPerSecond else nano⟩
    if utc.inRange then some utc else none

end Instant

end Stepwise
