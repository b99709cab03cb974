import Stepwise.Json.Parser
import Stepwise.Text.Hex

/-!
# Tokens of queries

The tokens of a query.
-/

namespace Stepwise.Query

set_option autoImplicit false

inductive Token where
  | identifier (name : String)
  | quotedIdentifier (name : String)
  | number (value : Int)
  | literal (value : Json)
  | dot
  | star
  | flatten
  | filter
  | leftBracket
  | rightBracket
  | leftBrace
  | rightBrace
  | leftParen
  | rightParen
  | comma
  | colon
  | at
  | ampersand
  | pipe
  | or
  | and
  | not
  | eq
  | ne
  | lt
  | le
  | gt
  | ge
  | eof
deriving DecidableEq

namespace Token

/-- How strongly a token binds to the expression before it. -/
def power : Token → Nat
  | .pipe => 1
  | .or => 2
  | .and => 3
  | .eq | .ne | .lt | .le | .gt | .ge => 5
  | .flatten => 9
  | .star => 20
  | .filter => 21
  | .dot => 40
  | .not => 45
  | .leftBrace => 50
  | .leftBracket => 55
  | .leftParen => 60
  | _ => 0

def startsName (c : Char) : Bool := c.isAlpha || c = '_'

def continuesName (c : Char) : Bool := c.isAlphanum || c = '_'

/-- The text up to the closing mark, and what follows it. A backslash takes the next character
with it. -/
def enclosed (mark : Char) : List Char → Option (List Char × List Char)
  | [] => none
  | c :: rest =>
    if c = mark then some ([], rest)
    else if c = '\x5c' then
      match rest with
      | [] => none
      | d :: rest => (enclosed mark rest).map fun p => (c :: d :: p.1, p.2)
    else (enclosed mark rest).map fun p => (c :: p.1, p.2)

def unescape (mark : Char) : List Char → List Char
  | [] => []
  | [c] => [c]
  | c :: d :: rest =>
    if c = '\x5c' ∧ d = mark then mark :: unescape mark rest else c :: unescape mark (d :: rest)

theorem enclosed_length {mark : Char} {cs inside rest : List Char}
    (h : enclosed mark cs = some (inside, rest)) : rest.length < cs.length := by
  fun_induction enclosed mark cs generalizing inside rest with
  | case1 => simp at h
  | case2 => simp_all
  | case3 => simp at h
  | case4 d more hc ih =>
    obtain ⟨p, hp, he⟩ := Option.map_eq_some_iff.1 h
    cases he
    exact Nat.lt_succ_of_lt (Nat.lt_succ_of_lt (ih hp))
  | case5 c more hc hb ih =>
    obtain ⟨p, hp, he⟩ := Option.map_eq_some_iff.1 h
    cases he
    exact Nat.lt_succ_of_lt (ih hp)

def quotedName? (inside : List Char) : Option Token :=
  match Json.parse (String.ofList ('\x22' :: inside ++ ['\x22'])) with
  | some (.str s) => some (.quotedIdentifier s)
  | _ => none

def rawString (inside : List Char) : Token :=
  .literal (.str (String.ofList (unescape '\x27' inside)))

def jsonLiteral? (inside : List Char) : Option Token :=
  (Json.parse (String.ofList (unescape '\x60' inside))).map .literal

def mark? (c : Char) : Option Token :=
  match c with
  | '.' => some .dot
  | '*' => some .star
  | ']' => some .rightBracket
  | '\x7b' => some .leftBrace
  | '\x7d' => some .rightBrace
  | '(' => some .leftParen
  | ')' => some .rightParen
  | ',' => some .comma
  | ':' => some .colon
  | '@' => some .at
  | _ => none

def doubleMark? : Char → Char → Option Token
  | '[', ']' => some .flatten
  | '[', '?' => some .filter
  | '|', '|' => some .or
  | '&', '&' => some .and
  | '>', '=' => some .ge
  | '<', '=' => some .le
  | '!', '=' => some .ne
  | '=', '=' => some .eq
  | _, _ => none

/-- Marks that stand alone unless they begin one of two characters. -/
def loneMark? (c : Char) : Option Token :=
  match c with
  | '[' => some .leftBracket
  | '|' => some .pipe
  | '&' => some .ampersand
  | '>' => some .gt
  | '<' => some .lt
  | '!' => some .not
  | _ => mark? c

def next? (c : Char) (rest : List Char) :
    Option (Token × { r : List Char // r.length ≤ rest.length }) :=
  if startsName c then
    some (.identifier (String.ofList (c :: rest.takeWhile continuesName)),
      ⟨rest.dropWhile continuesName, (List.dropWhile_sublist _).length_le⟩)
  else if c.isDigit then
    some (.number (Text.natOfDigits (c :: rest.takeWhile Char.isDigit)),
      ⟨rest.dropWhile Char.isDigit, (List.dropWhile_sublist _).length_le⟩)
  else if c = '-' then
    match rest with
    | d :: more =>
      if d.isDigit ∧ d ≠ '0' then
        some (.number (-(Text.natOfDigits (d :: more.takeWhile Char.isDigit) : Int)),
          ⟨more.dropWhile Char.isDigit,
            Nat.le_trans (List.dropWhile_sublist _).length_le (by simp)⟩)
      else none
    | [] => none
  else if c = '\x22' ∨ c = '\x27' ∨ c = '\x60' then
    match h : enclosed c rest with
    | some (inside, more) =>
      let token := if c = '\x22' then quotedName? inside
        else if c = '\x27' then some (rawString inside)
        else jsonLiteral? inside
      token.map fun t => (t, ⟨more, Nat.le_of_lt (enclosed_length h)⟩)
    | none => none
  else
    match rest with
    | d :: more =>
      match doubleMark? c d with
      | some t => some (t, ⟨more, by simp⟩)
      | none => (loneMark? c).map fun t => (t, ⟨d :: more, Nat.le_refl _⟩)
    | [] => (loneMark? c).map fun t => (t, ⟨[], Nat.le_refl _⟩)

def scan : List Char → Option (List Token)
  | [] => some [.eof]
  | c :: rest =>
    if Json.isBlank c then scan rest
    else
      match next? c rest with
      | none => none
      | some (t, ⟨more, h⟩) =>
        have : more.length < (c :: rest).length := Nat.lt_succ_of_le h
        (scan more).map (t :: ·)
termination_by cs => cs.length
decreasing_by
  · exact Nat.lt_succ_self rest.length
  · exact this

end Token

end Stepwise.Query
