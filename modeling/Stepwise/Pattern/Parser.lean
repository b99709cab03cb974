import Stepwise.Json.Parser
import Stepwise.Pattern.Basic

/-!
# Reading patterns

Reading a pattern. The shorthands for digits, words and blanks stand for fixed sets. The first
argument of each recursive function bounds the number of steps.
-/

namespace Stepwise.Pattern

set_option autoImplicit false

def digits : CharSet := .range '0' '9'

def wordChars : CharSet :=
  .ofList [.range 'a' 'z', .range 'A' 'Z', .range '0' '9', .single '_']

def blanks : CharSet :=
  .ofList ([' ', '\t', '\n', '\r', '\x0b', '\x0c', '\u2003', '\ufeff', '\u2029', '\u00a0'].map
    CharSet.single)

def anyInLine : CharSet := .complement (.single '\n')

def shorthand? (c : Char) : Option CharSet :=
  match c with
  | 'd' => some digits
  | 'D' => some (.complement digits)
  | 'w' => some wordChars
  | 'W' => some (.complement wordChars)
  | 's' => some blanks
  | 'S' => some (.complement blanks)
  | _ => none

def control? (c : Char) : Option Char :=
  match c with
  | 'n' => some '\n'
  | 't' => some '\t'
  | 'r' => some '\r'
  | 'f' => some '\x0c'
  | 'v' => some '\x0b'
  | 'a' => some '\x07'
  | _ => none

def isLetterOrDigit (c : Char) : Bool := c.isAlphanum || 128 ≤ c.toNat

/-- A number of hexadecimal digits, `width` of them or in braces. -/
def codePoint? (width : Nat) (cs : List Char) : Option (Char × List Char) :=
  let (inside, rest) := match cs with
    | '\x7b' :: more => (more.takeWhile (· ≠ '\x7d'), (more.dropWhile (· ≠ '\x7d')).drop 1)
    | _ => (cs.take width, cs.drop width)
  match inside.mapM Json.hexValue? with
  | none => none
  | some [] => none
  | some values =>
    let n := values.foldl (fun n d => n * 16 + d) 0
    if h : n.isValidChar then some (Char.ofNatAux n h, rest) else none

def escapedChar? : List Char → Option (Char × List Char)
  | [] => none
  | c :: rest =>
    match control? c with
    | some d => some (d, rest)
    | none =>
      match c, rest with
      | 'x', _ => codePoint? 2 rest
      | 'u', _ => codePoint? 4 rest
      | 'c', d :: rest => if d.isAlpha then some (Char.ofNat (d.toNat % 32), rest) else none
      | _, _ => if isLetterOrDigit c then none else some (c, rest)

/-- An item of a class: a set by itself, or a character that can begin a range. -/
inductive ClassItem where
  | set (set : CharSet)
  | char (c : Char)

def ClassItem.toSet : ClassItem → CharSet
  | .set s => s
  | .char c => .single c

mutual

def readClass : Nat → List Char → Option (CharSet × List Char)
  | 0, _ => none
  | steps + 1, cs =>
    let (negated, cs) := match cs with
      | '^' :: rest => (true, rest)
      | _ => (false, cs)
    let body := match cs with
      | ']' :: rest => readClassItems steps [.single ']'] rest
      | _ => readClassItems steps [] cs
    body.map fun p => (if negated then .complement p.1 else p.1, p.2)

def readClassItems : Nat → List CharSet → List Char → Option (CharSet × List Char)
  | 0, _, _ => none
  | steps + 1, read, cs =>
    match cs with
    | ']' :: rest => some (.ofList read, rest)
    | _ =>
      match readClassItem steps cs with
      | none => none
      | some (.char first, '-' :: rest) =>
        match rest with
        | ']' :: _ => readClassItems steps (.single first :: read) ('-' :: rest)
        | _ =>
          match readClassItem steps rest with
          | some (.char last, rest) =>
            if first ≤ last then readClassItems steps (.range first last :: read) rest else none
          | _ => none
      | some (item, rest) => readClassItems steps (item.toSet :: read) rest

def readClassItem : Nat → List Char → Option (ClassItem × List Char)
  | 0, _ => none
  | steps + 1, cs =>
    match cs with
    | [] => none
    | '[' :: rest => (readClass steps rest).map fun p => (.set p.1, p.2)
    | '\x5c' :: rest =>
      match rest with
      | c :: more =>
        match shorthand? c with
        | some s => some (.set s, more)
        | none => (escapedChar? rest).map fun p => (.char p.1, p.2)
      | [] => none
    | c :: rest => some (.char c, rest)

end

def repetition? (cs : List Char) : Option (Nat × Option Nat × List Char) :=
  match cs with
  | '*' :: rest => some (0, none, rest)
  | '+' :: rest => some (1, none, rest)
  | '?' :: rest => some (0, some 1, rest)
  | '\x7b' :: rest =>
    let low := rest.takeWhile Char.isDigit
    let after := rest.dropWhile Char.isDigit
    let n := (Number.readDigits low).1
    match after with
    | '\x7d' :: rest => if low.isEmpty then none else some (n, some n, rest)
    | ',' :: rest =>
      let high := rest.takeWhile Char.isDigit
      let m := (Number.readDigits high).1
      match rest.dropWhile Char.isDigit with
      | '\x7d' :: rest =>
        if high.isEmpty then some (n, none, rest)
        else if m < n then none else some (n, some m, rest)
      | _ => none
    | _ => none
  | _ => none

/-- Leaves out the mark of a lazy or possessive repetition. -/
def skipGreed : List Char → List Char
  | '?' :: rest => rest
  | '+' :: rest => rest
  | cs => cs

def skipName (cs : List Char) : Option (List Char) :=
  let name := cs.takeWhile (· ≠ '>')
  match cs.dropWhile (· ≠ '>') with
  | _ :: rest => if name.isEmpty then none else some rest
  | [] => none

def groupKind? (cs : List Char) : Option ((Pattern → Pattern) × List Char) :=
  match cs with
  | '?' :: ':' :: rest => some (id, rest)
  | '?' :: '=' :: rest => some (.ahead true, rest)
  | '?' :: '!' :: rest => some (.ahead false, rest)
  | '?' :: '<' :: '=' :: rest => some (.behind true, rest)
  | '?' :: '<' :: '!' :: rest => some (.behind false, rest)
  | '?' :: 'P' :: '<' :: rest => (skipName rest).map fun rest => (id, rest)
  | '?' :: '<' :: rest => (skipName rest).map fun rest => (id, rest)
  | '?' :: _ => none
  | _ => some (id, cs)

/-- An item that can be repeated, or a place in the text that cannot. -/
structure Atom where
  pattern : Pattern
  repeatable : Bool

def escapedAtom? : List Char → Option (Atom × List Char)
  | 'b' :: rest => some (⟨.wordEdge true, false⟩, rest)
  | 'B' :: rest => some (⟨.wordEdge false, false⟩, rest)
  | 'A' :: rest => some (⟨.textStart, false⟩, rest)
  | 'z' :: rest => some (⟨.textEnd, false⟩, rest)
  | c :: rest =>
    match shorthand? c with
    | some s => some (⟨.one s, true⟩, rest)
    | none => (escapedChar? (c :: rest)).map fun p => (⟨.one (.single p.1), true⟩, p.2)
  | [] => none

mutual

/-- Reads alternatives up to a closing parenthesis or the end of the text. -/
def readAlternatives : Nat → List Char → Option (Pattern × List Char)
  | 0, _ => none
  | steps + 1, cs =>
    match readSequence steps .nothing cs with
    | none => none
    | some (a, '|' :: rest) => (readAlternatives steps rest).map fun p => (.either a p.1, p.2)
    | some (a, rest) => some (a, rest)

def readSequence : Nat → Pattern → List Char → Option (Pattern × List Char)
  | 0, _, _ => none
  | steps + 1, read, cs =>
    match cs with
    | [] => some (read, [])
    | '|' :: _ => some (read, cs)
    | ')' :: _ => some (read, cs)
    | _ =>
      match readAtom steps cs with
      | none => none
      | some (a, rest) =>
        match repetition? rest with
        | none => readSequence steps (.sequence read a.pattern) rest
        | some (min, max, rest) =>
          if a.repeatable then
            readSequence steps (.sequence read (.repeated a.pattern min max)) (skipGreed rest)
          else none

def readAtom : Nat → List Char → Option (Atom × List Char)
  | 0, _ => none
  | steps + 1, cs =>
    match cs with
    | [] => none
    | '^' :: rest => some (⟨.textStart, false⟩, rest)
    | '$' :: rest => some (⟨.textEnd, false⟩, rest)
    | '.' :: rest => some (⟨.one anyInLine, true⟩, rest)
    | '[' :: rest => (readClass steps rest).map fun p => (⟨.one p.1, true⟩, p.2)
    | '\x5c' :: rest => escapedAtom? rest
    | '(' :: rest =>
      match groupKind? rest with
      | none => none
      | some (wrap, rest) =>
        match readAlternatives steps rest with
        | some (a, ')' :: rest) => some (⟨wrap a, true⟩, rest)
        | _ => none
    | c :: rest =>
      if c = '*' ∨ c = '+' ∨ c = '?' then none else some (⟨.one (.single c), true⟩, rest)

end

def ofText? (s : String) : Option Pattern :=
  let cs := s.toList
  match readAlternatives (3 * cs.length + 3) cs with
  | some (p, []) => some p
  | _ => none

end Stepwise.Pattern
