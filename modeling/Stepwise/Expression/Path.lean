import Stepwise.Json.Basic
import Stepwise.Text.CharClass
import Stepwise.Text.Hex

/-!
# Paths

Paths into a document: a dollar sign, names behind dots, and quoted names or positions in brackets.
-/

namespace Stepwise

set_option autoImplicit false

/-- One step of a path. -/
inductive Segment where
  | key (name : String)
  | index (position : Nat)
deriving DecidableEq, Repr

namespace Segment

def of? : Segment → Json → Option Json
  | .key name, .obj fields => Dict.get? fields name
  | .index i, .arr items => items[i]?
  | _, _ => none

end Segment

abbrev Path := List Segment

namespace Path

/-- Whether a text is a query on a document, and not a text for itself. -/
def isQuery (expr : String) : Bool :=
  match expr.toList with
  | ['$'] => true
  | '$' :: '.' :: _ => true
  | '$' :: '[' :: _ => true
  | _ => false

def isNameChar (c : Char) : Bool := Text.isAlphanumeric c || c = '_' || c = '-' || c = '$'

def maxPosition : Nat := UInt64.size - 1

def quotedName (quote : Char) (cs : List Char) : Option (Segment × List Char) :=
  match cs.dropWhile (· ≠ quote) with
  | _ :: ']' :: rest => some (.key (String.ofList (cs.takeWhile (· ≠ quote))), rest)
  | _ => none

/-- The first segment of a text, and what follows it. -/
def segment? : List Char → Option (Segment × List Char)
  | '.' :: rest =>
    let name := rest.takeWhile isNameChar
    if name.isEmpty then none else some (.key (String.ofList name), rest.dropWhile isNameChar)
  | '[' :: '\x27' :: rest => quotedName '\x27' rest
  | '[' :: '\x22' :: rest => quotedName '\x22' rest
  | '[' :: rest =>
    let digits := rest.takeWhile Char.isDigit
    match rest.dropWhile Char.isDigit with
    | ']' :: after =>
      if digits.isEmpty ∨ maxPosition < Text.natOfDigits digits then none
      else some (.index (Text.natOfDigits digits), after)
    | _ => none
  | _ => none

theorem quotedName_length {quote : Char} {cs rest : List Char} {s : Segment}
    (h : quotedName quote cs = some (s, rest)) : rest.length < cs.length := by
  have hle := (List.dropWhile_sublist (fun c => decide (c ≠ quote)) (l := cs)).length_le
  unfold quotedName at h
  split at h
  · rename_i heq
    rw [heq] at hle
    cases h
    simp only [List.length_cons] at hle
    omega
  · cases h

theorem segment?_length {cs rest : List Char} {s : Segment}
    (h : segment? cs = some (s, rest)) : rest.length < cs.length := by
  unfold segment? at h
  split at h
  · rename_i more
    have hle := (List.dropWhile_sublist isNameChar (l := more)).length_le
    dsimp only at h
    split at h
    · cases h
    · cases h
      exact Nat.lt_succ_of_le hle
  · exact Nat.lt_succ_of_lt (Nat.lt_succ_of_lt (quotedName_length h))
  · exact Nat.lt_succ_of_lt (Nat.lt_succ_of_lt (quotedName_length h))
  · rename_i more _ _
    have hle := (List.dropWhile_sublist Char.isDigit (l := more)).length_le
    dsimp only at h
    split at h
    · rename_i heq
      rw [heq] at hle
      split at h
      · cases h
      · cases h
        exact Nat.lt_succ_of_lt hle
    · cases h
  · cases h

def segments? (cs : List Char) : Option Path :=
  if cs.isEmpty then some []
  else
    match h : segment? cs with
    | none => none
    | some (s, rest) =>
      have := segment?_length h
      (segments? rest).map (s :: ·)
termination_by cs.length

/-- Reads a path. Texts that need the whole query language are none. -/
def ofText? (expr : String) : Option Path :=
  match expr.toList with
  | '$' :: rest => segments? rest
  | _ => none

end Path

end Stepwise
