import Stepwise.Text.CharClass

/-!
# Matching patterns

Patterns of texts, and where a match of a pattern can end. The ends are computed as sets of
positions, so that a match is found whichever way the repetitions are tried.
-/

namespace Stepwise

set_option autoImplicit false

inductive CharSet where
  | empty
  | range (first last : Char)
  | union (a b : CharSet)
  | complement (a : CharSet)
deriving DecidableEq, Repr

namespace CharSet

def contains : CharSet → Char → Bool
  | .empty, _ => false
  | .range first last, c => first ≤ c && c ≤ last
  | .union a b, c => a.contains c || b.contains c
  | .complement a, c => !a.contains c

def single (c : Char) : CharSet := .range c c

def ofList (sets : List CharSet) : CharSet := sets.foldl .union .empty

end CharSet

inductive Pattern where
  /-- The empty text. -/
  | nothing
  | one (set : CharSet)
  | sequence (first second : Pattern)
  | either (first second : Pattern)
  /-- At least `min` times, and at most `max` times if there is a limit. -/
  | repeated (body : Pattern) (min : Nat) (max : Option Nat)
  | textStart
  | textEnd
  /-- Between a character of a word and another one, or anywhere else. -/
  | wordEdge (expected : Bool)
  /-- What follows here matches the body, or does not. -/
  | ahead (expected : Bool) (body : Pattern)
  /-- What ends here matches the body, or does not. -/
  | behind (expected : Bool) (body : Pattern)
deriving DecidableEq, Repr

namespace Pattern

def addNew (seen : List Nat) : List Nat → List Nat
  | [] => []
  | p :: rest => if seen.contains p then addNew seen rest else p :: addNew (p :: seen) rest

/-- The positions that are reached from others in one step. -/
def stepAll (step : Nat → List Nat) (from_ : List Nat) : List Nat := addNew [] (from_.flatMap step)

def stepTimes (step : Nat → List Nat) : Nat → List Nat → List Nat
  | 0, from_ => from_
  | n + 1, from_ => stepTimes step n (stepAll step from_)

def stepUpTo (step : Nat → List Nat) : Nat → List Nat → List Nat → List Nat
  | 0, _, seen => seen
  | n + 1, latest, seen =>
    let more := addNew seen (latest.flatMap step)
    if more.isEmpty then seen else stepUpTo step n more (seen ++ more)

def isWordAt (text : Array Char) (i : Nat) : Bool := (text[i]?.map Text.isWord).getD false

def isWordBefore (text : Array Char) (i : Nat) : Bool := 0 < i && isWordAt text (i - 1)

/-- The positions at which a match that begins at a position can end. -/
def ends (text : Array Char) : Pattern → Nat → List Nat
  | .nothing, i => [i]
  | .one set, i =>
    match text[i]? with
    | some c => if set.contains c then [i + 1] else []
    | none => []
  | .sequence a b, i => stepAll (ends text b) (ends text a i)
  | .either a b, i => addNew [] (ends text a i ++ ends text b i)
  | .repeated a min max, i =>
    let start := stepTimes (ends text a) min [i]
    let more := match max with
      | some m => m - min
      | none => text.size + 1
    stepUpTo (ends text a) more start start
  | .textStart, i => if i = 0 then [i] else []
  | .textEnd, i => if i = text.size then [i] else []
  | .wordEdge expected, i =>
    if (isWordBefore text i != isWordAt text i) = expected then [i] else []
  | .ahead expected a, i => if !(ends text a i).isEmpty = expected then [i] else []
  | .behind expected a, i =>
    let found := (List.range (i + 1)).any fun start => (ends text a start).contains i
    if found = expected then [i] else []

def occursIn (p : Pattern) (s : String) : Bool :=
  let text := s.toList.toArray
  (List.range (text.size + 1)).any fun i => !(p.ends text i).isEmpty

end Pattern

end Stepwise
