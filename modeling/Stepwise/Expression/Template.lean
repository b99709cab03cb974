import Stepwise.Expression.Resolve

/-!
# Templates

Documents whose texts hold placeholders such as `{{order.id}}` or are expressions as a whole. A text
that rendering makes anew is rendered again, for a limited number of rounds; a placeholder that
cannot be resolved stays as it is.
-/

namespace Stepwise

set_option autoImplicit false

namespace Template

/-- A character of a template, or a placeholder with the expression in it. -/
inductive Piece where
  | literal (c : Char)
  | placeholder (whole expr : List Char)
deriving DecidableEq, Repr

def isBrace (c : Char) : Bool := c = '\x7b' || c = '\x7d'

/-- The expression between two pairs of braces: without the blanks around it or, where there is
nothing else, the last blank. -/
def expressionIn (inside : List Char) : List Char :=
  if inside.all Text.isBlank then inside.getLast?.toList else Text.trim inside

def placeholder? : List Char → Option (Piece × List Char)
  | '\x7b' :: '\x7b' :: rest =>
    let inside := rest.takeWhile fun c => !isBrace c
    match rest.dropWhile fun c => !isBrace c with
    | '\x7d' :: '\x7d' :: after =>
      if inside.isEmpty then none
      else
        some (.placeholder ('\x7b' :: '\x7b' :: inside ++ ['\x7d', '\x7d']) (expressionIn inside),
          after)
    | _ => none
  | _ => none

theorem placeholder?_length {cs rest : List Char} {p : Piece}
    (h : placeholder? cs = some (p, rest)) : rest.length < cs.length := by
  unfold placeholder? at h
  split at h
  · rename_i more
    have hle := (List.dropWhile_sublist (fun c => !isBrace c) (l := more)).length_le
    dsimp only at h
    split at h
    · rename_i heq
      rw [heq] at hle
      split at h
      · cases h
      · cases h
        simp only [List.length_cons] at hle ⊢
        omega
    · cases h
  · cases h

def pieces (cs : List Char) : List Piece :=
  match h : placeholder? cs with
  | some (p, rest) =>
    have := placeholder?_length h
    p :: pieces rest
  | none =>
    match cs with
    | [] => []
    | c :: rest => .literal c :: pieces rest
termination_by cs.length

def isPlaceholder : Piece → Bool
  | .literal _ => false
  | .placeholder _ _ => true

def needsRendering (s : String) : Bool := Path.isQuery s || (pieces s.toList).any isPlaceholder

/-- The query of a placeholder; a bare path stands for one behind the dollar sign. -/
def queryOf (expr : List Char) : String :=
  let e := String.ofList expr
  if Path.isQuery e then e else "$." ++ e

def resolvePlaceholder (expr : List Char) (scope : Json) : EngineProgram (Option Resolved) :=
  (some <$> resolve (queryOf expr) scope true).recover fun _ => none

def pieceText (scope : Json) : Piece → EngineProgram String
  | .literal c => pure (String.singleton c)
  | .placeholder whole expr => do
    match ← resolvePlaceholder expr scope with
    | some r => pure r.inText
    | none => pure (String.ofList whole)

def interpolate (scope : Json) : List Piece → EngineProgram String
  | [] => pure ""
  | p :: rest => do
    let s ← pieceText scope p
    let more ← interpolate scope rest
    pure (s ++ more)

/-- First pass: a text that is one placeholder becomes its value, other placeholders become text. -/
def fill (template : String) (scope : Json) : EngineProgram Resolved :=
  match pieces template.toList with
  | [.placeholder _ expr] => do
    pure ((← resolvePlaceholder expr scope).getD (.value (.str template)))
  | ps =>
    if ps.any isPlaceholder then do pure (.value (.str (← interpolate scope ps)))
    else pure (.value (.str template))

/-- Second pass: a text that is an expression becomes its value, if it has one. -/
def follow (filled : Resolved) (scope : Json) : EngineProgram Resolved :=
  match filled with
  | .value (.str s) =>
    if Path.isQuery s then (resolve s scope true).recover fun _ => .value (.str s)
    else pure filled
  | _ => pure filled

/-- Renders a text for at most a number of rounds. -/
def renderRounds (maxDepth : Nat) : Nat → String → Json → EngineProgram Resolved
  | 0, _, _ => throw (.templateDepth ("exceeded maximum depth of " ++ toString maxDepth))
  | rounds + 1, template, scope => do
    let resolved ← follow (← fill template scope) scope
    match resolved with
    | .value (.str next) =>
      if next ≠ template ∧ needsRendering next then renderRounds maxDepth rounds next scope
      else pure resolved
    | _ => pure resolved

def renderText (maxDepth : Nat) (template : String) (scope : Json) : EngineProgram Resolved :=
  renderRounds maxDepth (maxDepth + 1) template scope

mutual

/-- Renders the texts of a document. Where nothing is found, a field is left out and an item of a
list is null. -/
def render (maxDepth : Nat) (scope : Json) : Json → EngineProgram Resolved
  | .str s => renderText maxDepth s scope
  | .arr items => do pure (.value (.arr (← renderItems maxDepth scope items)))
  | .obj fields => do pure (.value (.obj (← renderFields maxDepth scope fields)))
  | .null => pure (.value .null)
  | .bool b => pure (.value (.bool b))
  | .num n => pure (.value (.num n))

def renderItems (maxDepth : Nat) (scope : Json) : List Json → EngineProgram (List Json)
  | [] => pure []
  | v :: rest => do
    let r ← render maxDepth scope v
    let more ← renderItems maxDepth scope rest
    pure (r.orNull :: more)

def renderFields (maxDepth : Nat) (scope : Json) :
    List (String × Json) → EngineProgram (List (String × Json))
  | [] => pure []
  | (k, v) :: rest => do
    let r ← render maxDepth scope v
    let more ← renderFields maxDepth scope rest
    match r with
    | .undefined => pure more
    | .value w => pure ((k, w) :: more)

end

end Template

end Stepwise
