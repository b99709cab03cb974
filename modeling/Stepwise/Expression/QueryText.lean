import Stepwise.Text.CharClass

/-!
# The text of a query

Expressions are written with a leading dollar sign and with filters such as `[?(@.price > 5)]`. Here
they are turned into the query language, where the filter reads ``[?price > `5`]``: the sign goes,
comparisons of three characters become those of two, names lose their `@.`, texts take single
quotes, and constants behind a comparison stand in backquotes.
-/

namespace Stepwise.QueryText

set_option autoImplicit false

open Text

def afterClosing? (cs : List Char) : Option (List Char) :=
  match cs.dropWhile isBlank with
  | ')' :: ']' :: rest => some rest
  | _ => none

/-- Splits a text at the first `)]`; blanks before that are left out, and no line ends before. -/
def predicate : List Char → Option (List Char × List Char)
  | [] => none
  | c :: rest =>
    match afterClosing? (c :: rest) with
    | some after => some ([], after)
    | none => if c = '\n' then none else (predicate rest).map fun p => (c :: p.1, p.2)

def filter? : List Char → Option (List Char × List Char)
  | '[' :: '?' :: '(' :: rest => predicate (rest.dropWhile isBlank)
  | _ => none

/-- Replaces every occurrence of a text that is not empty; the first argument bounds the steps. -/
def replaceAll (old new : List Char) : Nat → List Char → List Char
  | 0, cs => cs
  | _, [] => []
  | steps + 1, c :: rest =>
    if old.isPrefixOf (c :: rest) then new ++ replaceAll old new steps ((c :: rest).drop old.length)
    else c :: replaceAll old new steps rest

def replace (old new : String) (cs : List Char) : List Char :=
  replaceAll old.toList new.toList cs.length cs

def requote : Nat → List Char → List Char
  | 0, cs => cs
  | _, [] => []
  | steps + 1, c :: rest =>
    if c = '\x22' then
      match rest.dropWhile (· ≠ '\x22') with
      | _ :: after => '\x27' :: rest.takeWhile (· ≠ '\x22') ++ '\x27' :: requote steps after
      | [] => c :: rest
    else c :: requote steps rest

/-- A word ends here, so the next character does not go on with it. -/
def wordEnds : List Char → Bool
  | [] => true
  | c :: _ => !isWord c

def number? (cs : List Char) : Option (List Char × List Char) :=
  let (sign, cs) := match cs with
    | '-' :: rest => (['-'], rest)
    | _ => ([], cs)
  let whole := cs.takeWhile isDecimalDigit
  let rest := cs.dropWhile isDecimalDigit
  if whole.isEmpty then none
  else
    let plain := if wordEnds rest then some (sign ++ whole, rest) else none
    match rest with
    | '.' :: more =>
      let fraction := more.takeWhile isDecimalDigit
      let after := more.dropWhile isDecimalDigit
      if !fraction.isEmpty && wordEnds after then some (sign ++ whole ++ '.' :: fraction, after)
      else plain
    | _ => plain

def named? (cs : List Char) (name : String) : Option (List Char × List Char) :=
  let word := name.toList
  if word.isPrefixOf cs && wordEnds (cs.drop word.length) then some (word, cs.drop word.length)
  else none

/-- A number, a truth value or null at the start of a text, and what follows it. -/
def constant? (cs : List Char) : Option (List Char × List Char) :=
  number? cs <|> named? cs "true" <|> named? cs "false" <|> named? cs "null"

def comparison? : List Char → Option (List Char × List Char)
  | '<' :: '=' :: rest => some (['<', '='], rest)
  | '>' :: '=' :: rest => some (['>', '='], rest)
  | '=' :: '=' :: rest => some (['=', '='], rest)
  | '!' :: '=' :: rest => some (['!', '='], rest)
  | '<' :: rest => some (['<'], rest)
  | '>' :: rest => some (['>'], rest)
  | _ => none

def operand? (cs : List Char) : Option (List Char × List Char × List Char) := do
  let (op, rest) ← comparison? cs
  let (constant, rest) ← constant? (rest.dropWhile isBlank)
  some (op, constant, rest)

/-- Puts constants behind comparisons into backquotes; the first argument bounds the steps. -/
def markConstants : Nat → List Char → List Char
  | 0, cs => cs
  | _, [] => []
  | steps + 1, c :: rest =>
    match operand? (c :: rest) with
    | some (op, constant, after) =>
      op ++ ' ' :: '\x60' :: constant ++ '\x60' :: markConstants steps after
    | none => c :: markConstants steps rest

def predicateQuery (cs : List Char) : List Char :=
  let cs := replace "@." "" (replace "!==" "!=" (replace "===" "==" cs))
  let cs := requote cs.length cs
  markConstants cs.length cs

def filterQueries : Nat → List Char → List Char
  | 0, cs => cs
  | _, [] => []
  | steps + 1, c :: rest =>
    match filter? (c :: rest) with
    | some (p, after) =>
      '[' :: '?' :: predicateQuery p ++ ']' :: filterQueries steps after
    | none => c :: filterQueries steps rest

/-- Two dots ask for parts at any depth, which the query language does not offer. -/
def isRecursive : List Char → Bool
  | '.' :: '.' :: _ => true
  | _ :: rest => isRecursive rest
  | [] => false

def body (expr : String) : List Char :=
  let cs := match expr.toList with
    | '$' :: rest => rest
    | cs => cs
  match cs with
  | '.' :: rest => rest
  | cs => cs

/-- The query that an expression stands for. -/
def ofExpression (expr : String) : String :=
  let cs := body expr
  if cs.isEmpty then "@" else String.ofList (filterQueries cs.length cs)

end Stepwise.QueryText
