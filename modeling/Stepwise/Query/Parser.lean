import Stepwise.Query.Expr
import Stepwise.Query.Token

/-!
# Reading queries

Reading a query by the powers of its tokens: an expression goes on as long as the next token binds
more strongly than the token it stands behind. The first argument of each function bounds the number
of steps.
-/

namespace Stepwise.Query

set_option autoImplicit false

def peek (ts : List Token) : Token := ts.headD .eof

/-- A projection ends before a token with less power than this. -/
def projectionStop : Nat := 10

abbrev Parsed := Option (Expr × List Token)

def optionalNumber : List Token → Option Int × List Token
  | .number n :: ts => (some n, ts)
  | ts => (none, ts)

mutual

def readExpr : Nat → Nat → List Token → Parsed
  | 0, _, _ => none
  | steps + 1, power, ts =>
    match readOperand steps ts with
    | none => none
    | some (left, ts) => readMore steps power left ts

/-- Extends an expression while the next token binds it. -/
def readMore : Nat → Nat → Expr → List Token → Parsed
  | 0, _, _, _ => none
  | steps + 1, power, left, ts =>
    if power < (peek ts).power then
      match readExtension steps left ts with
      | none => none
      | some (left, ts) => readMore steps power left ts
    else some (left, ts)

def readOperand : Nat → List Token → Parsed
  | 0, _ => none
  | steps + 1, ts =>
    match ts with
    | .at :: ts => some (.identity, ts)
    | .identifier name :: ts => some (.field name, ts)
    | .quotedIdentifier name :: ts =>
      if peek ts = .leftParen then none else some (.field name, ts)
    | .literal v :: ts => some (.literal v, ts)
    | .star :: ts => readValues steps .identity ts
    | .flatten :: ts => readFlatten steps .identity ts
    | .filter :: ts => readFilter steps .identity ts
    | .leftBracket :: ts =>
      match ts with
      | .number _ :: _ => readIndex steps ts
      | .colon :: _ => readIndex steps ts
      | .star :: .rightBracket :: ts => readItems steps .identity ts
      | _ => (readList steps .rightBracket [] ts).map fun p => (.list p.1, p.2)
    | .leftBrace :: ts => (readHash steps [] ts).map fun p => (.hash p.1, p.2)
    | .ampersand :: ts =>
      (readExpr steps Token.ampersand.power ts).map fun p => (.reference p.1, p.2)
    | .not :: ts => (readExpr steps Token.not.power ts).map fun p => (.not p.1, p.2)
    | .leftParen :: ts =>
      match readExpr steps 0 ts with
      | some (e, .rightParen :: ts) => some (e, ts)
      | _ => none
    | _ => none

def readExtension : Nat → Expr → List Token → Parsed
  | 0, _, _ => none
  | steps + 1, left, ts =>
    match ts with
    | .dot :: .star :: ts => readValues steps left ts
    | .dot :: ts => (readMember steps Token.dot.power ts).map fun p => (.chain left p.1, p.2)
    | .leftBracket :: ts =>
      match ts with
      | .number _ :: _ => (readIndex steps ts).map fun p => (.chain left p.1, p.2)
      | .colon :: _ => (readIndex steps ts).map fun p => (.chain left p.1, p.2)
      | .star :: .rightBracket :: ts => readItems steps left ts
      | _ => none
    | .or :: ts => (readExpr steps Token.or.power ts).map fun p => (.or left p.1, p.2)
    | .and :: ts => (readExpr steps Token.and.power ts).map fun p => (.and left p.1, p.2)
    | .pipe :: ts => (readExpr steps Token.pipe.power ts).map fun p => (.chain left p.1, p.2)
    | .leftParen :: ts =>
      match left with
      | .field name => (readList steps .rightParen [] ts).map fun p => (.call name p.1, p.2)
      | _ => none
    | .flatten :: ts => readFlatten steps left ts
    | .filter :: ts => readFilter steps left ts
    | .eq :: ts => readComparison steps .eq left ts
    | .ne :: ts => readComparison steps .ne left ts
    | .lt :: ts => readComparison steps .lt left ts
    | .le :: ts => readComparison steps .le left ts
    | .gt :: ts => readComparison steps .gt left ts
    | .ge :: ts => readComparison steps .ge left ts
    | _ => none

def readComparison : Nat → Comparison → Expr → List Token → Parsed
  | 0, _, _, _ => none
  | steps + 1, op, left, ts =>
    (readExpr steps Token.eq.power ts).map fun p => (.compare op left p.1, p.2)

def readMember : Nat → Nat → List Token → Parsed
  | 0, _, _ => none
  | steps + 1, power, ts =>
    match ts with
    | .leftBracket :: ts => (readList steps .rightBracket [] ts).map fun p => (.list p.1, p.2)
    | .identifier _ :: _ => readExpr steps power ts
    | .quotedIdentifier _ :: _ => readExpr steps power ts
    | .star :: _ => readExpr steps power ts
    | .leftBrace :: _ => readExpr steps power ts
    | .ampersand :: _ => readExpr steps power ts
    | _ => none

def readBody : Nat → Nat → List Token → Parsed
  | 0, _, _ => none
  | steps + 1, power, ts =>
    match ts with
    | .dot :: ts => readMember steps power ts
    | .leftBracket :: _ => readExpr steps power ts
    | .filter :: _ => readExpr steps power ts
    | _ => if (peek ts).power < projectionStop then some (.identity, ts) else none

def readItems : Nat → Expr → List Token → Parsed
  | 0, _, _ => none
  | steps + 1, source, ts =>
    (readBody steps Token.star.power ts).map fun p => (.project source p.1, p.2)

def readValues : Nat → Expr → List Token → Parsed
  | 0, _, _ => none
  | steps + 1, source, ts =>
    (readBody steps Token.star.power ts).map fun p => (.project (.values source) p.1, p.2)

def readFlatten : Nat → Expr → List Token → Parsed
  | 0, _, _ => none
  | steps + 1, source, ts =>
    (readBody steps Token.flatten.power ts).map fun p => (.project (.flatten source) p.1, p.2)

def readFilter : Nat → Expr → List Token → Parsed
  | 0, _, _ => none
  | steps + 1, source, ts =>
    match readExpr steps 0 ts with
    | some (test, .rightBracket :: ts) =>
      (readBody steps Token.filter.power ts).map fun p => (.project source (.guarded test p.1), p.2)
    | _ => none

def readIndex : Nat → List Token → Parsed
  | 0, _ => none
  | steps + 1, ts =>
    let slice := fun (start stop : Option Int) (step : Int) (ts : List Token) =>
      (readBody steps Token.star.power ts).map fun p => (.project (.slice start stop step) p.1, p.2)
    let (start, ts) := optionalNumber ts
    match start, ts with
    | some i, .rightBracket :: ts => some (.index i, ts)
    | _, .colon :: ts =>
      let (stop, ts) := optionalNumber ts
      match ts with
      | .rightBracket :: ts => slice start stop 1 ts
      | .colon :: ts =>
        let (step, ts) := optionalNumber ts
        match ts with
        | .rightBracket :: ts => slice start stop (step.getD 1) ts
        | _ => none
      | _ => none
    | _, _ => none

def readList : Nat → Token → List Expr → List Token → Option (List Expr × List Token)
  | 0, _, _, _ => none
  | steps + 1, closing, read, ts =>
    if peek ts = closing then some (read.reverse, ts.tail)
    else
      match readExpr steps 0 ts with
      | none => none
      | some (e, .comma :: ts) =>
        if peek ts = closing then none else readList steps closing (e :: read) ts
      | some (e, ts) => readList steps closing (e :: read) ts

def readHash : Nat → List (String × Expr) → List Token →
    Option (List (String × Expr) × List Token)
  | 0, _, _ => none
  | steps + 1, read, ts =>
    let entry := fun (name : String) (ts : List Token) =>
      match readExpr steps 0 ts with
      | some (e, .comma :: ts) => readHash steps ((name, e) :: read) ts
      | some (e, .rightBrace :: ts) => some (((name, e) :: read).reverse, ts)
      | _ => none
    match ts with
    | .identifier name :: .colon :: ts => entry name ts
    | .quotedIdentifier name :: .colon :: ts => entry name ts
    | _ => none

end

/-- Enough steps for any list of tokens: between two tokens at most five functions are entered. -/
def stepsFor (ts : List Token) : Nat := 8 * ts.length + 8

def ofTokens? (ts : List Token) : Option Expr :=
  match readExpr (stepsFor ts) 0 ts with
  | some (e, [.eof]) => some e
  | _ => none

def Expr.ofText? (text : String) : Option Expr := (Token.scan text.toList).bind ofTokens?

end Stepwise.Query
