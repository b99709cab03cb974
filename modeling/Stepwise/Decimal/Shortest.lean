/-!
# Shortest decimals of doubles

The shortest decimal of a double: among the decimals that round to it, one with the fewest digits,
and of those the nearest. The search goes over grids of multiples of a power of ten, from coarse to
fine, in exact arithmetic on naturals.
-/

namespace Stepwise

set_option autoImplicit false

/-- The number `digits * 10 ^ exponent`. -/
structure Decimal where
  digits : Nat
  exponent : Int
deriving DecidableEq, Repr

namespace Decimal

structure Binary where
  mantissa : Nat
  exponent : Int
deriving DecidableEq, Repr

def leadingBit : Nat := 0x10000000000000

def Binary.ofFloat? (x : Float) : Option (Bool × Binary) :=
  let bits : Nat := x.toBits.toNat
  let negative := bits / 0x8000000000000000 == 1
  let field : Nat := bits / leadingBit % 2048
  let fraction : Nat := bits % leadingBit
  if field = 2047 then none
  else if field = 0 then some (negative, ⟨fraction, -1074⟩)
  else some (negative, ⟨leadingBit + fraction, Int.ofNat field - 1075⟩)

structure Interval where
  low : Nat
  value : Nat
  high : Nat
  denominator : Nat
  closed : Bool

/-- Halfway to either neighbour; below a power of two the lower neighbour is nearer. The ends
round to the double exactly when its mantissa is even. -/
def Binary.interval (b : Binary) : Interval :=
  let gapBelow := if b.mantissa = leadingBit ∧ -1074 < b.exponent then 1 else 2
  let shift := b.exponent - 2
  let up := Nat.pow 2 shift.toNat
  { low := (4 * b.mantissa - gapBelow) * up
    value := 4 * b.mantissa * up
    high := (4 * b.mantissa + 2) * up
    denominator := Nat.pow 2 (-shift).toNat
    closed := b.mantissa % 2 = 0 }

/-- The multiple of `10 ^ k` in the interval that is nearest to its value, if there is one. -/
def Interval.onGrid (i : Interval) (k : Int) : Option Nat :=
  let unit := i.denominator * Nat.pow 10 k.toNat
  let scale := Nat.pow 10 (-k).toNat
  let inside := fun c : Nat =>
    if i.closed then i.low * scale ≤ c * unit && c * unit ≤ i.high * scale
    else i.low * scale < c * unit && c * unit < i.high * scale
  let below := i.value * scale / unit
  let rest := i.value * scale % unit
  let nearer := 2 * rest < unit || (2 * rest = unit && below % 2 = 0)
  match inside below, inside (below + 1) with
  | true, true => some (if nearer then below else below + 1)
  | true, false => some below
  | false, true => some (below + 1)
  | false, false => none

/-- The first grid that meets the interval, going down from `10 ^ k`. -/
def Interval.search (i : Interval) : Nat → Int → Decimal
  | 0, k => ⟨i.value / i.denominator, k⟩
  | steps + 1, k =>
    match i.onGrid k with
    | some c => ⟨c, k⟩
    | none => i.search steps (k - 1)

def strip : Nat → Decimal → Decimal
  | 0, d => d
  | steps + 1, d =>
    if d.digits ≠ 0 ∧ d.digits % 10 = 0 then strip steps ⟨d.digits / 10, d.exponent + 1⟩ else d

def Binary.topGrid (b : Binary) : Int :=
  (b.exponent + (Nat.log2 b.mantissa : Int) + 1) * 30103 / 100000 + 1

def ofBinary (b : Binary) : Decimal :=
  if b.mantissa = 0 then ⟨0, 0⟩
  else strip 20 (b.interval.search 24 b.topGrid)

/-- The sign and the shortest decimal of a finite double. -/
def shortest? (x : Float) : Option (Bool × Decimal) :=
  (Binary.ofFloat? x).map fun p => (p.1, ofBinary p.2)

/-- Where a decimal is written without exponent, by the power of ten of its first digit. -/
structure Style where
  plainFrom : Int
  plainTo : Int
deriving Repr

def zeros (n : Nat) : String := String.ofList (List.replicate n '0')

def write (style : Style) (d : Decimal) : String :=
  let text := toString d.digits
  let count := text.length
  let lead : Int := d.exponent + count - 1
  if d.digits = 0 then "0.0"
  else if style.plainFrom ≤ lead ∧ lead ≤ style.plainTo then
    if 0 ≤ d.exponent then text ++ zeros d.exponent.toNat ++ ".0"
    else if lead < 0 then "0." ++ zeros (-lead - 1).toNat ++ text
    else
      let whole := lead.toNat + 1
      String.ofList (text.toList.take whole) ++ "." ++ String.ofList (text.toList.drop whole)
  else
    let mantissa := match text.toList with
      | [] => ""
      | [c] => String.ofList [c]
      | c :: rest => String.ofList (c :: '.' :: rest)
    mantissa ++ (if lead < 0 then "e-" else "e+") ++ toString lead.natAbs

end Decimal

end Stepwise
