import SqlStatement.Binary64

/-!
# The shortest decimal text of a number

Every real number close enough to a double is rounded to it.  Among the decimals
that are, the text shows the one on the coarsest power of ten, which has the
fewest digits; of two on that power it shows the nearer one, and the greater one
if both are as near.  It is written positionally, without an exponent.

All comparisons are made between integers.  The double `m * 2 ^ q` is `4 * m`
quarter units of `2 ^ (q - 2)`, and the ends of the interval that rounds to it
are integers in that unit, too.
-/

namespace SqlStatement

/-- The number `coefficient * 10 ^ exponent`. -/
structure Decimal where
  coefficient : Nat
  exponent : Int

namespace Decimal

/-- Digits with a point among or in front of them where the exponent says so. -/
def positional (d : Decimal) : String :=
  let digits := Nat.toDigits 10 d.coefficient
  if 0 ≤ d.exponent then
    String.ofList (digits ++ List.replicate d.exponent.toNat '0')
  else
    let places := (-d.exponent).toNat
    if places < digits.length then
      let whole := digits.length - places
      String.ofList (digits.take whole ++ '.' :: digits.drop whole)
    else
      String.ofList
        ('0' :: '.' :: (List.replicate (places - digits.length) '0' ++ digits))

end Decimal

namespace Binary64

/-- The reals that round to a double, in units of `2 ^ scale`; the ends belong
to it if `closed`. -/
structure Interval where
  lower : Nat
  value : Nat
  upper : Nat
  scale : Int
  closed : Bool

/-- Half a unit to either side, but a quarter downwards from a power of two,
below which the doubles lie twice as close.  A tie goes to the even significand.
-/
def interval (x : Binary64) : Interval where
  lower := 4 * x.significand -
    if x.fraction = 0 ∧ 1 < x.exponentField then 1 else 2
  value := 4 * x.significand
  upper := 4 * x.significand + 2
  scale := x.scale - 2
  closed := x.significand % 2 == 0

/-- The numerator of `a * 2 ^ scale / 10 ^ place` over the denominator
`Interval.unit`. -/
def Interval.scaled (i : Interval) (place : Int) (a : Nat) : Nat :=
  a * Nat.pow 2 i.scale.toNat * Nat.pow 10 (-place).toNat

def Interval.unit (i : Interval) (place : Int) : Nat :=
  Nat.pow 2 (-i.scale).toNat * Nat.pow 10 place.toNat

/-- Whether `n * 10 ^ place` lies in the interval. -/
def Interval.holds (i : Interval) (place : Int) (n : Nat) : Bool :=
  let point := n * i.unit place
  if i.closed then
    i.scaled place i.lower ≤ point && point ≤ i.scaled place i.upper
  else
    i.scaled place i.lower < point && point < i.scaled place i.upper

/-- The multiple of `10 ^ place` next to the value, among its two neighbours,
that lies in the interval; the nearer one if both do. -/
def Interval.nearest? (i : Interval) (place : Int) : Option Nat :=
  let value := i.scaled place i.value
  let unit := i.unit place
  let below := value / unit
  match i.holds place below, i.holds place (below + 1) with
  | false, false => none
  | true, false => some below
  | false, true => some (below + 1)
  | true, true => some (if 2 * (value % unit) < unit then below else below + 1)

/-- The first hit among the places `fuel - 324`, …, `-324`.  No place below the
last one is needed, since every interval is wider than `10 ^ (-324)`. -/
def Interval.search (i : Interval) : Nat → Decimal
  | 0 => ⟨(i.nearest? (-324)).getD 0, -324⟩
  | fuel + 1 =>
      let place := (fuel : Int) + 1 - 324
      match i.nearest? place with
      | some n => ⟨n, place⟩
      | none => i.search fuel

/-- The shortest decimal that rounds to the magnitude of `x`; no double reaches
`10 ^ 309`. -/
def shortest (x : Binary64) : Decimal :=
  if x.isZero then ⟨0, 0⟩ else x.interval.search 633

/-- The text of a number, with the sign of a zero and without one for what is no
number. -/
def text (x : Binary64) : String :=
  if x.isNaN then "NaN"
  else
    let sign := if x.isNegative then "-" else ""
    sign ++ if x.isFinite then x.shortest.positional else "inf"

end Binary64

end SqlStatement
