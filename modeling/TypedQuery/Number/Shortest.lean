import TypedQuery.Number.Binary

/-!
# Shortest decimals

The shortest decimal of a positive floating-point value is the one with the fewest digits that still
reads back as this value, and among these the nearest one. Grids of decimals are tried from coarse
to fine; on each, only the two neighbours of the value can lie in its rounding interval.
-/

namespace TypedQuery.Number

/-- The decimal `digits * 10 ^ exponent`. -/
structure Decimal where
  digits : Nat
  exponent : Int
deriving DecidableEq, Repr

/-- Which of two equally near decimals is taken. -/
inductive Tie
  | away
  | toEven
deriving DecidableEq, Repr

/-- A value between the ends of its rounding interval, all three over one denominator. -/
structure Interval where
  low : Nat
  value : Nat
  high : Nat
  unit : Nat
  closed : Bool
deriving Repr

namespace Interval

/-- The reals that round to `mantissa * 2 ^ exponent`. Below a power of two the spacing halves. -/
def ofFinite (f : Format) (mantissa : Nat) (exponent : Int) : Interval :=
  let below := if mantissa = twoTo f.fractionBits then 1 else 2
  let scale := twoTo exponent.toNat
  { low := (4 * mantissa - below) * scale
    value := 4 * mantissa * scale
    high := (4 * mantissa + 2) * scale
    unit := 4 * twoTo (-exponent).toNat
    closed := mantissa % 2 = 0 }

def contains (i : Interval) (x : Nat) : Bool :=
  if i.closed then decide (i.low ≤ x ∧ x ≤ i.high) else decide (i.low < x ∧ x < i.high)

/-- The multiple of the unit that lies in the interval and is nearest to the value, if any does. -/
def nearest? (tie : Tie) (i : Interval) : Option Nat :=
  let down := i.value / i.unit
  let rest := 2 * (i.value % i.unit)
  let up := i.unit < rest ∨ (rest = i.unit ∧ (tie = .away ∨ down % 2 = 1))
  match i.contains (down * i.unit), i.contains ((down + 1) * i.unit) with
  | true, true => some (if up then down + 1 else down)
  | true, false => some down
  | false, true => some (down + 1)
  | false, false => none

/-- The same interval seen on a grid ten times finer. -/
def refine (i : Interval) : Interval :=
  { i with low := 10 * i.low, value := 10 * i.value, high := 10 * i.high }

/-- Tries a grid of step `10 ^ exponent`, then finer ones. -/
def search (tie : Tie) : Nat → Int → Interval → Decimal
  | 0, exponent, i => ⟨i.value / i.unit, exponent⟩
  | steps + 1, exponent, i =>
      match i.nearest? tie with
      | some n => ⟨n, exponent⟩
      | none => search tie steps (exponent - 1) i.refine

end Interval

/-- A number of decimal digits that no value below `2 ^ (n + 1)` exceeds. -/
def decimalWidth (n : Nat) : Nat := n * 302 / 1000 + 2

/-- The shortest decimal of a positive finite value. The first grid is coarser than the value; the
last one tried is that of its exact decimal expansion. -/
def shortest (f : Format) (tie : Tie) (mantissa : Nat) (exponent : Int) : Decimal :=
  let i := Interval.ofFinite f mantissa exponent
  let width := decimalWidth (Nat.log2 (i.high / i.unit))
  Interval.search tie (width + (-exponent).toNat + 2) width
    { i with unit := i.unit * Nat.pow 10 width }

end TypedQuery.Number
