/-
# The shortest decimal of a binary float

A float `m · 2 ^ e` stands for every real number that rounds to it: an interval
around its value, ends included exactly when `m` is even. Its shortest decimal is
the one with the fewest digits in that interval, and of those the nearest to the
value. Two decimals can be equally near; a `Tie` says which one counts.

For one digit, two digits, and so on, the two neighbours of the value on that
decimal grid are compared with the ends of the interval in exact integer
arithmetic. Seventeen digits always reach a binary64 value.

Key definitions:
* `Decimal`: `digits · 10 ^ exponent`.
* `Decimal.shortest`: the shortest decimal of a positive float.
-/
namespace FeatureFlags

/-- The number `digits · 10 ^ exponent`. -/
structure Decimal where
  digits : Nat
  exponent : Int
deriving DecidableEq, Repr

/-- Which of two equally near decimals is taken. -/
inductive Tie where
  | toEven
  | up
deriving DecidableEq, Repr

namespace Decimal

/-- The number of decimal digits of `n`. -/
def digitCount (n : Nat) : Nat := (Nat.toDigits 10 n).length

/-- The power of ten of the first digit of `m · 2 ^ e`, for positive `m`. -/
def leadingPower (m : Nat) (e : Int) : Int :=
  let num := m * Nat.pow 2 e.toNat
  let den := Nat.pow 2 (-e).toNat
  if den ≤ num then digitCount (num / den) - 1
  else -(digitCount ((num + den - 1) / num - 1) : Int)

/-- A value `m · 2 ^ e` beside the decimal grid of step `10 ^ k`: a grid point
`d` lies at `d * step`, and the value and the ends of its interval lie at
`value`, `low` and `high`, all on one integer scale. -/
structure Grid where
  step : Nat
  value : Nat
  low : Nat
  high : Nat
  closed : Bool

/-- The scale of `m · 2 ^ e` on the grid of step `10 ^ k`. The gap below a power
of two is half the gap above it, the least exponent apart. -/
def Grid.of (m : Nat) (e k : Int) : Grid :=
  let quarter := Nat.pow 2 (e - 2).toNat * Nat.pow 10 (-k).toNat
  { step := Nat.pow 10 k.toNat * Nat.pow 2 (2 - e).toNat
    value := 4 * m * quarter
    low := (if m = Nat.pow 2 52 ∧ e ≠ -1074 then 4 * m - 1 else 4 * m - 2) * quarter
    high := (4 * m + 2) * quarter
    closed := m % 2 == 0 }

namespace Grid

/-- Whether a grid point lies in the interval. -/
def holds (g : Grid) (d : Nat) : Bool :=
  if g.closed then decide (g.low ≤ d * g.step ∧ d * g.step ≤ g.high)
  else decide (g.low < d * g.step ∧ d * g.step < g.high)

/-- The grid point at or below the value. -/
def below (g : Grid) : Nat := g.value / g.step

/-- The grid point nearest to the value. -/
def nearest (g : Grid) (tie : Tie) : Nat :=
  let d := g.below
  match compare (2 * g.value) ((2 * d + 1) * g.step), tie with
  | .lt, _ => d
  | .gt, _ => d + 1
  | .eq, .up => d + 1
  | .eq, .toEven => if d % 2 = 0 then d else d + 1

/-- The grid point in the interval that is nearest to the value, if the interval
reaches one. -/
def hit? (g : Grid) (tie : Tie) : Option Nat :=
  match g.holds g.below, g.holds (g.below + 1) with
  | true, true => some (g.nearest tie)
  | true, false => some g.below
  | false, true => some (g.below + 1)
  | false, false => none

end Grid

/-- The shortest decimal of `m · 2 ^ e`, for positive `m`. -/
def shortest (tie : Tie) (m : Nat) (e : Int) : Decimal :=
  let p := leadingPower m e
  let onGrid (digits : Nat) : Option Decimal :=
    let k := p - digits
    ((Grid.of m e k).hit? tie).map (⟨·, k⟩)
  match (List.range 17).findSome? onGrid with
  | some decimal => decimal
  | none => ⟨(Grid.of m e (p - 16)).nearest tie, p - 16⟩

end Decimal
end FeatureFlags
