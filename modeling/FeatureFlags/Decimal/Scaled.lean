/-
# Floats from decimal numerals

Two rules turn digits and a power of ten into a float.

* `nearestScaled` rounds the exact value once. It reads numbers inside text.
* `scaled?` rounds the digits first and then multiplies or divides by a power of
  ten, which rounds again; a result beyond the largest float is refused. It reads
  the literals of JSON text.

Key definitions:
* `nearestScaled`, `scaled?`.
-/
import FeatureFlags.Decimal.Finite
import FeatureFlags.Decimal.Shortest

namespace FeatureFlags

/-- The float nearest to `digits · 10 ^ power`, ties to even: infinite when the
first digit stands beyond the largest float, zero when it stands below half of the
least one. -/
def nearestScaled (digits : Nat) (power : Int) : Float :=
  let leading : Int := Decimal.digitCount digits + power
  if digits = 0 ∨ leading < -330 then 0
  else if 320 < leading then 1 / 0
  else .ofModel (Float.Model.ofScientific digits power)

/-- The float nearest to `10 ^ power`. -/
def powerOfTen (power : Nat) : Float := nearestFloat (Int.pow 10 power)

/-- `digits · 10 ^ power` from the float nearest to `digits`, scaled by a power of
ten up to `10 ^ 308`; far below one it takes two steps. There is no result if it
would be infinite. -/
def scaled? (digits : Nat) (power : Int) : Option FiniteFloat :=
  let x := nearestFloat digits
  if digits = 0 then FiniteFloat.ofFloat? x
  else if 308 < power then none
  else if 0 ≤ power then FiniteFloat.ofFloat? (x * powerOfTen power.toNat)
  else if -308 ≤ power then FiniteFloat.ofFloat? (x / powerOfTen (-power).toNat)
  else if -616 ≤ power then
    FiniteFloat.ofFloat? (x / powerOfTen 308 / powerOfTen (-power - 308).toNat)
  else FiniteFloat.ofFloat? 0

end FeatureFlags
