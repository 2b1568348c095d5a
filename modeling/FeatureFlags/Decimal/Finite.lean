/-
# Finite floats

Binary floats without infinities and NaN, the only ones that JSON can hold, and the
floats nearest to integers.

Key definitions:
* `nearestFloat`: the float nearest to an integer.
* `FiniteFloat`: a float that is neither infinite nor NaN.
-/
namespace FeatureFlags

/-- The float nearest to an integer, ties to even. -/
def nearestFloat (n : Int) : Float := .ofModel (Float.Model.ofInt n)

instance instNatCastFloat : NatCast Float := ⟨fun n => nearestFloat n⟩

/-- A float that is neither infinite nor NaN. -/
structure FiniteFloat where
  value : Float
  finite : value.isFinite = true
deriving DecidableEq

namespace FiniteFloat

/-- The finite float with this value, if there is one. -/
def ofFloat? (x : Float) : Option FiniteFloat :=
  if h : x.isFinite = true then some ⟨x, h⟩ else none

theorem ofFloat?_value (x : FiniteFloat) : ofFloat? x.value = some x := by
  simp [ofFloat?, x.finite]

end FiniteFloat
end FeatureFlags
