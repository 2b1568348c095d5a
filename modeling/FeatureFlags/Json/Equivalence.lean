/-
# Equality by value

Two values are equivalent if they have the same structure and their numbers the
same float value, so `1` and `1.0` are equivalent. Fields of objects are compared
in key order.

Key definitions:
* `Json.equivalent`: equality by value.
* `Json.isAmong`: whether a value, or an item of it, is in a list.
* `Json.looseOrder?`: the order of texts and of numbers.
-/
import FeatureFlags.Json.Loose

namespace FeatureFlags
namespace Json

mutual

/-- Equality by value. -/
def equivalent : Json → Json → Bool
  | .null, .null => true
  | .bool a, .bool b => a == b
  | .num a, .num b => a.toFloat == b.toFloat
  | .str a, .str b => a == b
  | .arr as, .arr bs => equivalentItems as bs
  | .obj as, .obj bs => equivalentFields as bs
  | _, _ => false

/-- Equality by value of items in the same places. -/
def equivalentItems : List Json → List Json → Bool
  | [], [] => true
  | a :: as, b :: bs => a.equivalent b && equivalentItems as bs
  | _, _ => false

/-- Equality by value of fields with the same names. -/
def equivalentFields : List (String × Json) → List (String × Json) → Bool
  | [], [] => true
  | (k, a) :: as, (l, b) :: bs => k == l && a.equivalent b && equivalentFields as bs
  | _, _ => false

end

/-- Whether a value is in a list by value. An array is if one of its items is. -/
def isAmong (actual : Json) (values : List Json) : Bool :=
  match actual with
  | .arr items => items.any fun item => values.any item.equivalent
  | v => values.any v.equivalent

/-- The order of two floats, none if one of them is NaN. -/
def floatOrder? (x y : Float) : Option Ordering :=
  if x < y then some .lt
  else if x == y then some .eq
  else if y < x then some .gt
  else none

/-- The order of two values. Texts are ordered by code point; if one of the values
is a number, both are read as numbers; nothing else is comparable. -/
def looseOrder? (actual expected : Json) : Option Ordering :=
  let asNumbers := do floatOrder? (← actual.looseNumber?) (← expected.looseNumber?)
  match actual, expected with
  | .str a, .str b => some (compare a b)
  | .num _, _ => asNumbers
  | _, .num _ => asNumbers
  | _, _ => none

end Json
end FeatureFlags
