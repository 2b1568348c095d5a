/-
# Overrides in the page address

For tests, the address of a page can put the user into a variation
(`?experiment-key=1`) and set the value of a feature (`?gb~feature-key=value`).

A feature value is read as the type that is expected, and ignored if it does not
fit. Without an expected type it is read as JSON, and as a text if it is not JSON.

Key definitions:
* `Url.variation?`, `Url.featureValue?`.
-/
import FeatureFlags.Json.Loose
import FeatureFlags.Json.Reader
import FeatureFlags.Url.Basic

namespace FeatureFlags

/-- The type that a feature value is expected to have. -/
inductive ValueKind where
  | boolean
  | integer
  | numeric
  | string
  | json
deriving DecidableEq, Repr

namespace Url

/-- The variation that the address asks for, if it is one of `count`. -/
def variation? (url : Url) (experiment : String) (count : Nat) : Option Nat := do
  let raw ← url.queryValue? experiment
  let n ← natural? (trimBlank raw.toList)
  if n < count then some n else none

/-- A truth value as it is written in an address. -/
def boolean? (raw : String) : Option Bool :=
  let word := raw.toLower
  if word = "true" ∨ word = "1" ∨ word = "on" then some true
  else if word = "false" ∨ word = "0" ∨ word = "off" then some false
  else none

/-- A signed integer of 64 bits as it is written in an address. -/
def integer64? (raw : String) : Option Int := do
  let n ← integer? (trimBlank raw.toList)
  if -Int.pow 2 63 ≤ n ∧ n < Int.pow 2 63 then some n else none

/-- A text of the query read as a kind of value. -/
def readAs (raw : String) : Option ValueKind → Option Json
  | some .boolean => (boolean? raw).map .bool
  | some .integer => (integer64? raw).map .int
  | some .numeric => (decimalFloat? (trimBlank raw.toList)).map fun x => .num (.float x)
  | some .string => some (.str raw)
  | some .json => Json.parse? raw
  | none => some ((Json.parse? raw).getD (.str raw))

/-- The value that the address sets for a feature. -/
def featureValue? (url : Url) (feature : String) (kind : Option ValueKind) : Option Json := do
  let raw ← url.queryValue? ("gb~" ++ feature)
  readAs raw kind

end Url
end FeatureFlags
