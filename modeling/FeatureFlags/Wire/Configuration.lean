/-
# Configuration from text

Features and saved groups come as two JSON texts, or together in one payload. A
feature that cannot be read spoils nothing else; anything but an object of features
is an error.

Key definitions:
* `Features.ofText?`, `savedGroupsOfText?`.
* `Configuration.ofTexts?`, `Configuration.ofPayload?`.
-/
import FeatureFlags.Configuration
import FeatureFlags.Json.Reader
import FeatureFlags.Wire.Feature

namespace FeatureFlags

/-- Features from the text of an object. -/
def Features.ofText? (text : String) : Option Features := (Json.read? text).bind Features.codec.read

/-- Saved groups from the text of an object. -/
def savedGroupsOfText? (text : String) : Option SavedGroups :=
  (Json.read? text).bind Codec.object.read

namespace Configuration

/-- A configuration from a text of features and one of saved groups, which may be
left out. -/
def ofTexts? (features : String) (savedGroups : Option String) : Option Configuration := do
  let features ← Features.ofText? features
  match savedGroups with
  | none => return ⟨features, []⟩
  | some text => return ⟨features, ← savedGroupsOfText? text⟩

/-- Reads features and saved groups as the fields of one record, each of which may
be left out. -/
def read (j : Json) : Option Configuration := do
  let r ← (Layout.ofNames ["features", "savedGroups"]).open? j
  return {
    features := ← r.orElse "features" Features.codec .empty
    savedGroups := ← r.orElse "savedGroups" .object [] }

/-- A configuration from the text of a payload. -/
def ofPayload? (text : String) : Option Configuration := (Json.read? text).bind read

end Configuration
end FeatureFlags
