/-
# Configuration

A configuration is what features are evaluated against: their definitions, and the
saved groups that conditions may refer to. It never changes; a store that is updated
holds another one afterwards.

Key definitions:
* `Configuration`, `Configuration.feature?`.
* `Configuration.identifiers`: the attributes that sticky documents are asked for.
-/
import FeatureFlags.Feature
import FeatureFlags.Sticky.Service

namespace FeatureFlags

/-- Saved groups by name. -/
abbrev SavedGroups := Entries Json

/-- Feature definitions and saved groups. -/
structure Configuration where
  features : Features
  savedGroups : SavedGroups

namespace Configuration

/-- The configuration that knows no feature and no group. -/
def empty : Configuration := ⟨.empty, []⟩

instance : Inhabited Configuration := ⟨empty⟩

/-- The configuration with other features. -/
def withFeatures (configuration : Configuration) (features : Features) : Configuration :=
  { configuration with features }

/-- The configuration with other saved groups. -/
def withSavedGroups (configuration : Configuration) (savedGroups : SavedGroups) : Configuration :=
  { configuration with savedGroups }

/-- The feature with a key, if it is defined and its definition could be read. -/
def feature? (configuration : Configuration) (key : String) : Option Feature :=
  (configuration.features.find? key).bind Declared.feature?

/-- The attributes that sticky documents are asked for, in ascending order. -/
def identifiers (configuration : Configuration) : List String := configuration.features.identifiers

end Configuration
end FeatureFlags
