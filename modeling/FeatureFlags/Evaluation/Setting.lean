/-
# What an evaluation depends on

An evaluation is given a configuration, options that are the same for all users, and
a profile of the user. None of them changes while it runs. What a profile forces goes
before what the options force.

Key definitions:
* `EvalOptions`, `Profile`, `Setting`.
* `Setting.override?`: the value that is set for a feature from outside.
* `Setting.identityFor`: who the user is for an experiment.
-/
import FeatureFlags.Configuration
import FeatureFlags.Result
import FeatureFlags.UrlOverride

namespace FeatureFlags

/-- Options that are the same for all users. -/
structure EvalOptions where
  /-- Whether experiments are run at all. -/
  enabled : Bool := true
  /-- Whether users are kept from being assigned by chance. -/
  qaMode : Bool := false
  /-- Whether the page address may set feature values. -/
  allowUrlOverrides : Bool := false
  forcedVariations : Dictionary Nat := .empty
  forcedValues : Dictionary Json := .empty
  /-- Whether assignments are stored and looked up. -/
  sticky : Bool := false

/-- A user, apart from the stored assignments. -/
structure Profile where
  attributes : Attributes := []
  /-- The address of the current page. -/
  url : Option Url := none
  forcedVariations : Dictionary Nat := .empty
  forcedValues : Dictionary Json := .empty

/-- All that does not change during an evaluation. -/
structure Setting where
  configuration : Configuration
  options : EvalOptions
  profile : Profile

namespace Setting

/-- What is known about the user. -/
def attributes (s : Setting) : Attributes := s.profile.attributes

/-- The groups that conditions may refer to. -/
def savedGroups (s : Setting) : SavedGroups := s.configuration.savedGroups

/-- The variation that an experiment is forced to. -/
def forcedVariation? (s : Setting) (experiment : String) : Option Nat :=
  (s.profile.forcedVariations.find? experiment).or (s.options.forcedVariations.find? experiment)

/-- The value that a feature is forced to. -/
def forcedValue? (s : Setting) (feature : String) : Option Json :=
  (s.profile.forcedValues.find? feature).or (s.options.forcedValues.find? feature)

/-- The value that the page address sets for a feature, if it may. -/
def urlValue? (s : Setting) (feature : String) (kind : Option ValueKind) : Option Json :=
  if s.options.allowUrlOverrides then s.profile.url.bind (·.featureValue? feature kind) else none

/-- The outcome for a feature whose value is set from outside. -/
def override? (s : Setting) (feature : String) (kind : Option ValueKind) : Option FeatureResult :=
  match s.forcedValue? feature with
  | some value => some (.override value)
  | none => (s.urlValue? feature kind).map .urlOverride

/-- The variation that the page address asks for. -/
def urlVariation? (s : Setting) (experiment : String) (count : Nat) : Option Nat :=
  s.profile.url.bind (·.variation? experiment count)

/-- Whether assignments are stored, unless the experiment or rule says otherwise. -/
def sticks (s : Setting) (disabled : Bool) : Bool := s.options.sticky && !disabled

/-- The fallback attribute in use. Without stored assignments there is none. -/
def fallback (s : Setting) (disabled : Bool) (name : Option String) : Option String :=
  if s.sticks disabled then name else none

/-- Who the user is for an experiment. -/
def identityFor {V : Type} (s : Setting) (e : Experiment V) : Identity :=
  .resolve e.hashAttribute (s.fallback e.disableSticky e.fallbackAttribute) s.attributes

end Setting
end FeatureFlags
