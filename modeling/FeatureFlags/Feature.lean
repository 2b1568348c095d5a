/-
# Features

A feature has a value for everybody and rules that serve other values to some
users. The first rule that applies decides. A rule forces a value, runs an
experiment, or does nothing.

Key definitions:
* `FeatureRule`, `Feature`.
* `FeatureRule.experiment?`: the experiment that a rule describes.
* `Declared`: a feature definition, or the value that should have been one.
-/
import FeatureFlags.Experiment

namespace FeatureFlags

/-- An exposure that is reported when the rule it belongs to is applied. -/
structure TrackedExposure where
  experiment : Experiment
  result : ExperimentResult

/-- One rule of a feature. `force` is none if the rule does not force a value; a
rule may well force `null`. -/
structure FeatureRule where
  id : Option String
  condition : Option Condition
  prerequisites : List Prerequisite
  coverage : Option Float
  force : Option Json
  variations : Option (List Json)
  key : Option String
  weights : Option (List Float)
  slice : Option Namespace
  hashAttribute : Option String
  fallbackAttribute : Option String
  hashVersion : Option Int
  range : Option BucketRange
  ranges : Option (List BucketRange)
  infos : Option (List VariationInfo)
  filters : Option (List Filter)
  seed : Option String
  name : Option String
  phase : Option String
  tracks : List TrackedExposure
  disableSticky : Bool
  bucketVersion : Option Int
  minBucketVersion : Option Int

namespace FeatureRule

/-- The rule that does nothing. -/
def idle : FeatureRule where
  id := none
  condition := none
  prerequisites := []
  coverage := none
  force := none
  variations := none
  key := none
  weights := none
  slice := none
  hashAttribute := none
  fallbackAttribute := none
  hashVersion := none
  range := none
  ranges := none
  infos := none
  filters := none
  seed := none
  name := none
  phase := none
  tracks := []
  disableSticky := false
  bucketVersion := none
  minBucketVersion := none

/-- The experiment that a rule with variations describes. It has the key of the
feature if the rule gives none, and no prerequisites, which the rule checks. -/
def experiment? (rule : FeatureRule) (feature : String) : Option Experiment :=
  rule.variations.map fun variations =>
    { key := rule.key.getD feature
      variations
      weights := rule.weights
      active := true
      coverage := rule.coverage
      ranges := rule.ranges
      condition := rule.condition
      prerequisites := []
      slice := rule.slice
      force := none
      hashAttribute := rule.hashAttribute
      fallbackAttribute := rule.fallbackAttribute
      hashVersion := rule.hashVersion
      infos := rule.infos
      filters := rule.filters
      seed := rule.seed
      name := rule.name
      phase := rule.phase
      disableSticky := rule.disableSticky
      bucketVersion := rule.bucketVersion
      minBucketVersion := rule.minBucketVersion }

/-- The experiment of a rule has no prerequisites of its own. -/
theorem prerequisites_experiment? {rule : FeatureRule} {feature : String} {e : Experiment}
    (h : rule.experiment? feature = some e) : e.prerequisites = [] := by
  unfold experiment? at h
  obtain ⟨variations, -, rfl⟩ := Option.map_eq_some_iff.mp h
  rfl

/-- How the forced value of a rule is released; the key of the feature is the seed
if the rule gives none. -/
def rollout (rule : FeatureRule) (feature : String) (fallback : Option String) : Rollout :=
  { seed := rule.seed.getD feature
    hashAttribute := rule.hashAttribute
    fallbackAttribute := fallback
    range := rule.range
    coverage := rule.coverage
    hashVersion := rule.hashVersion }

end FeatureRule

/-- A feature: the value for everybody, and the rules in order. -/
structure Feature where
  defaultValue : Json
  rules : List FeatureRule

/-- What is stored under the key of a feature. A value that does not fit is kept, and
the feature counts as unknown. -/
inductive Declared where
  | feature (feature : Feature)
  | unreadable (value : Json)

/-- The feature, if there is one. -/
def Declared.feature? : Declared → Option Feature
  | .feature f => some f
  | .unreadable _ => none

/-- Feature definitions by key. -/
abbrev Features := Dictionary Declared

end FeatureFlags
