/-
# Experiments

An experiment assigns users to one of its variations. Everything else in it says
who takes part, how users are placed, and what is remembered.

Key definitions:
* `Experiment`: the definition, over a type of variation values.
* `ExperimentResult`: what running it for a user came to.
-/
import FeatureFlags.Bucketing
import FeatureFlags.Condition

namespace FeatureFlags

/-- A feature that another one depends on: its value must meet the condition, which
sees it as the attribute `value`. -/
structure Prerequisite where
  feature : String
  condition : Condition
  /-- Whether a failure blocks the whole feature instead of one rule. -/
  gate : Bool

/-- What is known about one variation besides its value. -/
structure VariationInfo where
  key : Option String
  name : Option String
  /-- Users of a passthrough variation go on to the next rule. -/
  passthrough : Option Bool
deriving DecidableEq

/-- An experiment with variations of type `V`. -/
structure Experiment (V : Type := Json) where
  key : String
  variations : List V
  weights : Option (List Float)
  active : Bool
  coverage : Option Float
  /-- Ranges that take the place of those computed from weights and coverage. -/
  ranges : Option (List BucketRange)
  condition : Option Condition
  prerequisites : List Prerequisite
  slice : Option Namespace
  /-- The variation that every user who takes part is put into. -/
  force : Option Int
  hashAttribute : Option String
  fallbackAttribute : Option String
  hashVersion : Option Int
  /-- One entry for each variation, as far as given. -/
  infos : Option (List VariationInfo)
  filters : Option (List Filter)
  seed : Option String
  name : Option String
  phase : Option String
  disableSticky : Bool
  bucketVersion : Option Int
  minBucketVersion : Option Int

namespace Experiment

variable {V W : Type}

/-- The experiment that has a key and variations, and whatever else is so if nothing is
said. -/
def basic (key : String) (variations : List V) : Experiment V where
  key := key
  variations := variations
  weights := none
  active := true
  coverage := none
  ranges := none
  condition := none
  prerequisites := []
  slice := none
  force := none
  hashAttribute := none
  fallbackAttribute := none
  hashVersion := none
  infos := none
  filters := none
  seed := none
  name := none
  phase := none
  disableSticky := false
  bucketVersion := none
  minBucketVersion := none

/-- The same experiment over other values. -/
def withVariations (e : Experiment V) (variations : List W) : Experiment W :=
  { e with variations }

/-- What is known about a variation. -/
def info? (e : Experiment V) (variation : Nat) : Option VariationInfo :=
  e.infos.bind (·[variation]?)

end Experiment

/-- What running an experiment for a user came to. -/
structure ExperimentResult (V : Type := Json) where
  /-- The value of the variation; none only if there are no variations. -/
  value : Option V
  /-- The index of the variation, zero if the user does not take part. -/
  variation : Nat
  inExperiment : Bool
  hashAttribute : String
  hashValue : String
  key : String
  name : Option String
  /-- The place of the user, if it decided. -/
  bucket : Option Float
  passthrough : Bool
  hashUsed : Bool
  stickyUsed : Bool
  /-- The feature that the experiment was run for. -/
  feature : Option String

/-- The result with its value read as another type. -/
def ExperimentResult.mapM {m : Type → Type} [Monad m] {V W : Type} (f : V → m W)
    (r : ExperimentResult V) : m (ExperimentResult W) :=
  match r.value with
  | none => pure { r with value := none }
  | some v => do
    let w ← f v
    pure { r with value := some w }

end FeatureFlags
