/-
# What evaluating a feature comes to

Each outcome carries only what belongs to it: a value where there is one, the rule
that gave it, and the experiment with its result.

Key definitions:
* `FeatureSource`: the kinds of outcome.
* `FeatureResult`: an outcome, over a type of values.
* `FeatureResult.mapM`: the outcome with its value read as another type.
-/
import FeatureFlags.Experiment

namespace FeatureFlags

/-- Where the value of a feature came from. -/
inductive FeatureSource where
  | unknownFeature
  | defaultValue
  | force
  | urlOverride
  | experiment
  | cyclicPrerequisite
  | override
  | prerequisite
deriving DecidableEq, Repr

namespace FeatureSource

/-- All sources. -/
def all : List FeatureSource :=
  [unknownFeature, defaultValue, force, urlOverride, experiment, cyclicPrerequisite, override,
    prerequisite]

/-- The name of a source in JSON. -/
def name : FeatureSource → String
  | unknownFeature => "unknownFeature"
  | defaultValue => "defaultValue"
  | force => "force"
  | urlOverride => "urlOverride"
  | experiment => "experiment"
  | cyclicPrerequisite => "cyclicPrerequisite"
  | override => "override"
  | prerequisite => "prerequisite"

/-- The source with a name. -/
def ofName? (name : String) : Option FeatureSource :=
  all.find? fun source => source.name == name

theorem ofName?_name (source : FeatureSource) : ofName? source.name = some source := by
  cases source <;> decide

end FeatureSource

/-- The outcome of evaluating a feature. -/
inductive FeatureResult (V : Type := Json) where
  /-- The feature is not defined, or its definition cannot be read. -/
  | unknownFeature
  /-- No rule applied. -/
  | defaultValue (value : V)
  /-- A rule forced the value. -/
  | force (value : V) (ruleId : Option String)
  /-- The page address gave the value. -/
  | urlOverride (value : V)
  /-- An experiment of a rule assigned the user. -/
  | experiment (value : V) (ruleId : Option String) (experiment : Experiment)
      (result : ExperimentResult V)
  /-- The feature depends on itself. -/
  | cyclicPrerequisite
  /-- The value was forced for the user or for everybody. -/
  | override (value : V)
  /-- A prerequisite blocks the feature. -/
  | prerequisite

namespace FeatureResult

variable {V W : Type}

/-- The value, if the outcome has one. -/
def value? : FeatureResult V → Option V
  | defaultValue v | force v _ | urlOverride v | experiment v _ _ _ | override v => some v
  | unknownFeature | cyclicPrerequisite | prerequisite => none

/-- Where the value came from. -/
def source : FeatureResult V → FeatureSource
  | unknownFeature => .unknownFeature
  | defaultValue _ => .defaultValue
  | force _ _ => .force
  | urlOverride _ => .urlOverride
  | experiment _ _ _ _ => .experiment
  | cyclicPrerequisite => .cyclicPrerequisite
  | override _ => .override
  | prerequisite => .prerequisite

/-- The id of the rule that gave the value, if it has one. -/
def ruleId? : FeatureResult V → Option String
  | force _ id | experiment _ id _ _ => id
  | _ => none

/-- The experiment that assigned the user. -/
def experiment? : FeatureResult V → Option Experiment
  | experiment _ _ e _ => some e
  | _ => none

/-- The result of the experiment that assigned the user. -/
def experimentResult? : FeatureResult V → Option (ExperimentResult V)
  | experiment _ _ _ r => some r
  | _ => none

/-- The outcome with every value in it read as another type. -/
def mapM {m : Type → Type} [Monad m] (f : V → m W) : FeatureResult V → m (FeatureResult W)
  | unknownFeature => pure unknownFeature
  | cyclicPrerequisite => pure cyclicPrerequisite
  | prerequisite => pure prerequisite
  | defaultValue v => do return defaultValue (← f v)
  | force v id => do return force (← f v) id
  | urlOverride v => do return urlOverride (← f v)
  | override v => do return override (← f v)
  | experiment v id e r => do
    let w ← f v
    return experiment w id e (← r.mapM f)

/-- Whether the feature counts as on. -/
def isOn (r : FeatureResult) : Bool := r.value?.any Json.isOn

end FeatureResult
end FeatureFlags
