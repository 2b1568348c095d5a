/-
# Outcomes as JSON

Key definitions:
* `FeatureSource.codec`.
* `FeatureResult.toJson`: an outcome with its value, whether it is on, its source
  and its rule, and the experiment if one assigned the user.
-/
import FeatureFlags.Result
import FeatureFlags.Wire.Experiment

namespace FeatureFlags

/-- A source by its name, or as an object whose only field has that name and the
value `null`. -/
def FeatureSource.codec : Codec FeatureSource where
  read
    | .str name => FeatureSource.ofName? name
    | .obj [(name, .null)] => FeatureSource.ofName? name
    | _ => none
  write source := .str source.name

/-- An outcome. No value is written as `null`, and no rule id as the empty text. -/
def FeatureResult.toJson (r : FeatureResult) : Json :=
  Record.write [
    ("value", some (r.value?.getD .null)),
    ("on", some (.bool r.isOn)),
    ("off", some (.bool !r.isOn)),
    ("source", some (FeatureSource.codec.write r.source)),
    ("ruleId", some (.str (r.ruleId?.getD ""))),
    ("experiment", r.experiment?.map (Experiment.codec .json).write),
    ("experimentResult", r.experimentResult?.map (ExperimentResult.codec .json).write)]

end FeatureFlags
