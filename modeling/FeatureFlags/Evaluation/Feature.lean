/-
# Evaluating features

A value that is set from outside decides a feature. Otherwise its rules are tried in
order, and the first one that serves a value does so; if none does, the feature has
the value for everybody.

Rules depend on the values of other features, which are evaluated on the way. The
features being evaluated are known, and a feature that depends on itself is found out
when it is met again. So evaluations are nested at most one deeper than there are
features that can be read.

Key definitions:
* `Setting.serve?`: what one rule comes to.
* `Setting.evaluate`: evaluates a feature.
* `Setting.evaluateFeature`, `Setting.runExperiment`: evaluation from the start.

Key theorems:
* `Setting.evaluate_of_mem`, `Setting.evaluate_of_not_mem`: what evaluating comes to.
-/
import FeatureFlags.Evaluation.Experiment

namespace FeatureFlags

namespace Setting

/-- Whether the rule forces its value for the user. -/
def forces (s : Setting) (feature : String) (rule : FeatureRule) : Bool :=
  rule.condition.all (·.holds s.attributes s.savedGroups) &&
    (rule.rollout feature (s.fallback rule.disableSticky rule.fallbackAttribute)).includes
      s.attributes

/-- What a rule whose prerequisites are met comes to: an outcome, or nothing, and
then the next rule is tried. -/
def outcomeOf? (s : Setting) (evaluate : String → Eval FeatureResult) (feature : String)
    (rule : FeatureRule) : Eval (Option FeatureResult) :=
  if !(rule.filters.all fun filters => filters.all (·.admits s.attributes)) then return none
  else match rule.force with
    | some value =>
      if s.forces feature rule then do
        Eval.trackAll rule.tracks
        return some (.force value rule.id)
      else return none
    | none =>
      match rule.experiment? feature with
      | none => return none
      | some e => do
        let result ← s.run evaluate e (some feature)
        if result.inExperiment ∧ !result.passthrough then
          return some (.experiment (result.value.getD .null) rule.id e result)
        else return none

/-- What a rule comes to: an outcome, or nothing, and then the next rule is tried. -/
def serve? (s : Setting) (evaluate : String → Eval FeatureResult) (feature : String)
    (rule : FeatureRule) : Eval (Option FeatureResult) := do
  match ← Eval.prerequisites s.savedGroups evaluate rule.prerequisites with
  | .cyclic => return some .cyclicPrerequisite
  | .failed true => return some .prerequisite
  | .failed false => return none
  | .met => s.outcomeOf? evaluate feature rule

/-- The outcome of the first rule that has one, or else of the value for everybody. -/
def serveFirst (s : Setting) (evaluate : String → Eval FeatureResult) (feature : String)
    (defaultValue : Json) : List FeatureRule → Eval FeatureResult
  | [] => return .defaultValue defaultValue
  | rule :: rest => do
    match ← s.serve? evaluate feature rule with
    | some result => return result
    | none => serveFirst s evaluate feature defaultValue rest

/-- The features that could be read and are not being evaluated. -/
def pending (s : Setting) (path : List String) : List String :=
  s.configuration.features.keys.filter fun key =>
    (s.configuration.feature? key).isSome && !path.contains key

theorem mem_pending {s : Setting} {path : List String} {feature : String} {definition : Feature}
    (hpath : feature ∉ path) (hdef : s.configuration.feature? feature = some definition) :
    feature ∈ s.pending path := by
  have hkey : feature ∈ s.configuration.features.keys := by
    cases h : s.configuration.features.find? feature with
    | none => simp [Configuration.feature?, h] at hdef
    | some _ => exact Dictionary.mem_keys_of_find? h
  simp [pending, hkey, hdef, hpath]

theorem pending_cons (s : Setting) (path : List String) (feature : String) :
    s.pending (feature :: path) = (s.pending path).filter (· ≠ feature) := by
  simp only [pending, List.filter_filter]
  congr 1
  funext key
  by_cases h : key = feature <;> simp [h]

/-- Each feature that is entered leaves fewer of them pending. -/
theorem length_pending_cons_lt {s : Setting} {path : List String} {feature : String}
    {definition : Feature} (hpath : feature ∉ path)
    (hdef : s.configuration.feature? feature = some definition) :
    (s.pending (feature :: path)).length < (s.pending path).length := by
  rw [pending_cons]
  exact List.length_filter_lt_length_iff_exists.mpr ⟨feature, mem_pending hpath hdef, by simp⟩

/-- Evaluates a feature in the course of evaluating those of `path`, the innermost
first. -/
def evaluate (s : Setting) (path : List String) (feature : String) (kind : Option ValueKind) :
    Eval FeatureResult :=
  if _hpath : feature ∈ path then Eval.reportUse path feature .cyclicPrerequisite
  else match s.override? feature kind with
    | some result => Eval.reportUse path feature result
    | none =>
      match _hdef : s.configuration.feature? feature with
      | none => Eval.reportUse path feature .unknownFeature
      | some definition => do
        let result ← s.serveFirst (fun other => s.evaluate (feature :: path) other none) feature
          definition.defaultValue definition.rules
        Eval.reportUse path feature result
termination_by (s.pending path).length
decreasing_by exact length_pending_cons_lt _hpath _hdef

theorem evaluate_of_mem (s : Setting) {path : List String} {feature : String}
    (kind : Option ValueKind) (hpath : feature ∈ path) :
    s.evaluate path feature kind = Eval.reportUse path feature .cyclicPrerequisite := by
  rw [evaluate, dif_pos hpath]

/-- A feature that is not being evaluated is set from outside, not known, or decided by
its rules. -/
theorem evaluate_of_not_mem (s : Setting) {path : List String} {feature : String}
    (kind : Option ValueKind) (hpath : feature ∉ path) :
    s.evaluate path feature kind =
      match s.override? feature kind, s.configuration.feature? feature with
      | some result, _ => Eval.reportUse path feature result
      | none, none => Eval.reportUse path feature .unknownFeature
      | none, some definition =>
        s.serveFirst (fun other => s.evaluate (feature :: path) other none) feature
          definition.defaultValue definition.rules >>= Eval.reportUse path feature := by
  rw [evaluate, dif_neg hpath]
  cases s.override? feature kind with
  | some result => rfl
  | none =>
    simp only
    split <;> rename_i h <;> simp only [h]

/-- Evaluates a feature, whose value is expected to be of a kind. -/
def evaluateFeature (s : Setting) (feature : String) (kind : Option ValueKind) :
    Eval FeatureResult :=
  s.evaluate [] feature kind

/-- Runs an experiment that belongs to no feature. -/
def runExperiment (s : Setting) (e : Experiment) : Eval ExperimentResult :=
  s.run (fun feature => s.evaluate [] feature none) e none

end Setting
end FeatureFlags
