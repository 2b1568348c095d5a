/-
# Running experiments

Whether and how a user takes part in an experiment is decided first. The result says
what the decision means for the user, and only an assignment leaves traces: it is
stored if assignments are, and the exposure is reported.

The decision asks, in this order, whether there are two variations at all and
experiments are run, whether the page address or a forced variation decides, whether
the experiment is active and the user can be placed, whether an assignment is stored,
whether the user is one of those that the experiment is for, and last where the user
falls.

Key definitions:
* `Decision`, `Setting.decide`.
* `Setting.resultOf`: what a decision means for the user.
* `Setting.run`: runs an experiment.
-/
import FeatureFlags.Evaluation.Prerequisites
import FeatureFlags.Evaluation.Setting

namespace FeatureFlags

/-- Whether and how a user takes part in an experiment. -/
inductive Decision where
  /-- The user does not take part. -/
  | excluded
  /-- The user is kept out because of an assignment under an old bucket version. -/
  | blocked
  /-- The variation is set from outside. -/
  | forced (variation : Nat)
  /-- The user is assigned to a variation, falls in `bucket`, and is so because of a
  stored assignment if `sticky`. -/
  | assigned (variation : Nat) (bucket : Float) (sticky : Bool)

namespace Experiment

variable {V : Type}

/-- The ranges of the variations: those given, or else those that coverage and
weights make. -/
def bucketRanges (e : Experiment V) : List BucketRange :=
  e.ranges.getD (FeatureFlags.bucketRanges e.variations.length (e.coverage.getD 1) e.weights)

/-- The variation that a user falls in: the stored one, or else the one by place. -/
def chosen? (e : Experiment V) (sticky : StickyVariation) (bucket : Float) : Option Nat :=
  sticky.variation?.or (chooseVariation bucket e.bucketRanges)

/-- Where a user with the given text falls. -/
def bucketOf? (e : Experiment V) (value : String) : Option Float :=
  hashUnit Float (e.seed.getD e.key) value (e.hashVersion.getD 1)

/-- Whether the filters admit a user; without filters the name space counts. -/
def admits (e : Experiment V) (identity : Identity) (attributes : Attributes) : Bool :=
  match e.filters, e.slice with
  | some filters, _ => filters.all (·.admits attributes)
  | none, some slice => slice.admits identity.value
  | none, none => true

/-- Whether the condition holds for a user, if there is one. -/
def conditionHolds (e : Experiment V) (attributes : Attributes) (groups : SavedGroups) : Bool :=
  e.condition.all (·.holds attributes groups)

end Experiment

namespace Setting

variable {V : Type}

/-- Whether an experiment is for the user: filters, condition, prerequisites. -/
def isTarget (s : Setting) (evaluate : String → Eval FeatureResult) (e : Experiment V) :
    Eval Bool :=
  if e.admits (s.identityFor e) s.attributes ∧ e.conditionHolds s.attributes s.savedGroups then do
    let outcome ← Eval.prerequisites s.savedGroups evaluate e.prerequisites
    return decide (outcome = .met)
  else return false

/-- What the stored assignments say, if they are used. -/
def stickyVariation (s : Setting) (e : Experiment V) (docs : StickyDocuments) : StickyVariation :=
  if s.sticks e.disableSticky then e.sticky.lookup docs s.attributes else .unassigned

/-- The decision for a user that the experiment is for, by where the user falls. -/
def place (s : Setting) (e : Experiment V) (sticky : StickyVariation) : Decision :=
  match e.bucketOf? (s.identityFor e).value with
  | none => .excluded
  | some bucket =>
    if sticky = .blocked then .blocked
    else match e.chosen? sticky bucket with
      | none => .excluded
      | some variation =>
        match e.force with
        | some n => if n < 0 then .excluded else .forced n.toNat
        | none =>
          if s.options.qaMode then .excluded
          else .assigned variation bucket sticky.variation?.isSome

/-- The decision before stored assignments and targeting are looked at, if it is
made by then. -/
def early? (s : Setting) (e : Experiment V) : Option Decision :=
  if e.variations.length < 2 ∨ !s.options.enabled then some .excluded
  else match s.urlVariation? e.key e.variations.length with
    | some variation => some (.forced variation)
    | none =>
      match s.forcedVariation? e.key with
      | some variation => some (.forced variation)
      | none =>
        let value := (s.identityFor e).value
        if !e.active ∨ value = "" ∨ value = "null" then some .excluded else none

/-- Whether and how the user takes part in an experiment. A stored assignment makes
targeting superfluous. -/
def decide (s : Setting) (evaluate : String → Eval FeatureResult) (e : Experiment V) :
    Eval Decision :=
  match s.early? e with
  | some decision => return decision
  | none => do
    let sticky := s.stickyVariation e (← get).documents
    if sticky.variation?.isSome then return s.place e sticky
    else if ← s.isTarget evaluate e then return s.place e sticky
    else return .excluded

/-- What a decision means for the user. A variation that the experiment does not have
means that the user does not take part. -/
def resultOf (s : Setting) (e : Experiment V) (feature : Option String) (decision : Decision) :
    ExperimentResult V :=
  let asked := match decision with
    | .forced variation | .assigned variation _ _ => some variation
    | .excluded | .blocked => none
  let taken := asked.filter (· < e.variations.length)
  let variation := taken.getD 0
  let info := e.info? variation
  let identity := s.identityFor e
  { value := e.variations[variation]?
    variation
    inExperiment := taken.isSome
    hashAttribute := identity.name
    hashValue := identity.value
    key := (info.bind (·.key)).getD (toString variation)
    name := info.bind (·.name)
    bucket := match decision with
      | .assigned _ bucket _ => some bucket
      | _ => none
    passthrough := (info.bind (·.passthrough)).getD false
    hashUsed := match decision with
      | .assigned _ _ _ => true
      | _ => false
    stickyUsed := match decision with
      | .blocked => true
      | .assigned _ _ sticky => sticky
      | _ => false
    feature }

/-- Runs an experiment, for a feature or for itself. -/
def run (s : Setting) (evaluate : String → Eval FeatureResult) (e : Experiment)
    (feature : Option String) : Eval ExperimentResult := do
  let decision ← s.decide evaluate e
  let result := s.resultOf e feature decision
  match decision with
  | .assigned _ _ _ =>
    if s.sticks e.disableSticky then
      Eval.assign (s.identityFor e) (assignmentKey e.key e.bucketVersion) result.key
    Eval.track e result
    return result
  | _ => return result

end Setting
end FeatureFlags
