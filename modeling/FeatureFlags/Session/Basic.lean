/-
# Sessions

A session is one user of an evaluator, together with the configuration and the sticky
service that it may share with others. Configuration and attributes can be replaced
at any time. The sticky documents of the user are then loaded again, because other
attributes or other features ask for other documents.

Key definitions:
* `Session`, `Outcome`: what a call answers, and the session after it.
* `Session.refresh`: loads the sticky documents of the user.
* `Session.perform`: carries out a command.
-/
import FeatureFlags.Evaluation.Feature
import FeatureFlags.Session.Profile
import FeatureFlags.Wire.Configuration

namespace FeatureFlags

/-- One user of an evaluator, and what is shared with others. -/
structure Session where
  /-- The configuration in the store, none until one is set. -/
  configuration : Option Configuration
  /-- The documents in the sticky service. -/
  service : StickyDocuments
  options : EvalOptions
  tracker : Tracker
  profile : Profile
  /-- The sticky documents at hand. -/
  documents : StickyDocuments

/-- What a call answers, what could be observed, and the state after it. -/
structure Outcome (α : Type) (σ : Type := Session) where
  answer : α
  events : List Event
  next : σ

/-- The outcome with another answer. -/
def Outcome.map {α β σ : Type} (f : α → β) (o : Outcome α σ) : Outcome β σ :=
  { o with answer := f o.answer }

/-- What a session can be told to do. Texts are not yet known to be right. -/
inductive Command where
  | setFeatures (text : String)
  | setSavedGroups (text : String)
  | setPayload (text : String)
  | setConfiguration (configuration : Configuration)
  | setAttributes (text : String)
  | setUrl (text : String)
  | forceVariation (experiment : String) (variation : Nat)
  | forceValue (feature : String) (value : Json)
  | refresh
  | evaluate (feature : String) (kind : Option ValueKind)
  | run (experiment : Experiment)

/-- What a session answers. -/
inductive Reply where
  | done
  | failed (error : FlagError)
  | feature (result : FeatureResult)
  | experiment (result : ExperimentResult)

namespace Session

/-- The configuration in force; without one no feature is known. -/
def current (s : Session) : Configuration := s.configuration.getD .empty

/-- What evaluations depend on. -/
def setting (s : Session) : Setting := ⟨s.current, s.options, s.profile⟩

/-- Carries out a computation. Documents that it saves are stored in the service. -/
def compute {α : Type} (s : Session) (computation : Setting → Eval α) : Outcome α :=
  let (answer, p) := (computation s.setting).run ⟨s.documents, s.tracker, []⟩
  { answer
    events := p.events
    next := { s with
      documents := p.documents
      tracker := p.tracker
      service := (p.events.filterMap Event.saved?).foldl StickyDocuments.save s.service } }

theorem compute_eq {α : Type} (s : Session) (computation : Setting → Eval α) :
    s.compute computation =
      let o := computation s.setting ⟨s.documents, s.tracker, []⟩
      { answer := o.1
        events := o.2.events
        next := { s with
          documents := o.2.documents
          tracker := o.2.tracker
          service := (o.2.events.filterMap Event.saved?).foldl StickyDocuments.save s.service } } :=
  rfl

/-- Evaluates a feature, whose value is expected to be of a kind. -/
def evaluate (s : Session) (feature : String) (kind : Option ValueKind) : Outcome FeatureResult :=
  s.compute (·.evaluateFeature feature kind)

/-- Runs an experiment that belongs to no feature. -/
def run (s : Session) (e : Experiment) : Outcome ExperimentResult := s.compute (·.runExperiment e)

/-- Loads the documents that evaluations may ask for, if assignments are stored. -/
def refresh (s : Session) : Session :=
  if s.options.sticky then
    { s with documents :=
        s.service.loadAll (Identity.valuesOf s.current.identifiers s.profile.attributes) }
  else s

/-- Replaces the configuration by one made from it. -/
def updateConfiguration (s : Session) (f : Configuration → Configuration) : Session :=
  { s with configuration := some (f s.current) }

/-- Replaces the configuration. -/
def setConfiguration (s : Session) (configuration : Configuration) : Session :=
  { s with configuration := some configuration }

/-- Changes the profile of the user. -/
def updateProfile (s : Session) (f : Profile → Profile) : Session :=
  { s with profile := f s.profile }

/-- The session after a change that reports nothing but an error. -/
def settle (s : Session) : Except FlagError Session → Outcome Reply
  | .ok next => ⟨.done, [], next⟩
  | .error error => ⟨.failed error, [], s⟩

/-- A value that was read from JSON, or the error that there is none. -/
def orInvalidJson {α : Type} : Option α → Except FlagError α
  | some a => .ok a
  | none => .error .invalidJson

/-- Carries out a command. A command that fails changes nothing. -/
def perform (s : Session) : Command → Outcome Reply
  | .setFeatures text => s.settle do
    let features ← orInvalidJson (Features.ofText? text)
    return (s.updateConfiguration (·.withFeatures features)).refresh
  | .setSavedGroups text => s.settle do
    let groups ← orInvalidJson (savedGroupsOfText? text)
    return s.updateConfiguration (·.withSavedGroups groups)
  | .setPayload text => s.settle do
    let configuration ← orInvalidJson (Configuration.ofPayload? text)
    return (s.setConfiguration configuration).refresh
  | .setConfiguration configuration => s.settle do
    return (s.setConfiguration configuration).refresh
  | .setAttributes text => s.settle do
    let attributes ← Profile.readAttributes text
    return (s.updateProfile ({ · with attributes })).refresh
  | .setUrl text => s.settle do
    let url ← Profile.readUrl text
    return s.updateProfile ({ · with url := some url })
  | .forceVariation experiment variation => s.settle do
    return s.updateProfile fun profile =>
      { profile with forcedVariations := profile.forcedVariations.insert experiment variation }
  | .forceValue feature value => s.settle do
    return s.updateProfile fun profile =>
      { profile with forcedValues := profile.forcedValues.insert feature value }
  | .refresh => s.settle do return s.refresh
  | .evaluate feature kind => (s.evaluate feature kind).map .feature
  | .run e => (s.run e).map .experiment

end Session
end FeatureFlags
