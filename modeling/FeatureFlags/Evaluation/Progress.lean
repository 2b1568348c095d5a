/-
# What an evaluation does

Besides giving an answer an evaluation changes the sticky documents at hand and the
tracker, and it makes events: exposures that are reported, features whose use is
reported, and documents that are handed to the service.

Key definitions:
* `Event`, `Progress`: what has happened, and what has changed.
* `Eval`: computations that make progress.
* `Eval.track`, `Eval.reportUse`, `Eval.assign`: the steps that do.

Key theorems:
* `Eval.bind_apply`: a computation goes on from where the one before it ended.
-/
import FeatureFlags.Result
import FeatureFlags.Sticky.Assignment
import FeatureFlags.Tracking
import FeatureFlags.Feature

namespace FeatureFlags

/-- What can be observed while an evaluation runs. -/
inductive Event where
  /-- A user was exposed to a variation. -/
  | exposure (experiment : Experiment) (result : ExperimentResult)
  /-- A feature was evaluated. `path` holds the features that it was evaluated for,
  the innermost first. -/
  | usage (path : List String) (feature : String) (result : FeatureResult)
  /-- A document was handed to the service. -/
  | saved (doc : StickyDocument)

namespace Event

/-- The exposure of an event. -/
def exposure? : Event → Option (Experiment × ExperimentResult)
  | exposure experiment result => some (experiment, result)
  | _ => none

/-- The feature that was evaluated, and what it came to. -/
def usage? : Event → Option (String × FeatureResult)
  | usage _ feature result => some (feature, result)
  | _ => none

/-- The document that was handed over. -/
def saved? : Event → Option StickyDocument
  | saved doc => some doc
  | _ => none

end Event

/-- The state of an evaluation. -/
structure Progress where
  documents : StickyDocuments
  tracker : Tracker
  /-- What has happened so far, the latest event first. -/
  history : List Event

/-- What has happened so far, in order. -/
def Progress.events (p : Progress) : List Event := p.history.reverse

/-- The documents that were handed to the service so far, in order. -/
def Progress.saved (p : Progress) : List StickyDocument := p.events.filterMap Event.saved?

/-- Computations that make progress. -/
abbrev Eval := StateM Progress

namespace Eval

variable {α β : Type}

@[simp] theorem pure_apply (a : α) (p : Progress) : (pure a : Eval α) p = (a, p) := rfl

@[simp] theorem bind_apply (c : Eval α) (f : α → Eval β) (p : Progress) :
    (c >>= f) p = f (c p).1 (c p).2 := rfl

@[simp] theorem get_apply (p : Progress) : (get : Eval Progress) p = (p, p) := rfl

@[simp] theorem modify_apply (f : Progress → Progress) (p : Progress) :
    (modify f : Eval Unit) p = ((), f p) := rfl

/-- Adds an event. -/
def emit (event : Event) : Eval Unit :=
  modify fun p => { p with history := event :: p.history }

/-- Reports an exposure, unless the tracker remembers it. -/
def track (e : Experiment) (result : ExperimentResult) : Eval Unit :=
  modify fun p =>
    match p.tracker.track (e.exposure result) with
    | (true, tracker) => { p with tracker, history := .exposure e result :: p.history }
    | (false, tracker) => { p with tracker }

/-- Reports the exposures that belong to a rule, one after the other. -/
def trackAll : List TrackedExposure → Eval Unit
  | [] => pure ()
  | exposure :: rest => do
    track exposure.experiment exposure.result
    trackAll rest

/-- Reports what evaluating a feature came to, and gives it back. -/
def reportUse (path : List String) (feature : String) (result : FeatureResult) :
    Eval FeatureResult := do
  emit (.usage path feature result)
  return result

/-- Assigns a user to a variation. The document at hand and the one in the service
change only if this says something new. -/
def assign (identity : Identity) (assignment variation : String) : Eval Unit :=
  modify fun p =>
    let update := p.documents.assign identity (Dictionary.empty.insert assignment variation)
    if update.changed then
      { p with
        documents := p.documents.insert update.doc.storageKey update.doc
        history := .saved update.doc :: p.history }
    else p

end Eval
end FeatureFlags
