/-
# Prerequisites

Prerequisites are evaluated in order, up to the first one that is not met. How a
feature is evaluated is a parameter here, because prerequisites are evaluated in the
course of evaluating a feature.

Key definitions:
* `Prerequisite.accepts`: whether the outcome of a feature meets a prerequisite.
* `Eval.prerequisites`: what a list of prerequisites comes to.
-/
import FeatureFlags.Configuration
import FeatureFlags.Evaluation.Progress

namespace FeatureFlags

/-- What the prerequisites of a rule or an experiment come to. -/
inductive PrerequisiteOutcome where
  /-- All of them are met. -/
  | met
  /-- A feature depends on itself. -/
  | cyclic
  /-- One is not met; `gate` says whether it blocks the whole feature. -/
  | failed (gate : Bool)
deriving DecidableEq, Repr

/-- Whether the outcome of a feature meets a prerequisite. The condition sees the
value as the attribute `value`, `null` if there is none. -/
def Prerequisite.accepts (p : Prerequisite) (groups : SavedGroups) (result : FeatureResult) : Bool :=
  p.condition.holds [("value", result.value?.getD .null)] groups

/-- Evaluates prerequisites in order. -/
def Eval.prerequisites (groups : SavedGroups) (evaluate : String → Eval FeatureResult) :
    List Prerequisite → Eval PrerequisiteOutcome
  | [] => return .met
  | p :: rest => do
    let result ← evaluate p.feature
    if result.source = .cyclicPrerequisite then return .cyclic
    else if p.accepts groups result then prerequisites groups evaluate rest
    else return .failed p.gate

end FeatureFlags
