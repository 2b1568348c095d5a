/-
# Properties of whole evaluations

An evaluation is put together from few parts: uses and exposures are reported, experiments are run,
and the rest gives answers. So if a property of computations carries over to what is put together
from them, then it is enough to look at the parts (`Eval.Compositional.evaluate`). The recursion of
`Setting.evaluate` is dealt with here, once for all such properties.

Key definitions: `Eval.Compositional`.
Key theorems: `Eval.Compositional.prerequisites`, `Eval.Compositional.serveFirst`,
`Eval.Compositional.evaluate`.
-/
import FeatureFlags.Proofs.Decision

namespace FeatureFlags

namespace Eval

/-- The property holds of answers, and carries over to what is put together. -/
structure Compositional (P : (α : Type) → Eval α → Prop) : Prop where
  answer : ∀ {α : Type} (a : α), P α (pure a)
  bind : ∀ {α β : Type} {c : Eval α} {f : α → Eval β}, P α c → (∀ a, P β (f a)) → P β (c >>= f)

namespace Compositional

variable {P : (α : Type) → Eval α → Prop} {s : Setting} {ask : String → Eval FeatureResult}

theorem trackAll (h : Compositional P)
    (htrack : ∀ e result, P Unit (Eval.track e result)) :
    ∀ exposures : List TrackedExposure, P Unit (Eval.trackAll exposures)
  | [] => h.answer ()
  | exposure :: rest =>
    h.bind (htrack exposure.experiment exposure.result) fun _ => h.trackAll htrack rest

theorem prerequisites (h : Compositional P) (groups : SavedGroups)
    (hev : ∀ feature, P FeatureResult (ask feature)) : ∀ prerequisites : List Prerequisite,
    P PrerequisiteOutcome (Eval.prerequisites groups ask prerequisites)
  | [] => h.answer _
  | prerequisite :: rest => by
    refine h.bind (hev prerequisite.feature) fun result => ?_
    split
    · exact h.answer _
    · split
      · exact h.prerequisites groups hev rest
      · exact h.answer _

theorem isTarget (h : Compositional P) (hev : ∀ feature, P FeatureResult (ask feature))
    (e : Experiment) : P Bool (s.isTarget ask e) := by
  unfold Setting.isTarget
  split
  · exact h.bind (h.prerequisites _ hev e.prerequisites) fun _ => h.answer _
  · exact h.answer _

theorem outcomeOf? (h : Compositional P) (htrack : ∀ e result, P Unit (Eval.track e result))
    {feature : String} {rule : FeatureRule}
    (hrun : ∀ e, rule.experiment? feature = some e →
      P ExperimentResult (s.run ask e (some feature))) :
    P (Option FeatureResult) (s.outcomeOf? ask feature rule) := by
  unfold Setting.outcomeOf?
  split
  · exact h.answer _
  · split
    · split
      · exact h.bind (h.trackAll htrack rule.tracks) fun _ => h.answer _
      · exact h.answer _
    · split
      · exact h.answer _
      · rename_i e he
        refine h.bind (hrun e he) fun result => ?_
        split <;> exact h.answer _

theorem serve? (h : Compositional P) (htrack : ∀ e result, P Unit (Eval.track e result))
    (hev : ∀ feature, P FeatureResult (ask feature)) {feature : String} {rule : FeatureRule}
    (hrun : ∀ e, rule.experiment? feature = some e →
      P ExperimentResult (s.run ask e (some feature))) :
    P (Option FeatureResult) (s.serve? ask feature rule) := by
  refine h.bind (h.prerequisites _ hev rule.prerequisites) fun outcome => ?_
  split
  · exact h.answer _
  · exact h.answer _
  · exact h.answer _
  · exact h.outcomeOf? htrack hrun

theorem serveFirst (h : Compositional P) (htrack : ∀ e result, P Unit (Eval.track e result))
    (hev : ∀ feature, P FeatureResult (ask feature)) (feature : String) (defaultValue : Json) :
    ∀ rules : List FeatureRule,
      (∀ rule ∈ rules, ∀ e, rule.experiment? feature = some e →
        P ExperimentResult (s.run ask e (some feature))) →
      P FeatureResult (s.serveFirst ask feature defaultValue rules)
  | [], _ => h.answer _
  | rule :: rest, hrun => by
    refine h.bind (h.serve? htrack hev (hrun rule List.mem_cons_self)) fun outcome => ?_
    split
    · exact h.answer _
    · exact h.serveFirst htrack hev feature defaultValue rest fun other hother =>
        hrun other (List.mem_cons_of_mem _ hother)

/-- **What holds of the parts holds of evaluating a feature.** It must hold of running an
experiment if it holds of evaluating the features that the experiment may ask for, and only of
experiments that rules describe. -/
theorem evaluate (h : Compositional P)
    (huse : ∀ path feature result, P FeatureResult (Eval.reportUse path feature result))
    (htrack : ∀ e result, P Unit (Eval.track e result))
    (hrun : ∀ ask feature definition rule e, (∀ other, P FeatureResult (ask other)) →
      s.configuration.feature? feature = some definition → rule ∈ definition.rules →
      rule.experiment? feature = some e → P ExperimentResult (s.run ask e (some feature)))
    (path : List String) (feature : String) (kind : Option ValueKind) :
    P FeatureResult (s.evaluate path feature kind) := by
  -- the recursion of `evaluate`: the rules are served by evaluations on a longer path
  induction path, feature, kind using Setting.evaluate.induct (s := s) with
  | case1 path feature kind hpath =>
    rw [Setting.evaluate_of_mem s kind hpath]
    exact huse path feature _
  | case2 path feature kind hpath result hoverride =>
    rw [Setting.evaluate_of_not_mem s kind hpath, hoverride]
    exact huse path feature _
  | case3 path feature kind hpath hoverride hunknown =>
    rw [Setting.evaluate_of_not_mem s kind hpath, hoverride, hunknown]
    exact huse path feature _
  | case4 path feature kind hpath hoverride definition hdef ih =>
    rw [Setting.evaluate_of_not_mem s kind hpath, hoverride, hdef]
    refine h.bind (h.serveFirst htrack ih feature definition.defaultValue definition.rules ?_)
      fun result => huse path feature result
    exact fun rule hrule e he => hrun _ feature definition rule e ih hdef hrule he

end Compositional
end Eval
end FeatureFlags
