/-
# Evaluation without a path

`Setting.evaluate` knows the features that are being evaluated, so that it stops when it
meets one of them again. Where no feature depends on itself, nothing has to be known:
`Setting.plain` evaluates by recursion on the graph of prerequisites alone.

It is defined for features from which no cycle is reached (`Setting.AcyclicFrom`). The
graph below such a feature is well founded, because each step along it enters a feature
that could be read and was not entered before, and there are only so many of them
(`acc_of_acyclicFrom`).

Key definitions: `Setting.Requires`, `Setting.AcyclicFrom`, `Setting.plain`.
Key theorems: `Setting.acc_of_acyclicFrom`, `Setting.plain_eq`.
-/
import FeatureFlags.Evaluation.Feature
import Mathlib.Logic.Relation

namespace FeatureFlags
namespace Setting

open Relation

variable {s : Setting} {feature other : String}

/-! ### The graph of prerequisites -/

/-- The prerequisites of the rules of a feature. -/
def required (s : Setting) (feature : String) : List String :=
  match s.configuration.feature? feature with
  | none => []
  | some definition => definition.rules.flatMap fun rule =>
    rule.prerequisites.map Prerequisite.feature

/-- A rule of a feature asks for another one. -/
def Requires (s : Setting) (feature other : String) : Prop := other ∈ s.required feature

instance : DecidableRel s.Requires := fun feature other =>
  inferInstanceAs (Decidable (other ∈ s.required feature))

/-- No feature that can be reached depends on itself. -/
def AcyclicFrom (s : Setting) (feature : String) : Prop :=
  ∀ other, ReflTransGen s.Requires feature other → ¬ TransGen s.Requires other other

theorem requires_of_mem {definition : Feature} {rule : FeatureRule} {prerequisite : Prerequisite}
    (hdef : s.configuration.feature? feature = some definition) (hrule : rule ∈ definition.rules)
    (hprerequisite : prerequisite ∈ rule.prerequisites) :
    s.Requires feature prerequisite.feature := by
  unfold Requires required
  rw [hdef]
  exact List.mem_flatMap.mpr ⟨rule, hrule, List.mem_map_of_mem hprerequisite⟩

/-- Only features that could be read ask for others. -/
theorem exists_feature_of_requires (h : s.Requires feature other) :
    ∃ definition, s.configuration.feature? feature = some definition := by
  unfold Requires required at h
  cases hdef : s.configuration.feature? feature with
  | none =>
    rw [hdef] at h
    cases h
  | some definition => exact ⟨definition, rfl⟩

theorem AcyclicFrom.of_requires (h : s.AcyclicFrom feature) (hreq : s.Requires feature other) :
    s.AcyclicFrom other :=
  fun g hg => h g (.head hreq hg)

theorem mem_keys_of_requires (h : s.Requires feature other) :
    feature ∈ s.configuration.features.keys := by
  obtain ⟨definition, hdef⟩ := exists_feature_of_requires h
  obtain ⟨declared, hfind, -⟩ := Option.bind_eq_some_iff.mp hdef
  exact Dictionary.mem_keys_of_find? hfind

/-- Where every prerequisite ranks lower than what asks for it, nothing depends on itself. -/
theorem acyclicFrom_of_rank (rank : String → Nat)
    (hrank : ∀ a ∈ s.configuration.features.keys, ∀ b ∈ s.required a, rank b < rank a)
    (feature : String) : s.AcyclicFrom feature := by
  have hstep : ∀ {a b}, s.Requires a b → rank b < rank a :=
    fun hab => hrank _ (mem_keys_of_requires hab) _ hab
  have hdown : ∀ {a b}, TransGen s.Requires a b → rank b < rank a := by
    intro a b h
    induction h with
    | single hab => exact hstep hab
    | tail _ hbc ih => exact Nat.lt_trans (hstep hbc) ih
  exact fun g _ hg => Nat.lt_irrefl _ (hdown hg)

/-- The graph is well founded below the end of a path, if no cycle is reached from there. -/
theorem acc_of_path {path : List String} {feature : String}
    (hpath : ∀ g ∈ path, TransGen s.Requires g feature) (h : s.AcyclicFrom feature) :
    Acc (fun b a => s.Requires a b) feature := by
  refine Acc.intro feature fun other hreq => ?_
  obtain ⟨definition, hdef⟩ := exists_feature_of_requires hreq
  -- the feature would depend on itself if it were on the path
  have hnot : feature ∉ path := fun hmem => h feature .refl (hpath feature hmem)
  have hlonger : ∀ g ∈ feature :: path, TransGen s.Requires g other := by
    intro g hg
    rcases List.mem_cons.mp hg with rfl | hg
    · exact .single hreq
    · exact .tail (hpath g hg) hreq
  exact acc_of_path hlonger (h.of_requires hreq)
termination_by (s.pending path).length
decreasing_by exact length_pending_cons_lt hnot hdef

theorem acc_of_acyclicFrom (h : s.AcyclicFrom feature) :
    Acc (fun b a => s.Requires a b) feature := by
  have hnil : ∀ g ∈ ([] : List String), TransGen s.Requires g feature :=
    fun _ hg => absurd hg List.not_mem_nil
  exact acc_of_path hnil h

/-! ### Recursion on the graph -/

/-- A feature from which no cycle is reached. -/
structure Root (s : Setting) where
  feature : String
  acyclic : s.AcyclicFrom feature

instance : WellFoundedRelation s.Root where
  rel b a := s.Requires a.feature b.feature
  wf := ⟨fun a => InvImage.accessible Root.feature (acc_of_acyclicFrom a.acyclic)⟩

/-- Evaluates a feature from which no cycle is reached. Rules ask only for features that
are required. -/
def plain (s : Setting) (feature : String) (h : s.AcyclicFrom feature) (kind : Option ValueKind) :
    Eval FeatureResult :=
  match s.override? feature kind with
  | some result => Eval.reportUse [] feature result
  | none =>
    match s.configuration.feature? feature with
    | none => Eval.reportUse [] feature .unknownFeature
    | some definition => do
      let result ← s.serveFirst
        (fun other =>
          if hreq : s.Requires feature other then s.plain other (h.of_requires hreq) none
          else return .unknownFeature)
        feature definition.defaultValue definition.rules
      Eval.reportUse [] feature result
termination_by (⟨feature, h⟩ : s.Root)
decreasing_by exact hreq

/-- A feature is set from outside, not known, or decided by its rules. -/
theorem plain_eq (h : s.AcyclicFrom feature) (kind : Option ValueKind) :
    s.plain feature h kind =
      match s.override? feature kind, s.configuration.feature? feature with
      | some result, _ => Eval.reportUse [] feature result
      | none, none => Eval.reportUse [] feature .unknownFeature
      | none, some definition =>
        s.serveFirst
          (fun other =>
            if hreq : s.Requires feature other then s.plain other (h.of_requires hreq) none
            else return .unknownFeature)
          feature definition.defaultValue definition.rules >>= Eval.reportUse [] feature := by
  rw [plain]
  cases s.override? feature kind with
  | some result => rfl
  | none => cases s.configuration.feature? feature <;> rfl

end Setting
end FeatureFlags
