/-
# The steps of an evaluation

An evaluation changes something in three ways only: it reports that a feature was
evaluated, it reports an exposure, and it keeps an assignment. `Setting.Step` says when
each of them is taken, and every evaluation goes from its start to its end by such steps
(`moves_evaluate`, `moves_runExperiment`). So what each step preserves, whole
evaluations preserve, in whatever way features depend on each other.

An assignment is only kept for an experiment that is run: the one that was asked for, or
one that a rule of a feature offers. And only for a user who is placed by chance.

If the outcome of a feature is by experiment, then somewhere on the way the experiment has been
run, and the user has taken part (`enters_of_evaluate`).

Key definitions: `Setting.Offers`, `Setting.Step`, `Eval.Moves`, `Setting.Enters`.
Key theorems: `Setting.moves_evaluate`, `Setting.moves_runExperiment`,
`Setting.enters_of_evaluate`.
-/
import FeatureFlags.Proofs.Composition
import Mathlib.Logic.Relation

namespace FeatureFlags

open Relation

/-- Whether a computation gets from its start to its end by steps. -/
def Eval.Moves {α : Type} (step : Progress → Progress → Prop) (c : Eval α) : Prop :=
  ∀ p, ReflTransGen step p (c p).2

namespace Eval

variable {α β : Type} {step : Progress → Progress → Prop}

theorem Moves.pure (a : α) : Moves step (pure a : Eval α) := fun _ => .refl

theorem Moves.bind {c : Eval α} {f : α → Eval β} (hc : Moves step c)
    (hf : ∀ a, Moves step (f a)) : Moves step (c >>= f) :=
  fun p => (hc p).trans (hf (c p).1 (c p).2)

theorem compositional_moves : Compositional fun _ => Moves step := ⟨Moves.pure, Moves.bind⟩

/-- What no step breaks, the computation does not break. -/
theorem Moves.preserves {c : Eval α} (hc : Moves step c) {inv : Progress → Prop}
    (hstep : ∀ p q, step p q → inv p → inv q) {p : Progress} (hp : inv p) : inv (c p).2 := by
  have hmoves := hc p
  generalize (c p).2 = q at hmoves
  induction hmoves with
  | refl => exact hp
  | tail _ hlast ih => exact hstep _ _ hlast ih

end Eval

namespace Setting

/-- A rule of some feature describes the experiment. -/
def Offers (s : Setting) (e : Experiment) : Prop :=
  ∃ feature definition rule, s.configuration.feature? feature = some definition ∧
    rule ∈ definition.rules ∧ rule.experiment? feature = some e

/-- What can happen during an evaluation that runs the experiments `runs`. -/
inductive Step (s : Setting) (runs : Experiment → Prop) : Progress → Progress → Prop where
  /-- The use of a feature is reported. -/
  | use (path : List String) (feature : String) (result : FeatureResult) (p : Progress) :
    Step s runs p (Eval.reportUse path feature result p).2
  /-- An exposure is reported, unless it is remembered. -/
  | track (e : Experiment) (result : ExperimentResult) (p : Progress) :
    Step s runs p (Eval.track e result p).2
  /-- The user is assigned by place, and the assignment is kept. -/
  | keep {e : Experiment} {feature : Option String} {sticky : StickyVariation} {variation : Nat}
    {bucket : Float} {stored : Bool} (hruns : runs e) (hearly : s.early? e = none)
    (hplace : s.place e sticky = .assigned variation bucket stored) (p : Progress) :
    Step s runs p (s.keep e (s.resultOf e feature (.assigned variation bucket stored)) p)

variable {s : Setting} {runs : Experiment → Prop} {evaluate : String → Eval FeatureResult}
  {step : Progress → Progress → Prop}

/-! ### From the parts to the whole -/

theorem moves_reportUse (path : List String) (feature : String) (result : FeatureResult) :
    Eval.Moves (s.Step runs) (Eval.reportUse path feature result) :=
  fun p => .single (.use path feature result p)

theorem moves_track (e : Experiment) (result : ExperimentResult) :
    Eval.Moves (s.Step runs) (Eval.track e result) :=
  fun p => .single (.track e result p)

theorem moves_decide (hev : ∀ feature, Eval.Moves step (evaluate feature))
    (e : Experiment) : Eval.Moves step (s.decide evaluate e) := by
  intro p
  cases hearly : s.early? e with
  | some early =>
    rw [decide_of_early hearly]
  | none =>
    rw [decide_of_undecided hearly]
    split
    · exact .refl
    · exact Eval.compositional_moves.isTarget hev e p

/-- Whoever is assigned was placed. -/
theorem decide_eq_assigned {e : Experiment} {p : Progress} {variation : Nat} {bucket : Float}
    {stored : Bool} (h : (s.decide evaluate e p).1 = .assigned variation bucket stored) :
    s.early? e = none ∧
      s.place e (s.stickyVariation e p.documents) = .assigned variation bucket stored := by
  cases hearly : s.early? e with
  | some early =>
    rw [decide_of_early hearly] at h
    exact absurd h (early_ne_assigned hearly)
  | none =>
    rw [decide_of_undecided hearly] at h
    refine ⟨rfl, ?_⟩
    split at h
    · exact h
    · simp only at h
      split at h
      · exact h
      · cases h

theorem moves_run (hev : ∀ feature, Eval.Moves (s.Step runs) (evaluate feature))
    {e : Experiment} (hruns : runs e) (feature : Option String) :
    Eval.Moves (s.Step runs) (s.run evaluate e feature) := by
  intro p
  have hdecided : ReflTransGen (s.Step runs) p (s.decide evaluate e p).2 := moves_decide hev e p
  rw [run_eq_bind, Eval.bind_apply]
  refine hdecided.trans ?_
  cases hd : (s.decide evaluate e p).1 with
  | assigned variation bucket stored =>
    obtain ⟨hearly, hplace⟩ := decide_eq_assigned hd
    rw [conclude_assigned]
    exact (ReflTransGen.single (.keep hruns hearly hplace _)).tail (.track e _ _)
  | excluded => exact .refl
  | blocked => exact .refl
  | forced variation => exact .refl

/-- **Evaluating a feature takes steps only.** -/
theorem moves_evaluate (hruns : ∀ e, s.Offers e → runs e) (path : List String) (feature : String)
    (kind : Option ValueKind) : Eval.Moves (s.Step runs) (s.evaluate path feature kind) :=
  Eval.compositional_moves.evaluate moves_reportUse moves_track
    (fun _ feature definition rule e hev hdef hrule he =>
      moves_run hev (hruns e ⟨feature, definition, rule, hdef, hrule, he⟩) (some feature))
    path feature kind

theorem moves_evaluateFeature (feature : String) (kind : Option ValueKind) :
    Eval.Moves (s.Step s.Offers) (s.evaluateFeature feature kind) :=
  moves_evaluate (fun _ h => h) [] feature kind

/-- **Running an experiment takes steps only.** -/
theorem moves_runExperiment (e : Experiment) :
    Eval.Moves (s.Step fun other => other = e ∨ s.Offers other) (s.runExperiment e) := by
  unfold runExperiment
  refine moves_run (fun feature => ?_) (Or.inl rfl) none
  exact moves_evaluate (fun _ h => Or.inr h) [] feature none

/-! ### Outcomes by experiment -/

/-- At some point on the way from `p` the experiment is run for the feature, and the user takes
part with the given result. -/
def Enters (s : Setting) (runs : Experiment → Prop) (evaluate : String → Eval FeatureResult)
    (feature : String) (e : Experiment) (result : ExperimentResult) (p : Progress) : Prop :=
  ∃ q, ReflTransGen (s.Step runs) p q ∧ (s.run evaluate e (some feature) q).1 = result ∧
    result.inExperiment = true

variable {feature : String} {p : Progress} {value : Json} {id : Option String} {e : Experiment}
  {result : ExperimentResult}

theorem enters_of_outcomeOf? {rule : FeatureRule}
    (h : (s.outcomeOf? evaluate feature rule p).1 = some (.experiment value id e result)) :
    s.Enters runs evaluate feature e result p := by
  unfold outcomeOf? at h
  split at h
  · cases h
  · cases hforce : rule.force with
    | some forced =>
      simp only [hforce] at h
      split at h <;> cases h
    | none =>
      cases he : rule.experiment? feature with
      | none =>
        simp only [hforce, he] at h
        cases h
      | some x =>
        simp only [hforce, he, Eval.bind_apply] at h
        split at h
        · rename_i hin
          cases h
          exact ⟨p, .refl, rfl, hin.1⟩
        · cases h

theorem enters_of_serve? (hev : ∀ feature, Eval.Moves (s.Step runs) (evaluate feature))
    {rule : FeatureRule}
    (h : (s.serve? evaluate feature rule p).1 = some (.experiment value id e result)) :
    s.Enters runs evaluate feature e result p := by
  have hmoves : ReflTransGen (s.Step runs) p
      (Eval.prerequisites s.savedGroups evaluate rule.prerequisites p).2 :=
    Eval.compositional_moves.prerequisites _ hev rule.prerequisites p
  unfold serve? at h
  rw [Eval.bind_apply] at h
  cases hmet : (Eval.prerequisites s.savedGroups evaluate rule.prerequisites p).1 with
  | cyclic =>
    rw [hmet] at h
    cases h
  | failed gate =>
    rw [hmet] at h
    cases gate <;> cases h
  | met =>
    rw [hmet] at h
    obtain ⟨q, hway, hrun⟩ := enters_of_outcomeOf? h
    exact ⟨q, hmoves.trans hway, hrun⟩

theorem enters_of_serveFirst (hev : ∀ feature, Eval.Moves (s.Step runs) (evaluate feature))
    {defaultValue : Json} : ∀ {rules : List FeatureRule} {p : Progress},
    (∀ rule ∈ rules, ∀ e, rule.experiment? feature = some e → runs e) →
    (s.serveFirst evaluate feature defaultValue rules p).1 = .experiment value id e result →
    s.Enters runs evaluate feature e result p
  | [], _, _, h => by cases h
  | rule :: rest, p, hruns, h => by
    unfold serveFirst at h
    rw [Eval.bind_apply] at h
    cases hserve : (s.serve? evaluate feature rule p).1 with
    | some outcome =>
      rw [hserve] at h
      cases h
      exact enters_of_serve? hev hserve
    | none =>
      rw [hserve] at h
      have hmoves : ReflTransGen (s.Step runs) p (s.serve? evaluate feature rule p).2 :=
        Eval.compositional_moves.serve? moves_track hev
          (fun e he => moves_run hev (hruns rule List.mem_cons_self e he) (some feature)) p
      obtain ⟨q, hway, hrun⟩ := enters_of_serveFirst hev
        (fun other hother => hruns other (List.mem_cons_of_mem _ hother)) h
      exact ⟨q, hmoves.trans hway, hrun⟩

/-- **A feature whose outcome is by experiment has run the experiment** on the way, and the user
has taken part. -/
theorem enters_of_evaluate (hruns : ∀ e, s.Offers e → runs e) {path : List String}
    {kind : Option ValueKind}
    (h : (s.evaluate path feature kind p).1 = .experiment value id e result) :
    s.Enters runs (fun other => s.evaluate (feature :: path) other none) feature e result p := by
  by_cases hpath : feature ∈ path
  · rw [evaluate_of_mem s kind hpath] at h
    cases h
  · rw [evaluate_of_not_mem s kind hpath] at h
    cases hoverride : s.override? feature kind with
    | some outcome =>
      -- a value from outside is not by experiment
      rw [hoverride] at h
      have hsame : outcome = .experiment value id e result := h
      obtain ⟨_, rfl | rfl⟩ := override?_cases hoverride <;> cases hsame
    | none =>
      cases hdef : s.configuration.feature? feature with
      | none =>
        rw [hoverride, hdef] at h
        cases h
      | some definition =>
        rw [hoverride, hdef] at h
        refine enters_of_serveFirst (fun other => moves_evaluate hruns _ other none) ?_ h
        exact fun rule hrule e he => hruns e ⟨feature, definition, rule, hdef, hrule, he⟩

end Setting
end FeatureFlags
