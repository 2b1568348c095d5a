/-
# Results agree with what they come from

The variation of a result may come from the page address, from a forced variation, from the
experiment itself, from a stored assignment or by place, and most of these may name a variation
that the experiment does not have. Whichever it was, the result names one of the variations, or the
first if the user does not take part, and value, key, name and passthrough are those of this
variation (`resultOf_consistentWith`).

If the outcome of a feature is by experiment, there is a rule of the feature that says so: the
experiment is the one that the rule describes, and the value is one of its variations
(`FeatureRule.Explains`). This holds of all that an evaluation reports, because it holds of each
stage (`Stage.sound`). Prerequisites are evaluated and reported like the feature that was asked
for, so it holds of them as well.

Key definitions: `ExperimentResult.ConsistentWith`, `FeatureRule.Explains`, `Setting.Sound`.
Key theorems: `Setting.resultOf_consistentWith`, `Setting.Stage.sound`,
`Session.results_consistent`.
-/
import FeatureFlags.Proofs.Stages

namespace FeatureFlags

/-! ### Results of experiments -/

/-- A result says the same about the user's variation as the experiment does. -/
structure ExperimentResult.ConsistentWith {V : Type} (result : ExperimentResult V)
    (e : Experiment V) : Prop where
  /-- The experiment has the variation, unless it has none at all. -/
  variation : result.variation < e.variations.length ∨ (e.variations = [] ∧ result.variation = 0)
  included : result.inExperiment = true → result.variation < e.variations.length
  excluded : result.inExperiment = false → result.variation = 0
  value : result.value = e.variations[result.variation]?
  valueless : result.value = none → e.variations = []
  key : result.key =
    ((e.info? result.variation).bind (·.key)).getD (toString result.variation)
  name : result.name = (e.info? result.variation).bind (·.name)
  passthrough : result.passthrough =
    ((e.info? result.variation).bind (·.passthrough)).getD false

namespace Setting

variable {V : Type}

/-- Whoever takes part is in a variation that the experiment has, and everybody else in the
first. -/
theorem variation_resultOf (s : Setting) (e : Experiment V) (feature : Option String)
    (decision : Decision) :
    ((s.resultOf e feature decision).inExperiment = true ∧
        (s.resultOf e feature decision).variation < e.variations.length) ∨
      ((s.resultOf e feature decision).inExperiment = false ∧
        (s.resultOf e feature decision).variation = 0) := by
  have htaken : ∀ asked : Option Nat,
      ((asked.filter (· < e.variations.length)).isSome = true ∧
          (asked.filter (· < e.variations.length)).getD 0 < e.variations.length) ∨
        ((asked.filter (· < e.variations.length)).isSome = false ∧
          (asked.filter (· < e.variations.length)).getD 0 = 0) := by
    intro asked
    cases h : asked.filter (· < e.variations.length) with
    | none => exact Or.inr ⟨rfl, rfl⟩
    | some variation => exact Or.inl ⟨rfl, of_decide_eq_true (Option.filter_eq_some_iff.mp h).2⟩
  exact htaken _

/-- **Whatever the decision, the result agrees with the experiment.** -/
theorem resultOf_consistentWith (s : Setting) (e : Experiment V) (feature : Option String)
    (decision : Decision) : (s.resultOf e feature decision).ConsistentWith e := by
  have hcases := s.variation_resultOf e feature decision
  have hvalue : (s.resultOf e feature decision).value =
      e.variations[(s.resultOf e feature decision).variation]? := rfl
  have hvariation : (s.resultOf e feature decision).variation < e.variations.length ∨
      (e.variations = [] ∧ (s.resultOf e feature decision).variation = 0) := by
    rcases hcases with ⟨-, hlt⟩ | ⟨-, hzero⟩
    · exact Or.inl hlt
    · rcases List.eq_nil_or_concat e.variations with hnil | ⟨init, last, hconcat⟩
      · exact Or.inr ⟨hnil, hzero⟩
      · rw [hzero, hconcat]
        simp
  refine ⟨hvariation, fun hin => ?_, fun hout => ?_, hvalue, fun hnone => ?_, rfl, rfl, rfl⟩
  · rcases hcases with ⟨-, hlt⟩ | ⟨hout, -⟩
    · exact hlt
    · rw [hin] at hout
      cases hout
  · rcases hcases with ⟨hin, -⟩ | ⟨-, hzero⟩
    · rw [hout] at hin
      cases hin
    · exact hzero
  · rcases hvariation with hlt | ⟨hnil, -⟩
    · rw [hvalue, List.getElem?_eq_getElem hlt] at hnone
      cases hnone
    · exact hnil

/-- **Every run of an experiment comes to a result that agrees with it**, however features are
evaluated for its prerequisites and whatever has happened before. -/
theorem run_consistentWith (s : Setting) (evaluate : String → Eval FeatureResult) (e : Experiment)
    (feature : Option String) (p : Progress) : (s.run evaluate e feature p).1.ConsistentWith e := by
  rw [run_eq_bind, Eval.bind_apply, conclude_fst]
  exact s.resultOf_consistentWith e feature _

theorem feature_run (s : Setting) (evaluate : String → Eval FeatureResult) (e : Experiment)
    (feature : Option String) (p : Progress) : (s.run evaluate e feature p).1.feature = feature := by
  rw [run_eq_bind, Eval.bind_apply, conclude_fst]
  rfl

end Setting

/-! ### Outcomes by experiment -/

/-- The rule explains an outcome by experiment: it forces no value, the experiment is the one that
it describes for the feature, and the outcome has the value of the user's variation, which is one
of those of the rule. -/
structure FeatureRule.Explains (rule : FeatureRule) (feature : String) (e : Experiment)
    (result : ExperimentResult) (outcome : FeatureResult) : Prop where
  forcesNothing : rule.force = none
  experiment : rule.experiment? feature = some e ∧ outcome.experiment? = some e
  ruleId : outcome.ruleId? = rule.id
  reports : outcome.experimentResult? = some result
  value : outcome.value? = result.value
  offered : ∃ value ∈ rule.variations.getD [], outcome.value? = some value
  takesPart : result.inExperiment = true ∧ result.passthrough = false
  runFor : result.feature = some feature
  consistent : result.ConsistentWith e

theorem FeatureRule.variations_of_experiment? {rule : FeatureRule} {feature : String}
    {e : Experiment} (h : rule.experiment? feature = some e) :
    rule.variations = some e.variations := by
  obtain ⟨variations, hvariations, rfl⟩ := Option.map_eq_some_iff.mp h
  exact hvariations

namespace Setting

variable {s : Setting} {evaluate : String → Eval FeatureResult} {feature : String}
  {outcome : FeatureResult} {p q : Progress}

/-- **An outcome by experiment is explained by a rule of the feature.** -/
theorem Yields.exists_explains (h : s.Yields evaluate feature outcome p q)
    (hsource : outcome.source = .experiment) :
    ∃ rule e result, s.HasRule feature rule ∧ rule.Explains feature e result outcome := by
  cases h with
  | force h => cases hsource
  | other hunserved => exact absurd hsource hunserved.2
  | @experiment rule e result p _ hrule hforce he hrun hin hpass =>
    have hresult : (s.run evaluate e (some feature) p).1 = result := congrArg Prod.fst hrun
    have hconsistent : result.ConsistentWith e := hresult ▸ s.run_consistentWith evaluate e _ p
    have hrunFor : result.feature = some feature := hresult ▸ s.feature_run evaluate e _ p
    have hlt : result.variation < e.variations.length := hconsistent.included hin
    have hvalue : result.value = some e.variations[result.variation] := by
      rw [hconsistent.value, List.getElem?_eq_getElem hlt]
    have hserved : some (result.value.getD .null) = result.value := by
      rw [hvalue]
      rfl
    refine ⟨rule, e, result, hrule, hforce, ⟨he, rfl⟩, rfl, rfl, hserved, ?_, ⟨hin, hpass⟩, hrunFor,
      hconsistent⟩
    rw [FeatureRule.variations_of_experiment? he]
    exact ⟨_, List.getElem_mem hlt, hserved.trans hvalue⟩

/-! ### All that is reported -/

/-- What is reported agrees with what it comes from. Exposures that belong to a rule that forces a
value are reported as they are given. -/
def Sound (s : Setting) : Event → Prop
  | .exposure e result => result.ConsistentWith e ∨
      ∃ feature rule, s.HasRule feature rule ∧ rule.force.isSome ∧ ⟨e, result⟩ ∈ rule.tracks
  | .usage _ feature outcome => outcome.source = .experiment →
      ∃ rule e result, s.HasRule feature rule ∧ rule.Explains feature e result outcome
  | .saved _ => True

/-- Until an outcome is reported, only exposures that belong to its rule are. -/
theorem Yields.sound (h : s.Yields evaluate feature outcome p q)
    (hp : ∀ event ∈ p.events, s.Sound event) : ∀ event ∈ q.events, s.Sound event := by
  cases h with
  | experiment => exact hp
  | other => exact hp
  | @force rule value _ happlies =>
    obtain ⟨new, hevents, hnew⟩ := events_trackAll rule.tracks p
    intro event hevent
    rw [hevents] at hevent
    rcases List.mem_append.mp hevent with hevent | hevent
    · exact hp event hevent
    · obtain ⟨exposure, hexposure, rfl⟩ := hnew event hevent
      exact Or.inr ⟨feature, rule, happlies.hasRule, by simp [happlies.force], hexposure⟩

/-- **What one stage reports is sound.** -/
theorem Stage.sound (h : s.Stage p q) (hp : ∀ event ∈ p.events, s.Sound event) :
    ∀ event ∈ q.events, s.Sound event := by
  intro event hevent
  cases h with
  | @assign e sticky variation bucket stored hplace feature _ =>
    rcases mem_events_conclude hevent with hevent | ⟨doc, rfl⟩ | rfl
    · exact hp event hevent
    · exact trivial
    · exact Or.inl (s.resultOf_consistentWith e feature _)
  | report hyields =>
    rw [events_reportUse] at hevent
    rcases List.mem_append.mp hevent with hevent | hevent
    · exact hyields.sound hp event hevent
    · rw [List.mem_singleton.mp hevent]
      exact hyields.exists_explains

/-- **All that a computation reports that goes by stages is sound.** -/
theorem sound_of_stages {α : Type} {c : Eval α} (hc : c.Moves s.Stage) (docs : StickyDocuments)
    (tracker : Tracker) : ∀ event ∈ (c ⟨docs, tracker, []⟩).2.events, s.Sound event :=
  hc.preserves (fun _ _ hstage hp => hstage.sound hp) (p := ⟨docs, tracker, []⟩)
    fun _ h => absurd h List.not_mem_nil

end Setting

namespace Session

/-- **Every result agrees with what it comes from**: each result of an experiment with the
experiment, and each outcome by experiment with a rule of the feature. This holds of what is
answered, of what is reported on the way, and of each experiment that is run on the way. -/
theorem results_consistent (s : Session) :
    (∀ e, (s.run e).answer.ConsistentWith e ∧ ∀ event ∈ (s.run e).events, s.setting.Sound event) ∧
    (∀ feature kind,
      ((s.evaluate feature kind).answer.source = .experiment → ∃ rule e result,
        s.setting.HasRule feature rule ∧
          rule.Explains feature e result (s.evaluate feature kind).answer) ∧
      ∀ event ∈ (s.evaluate feature kind).events, s.setting.Sound event) ∧
    ∀ evaluate e feature p, (s.setting.run evaluate e feature p).1.ConsistentWith e := by
  refine ⟨fun e => ⟨?_, ?_⟩, fun feature kind => ⟨?_, ?_⟩, s.setting.run_consistentWith⟩
  · exact s.setting.run_consistentWith _ e none _
  · exact Setting.sound_of_stages (Setting.stages_runExperiment e) s.documents s.tracker
  · obtain ⟨p, q, -, hyields, -⟩ :=
      Setting.reports_evaluate (s := s.setting) [] feature kind ⟨s.documents, s.tracker, []⟩
    exact hyields.exists_explains
  · exact Setting.sound_of_stages (Setting.stages_evaluate [] feature kind) s.documents s.tracker

end Session
end FeatureFlags
