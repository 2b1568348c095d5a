/-
# A feature with one experiment

If the only rule of a feature runs an experiment, and nothing is asked before, then evaluating
the feature is deciding the experiment and concluding (`Setting.evaluateFeature_of_onlyRuns`).
So what is known about decisions is known about the feature.

A user who has an assignment, stored or found anew, is served its value. What is handed over is
the document of the user with the assignment in it, if it was not in it before
(`Session.Serves.evaluate_of_assigned`).

Key definitions: `FeatureRule.OnlyRuns`, `FeatureRule.served`, `Session.Serves`.
Key theorems: `Setting.evaluateFeature_of_onlyRuns`, `Session.Serves.evaluate_of_assigned`,
`Session.Serves.evaluate_of_lookup`.
-/
import FeatureFlags.Proofs.StickySurvival

namespace FeatureFlags

/-- A rule runs an experiment for those whom its filters admit: it forces no value, and no
prerequisites come before. -/
structure FeatureRule.Runs (rule : FeatureRule) (feature : String) (e : Experiment) : Prop where
  experiment : rule.experiment? feature = some e
  force : rule.force = none
  prerequisites : rule.prerequisites = []

/-- Whether the filters of a rule admit a user, if it has any. -/
def FeatureRule.admits (rule : FeatureRule) (attributes : Attributes) : Bool :=
  rule.filters.all fun filters => filters.all (·.admits attributes)

/-- A rule does nothing but run an experiment: it forces no value, and neither prerequisites nor
filters come before. -/
structure FeatureRule.OnlyRuns (rule : FeatureRule) (feature : String) (e : Experiment) : Prop where
  experiment : rule.experiment? feature = some e
  force : rule.force = none
  prerequisites : rule.prerequisites = []
  filters : rule.filters.getD [] = []

/-- What a feature comes to, if its only rule runs an experiment. -/
def FeatureRule.served (rule : FeatureRule) (defaultValue : Json) (e : Experiment)
    (result : ExperimentResult) : FeatureResult :=
  if result.inExperiment ∧ !result.passthrough then
    .experiment (result.value.getD .null) rule.id e result
  else .defaultValue defaultValue

namespace Setting

variable {s : Setting} {evaluate : String → Eval FeatureResult} {feature : String}
  {rule : FeatureRule} {e : Experiment} {defaultValue : Json}

/-- Serving the rules is running the experiment for those whom the filters admit. -/
theorem serveFirst_of_runs (h : rule.Runs feature e) (p : Progress) :
    s.serveFirst evaluate feature defaultValue [rule] p =
      if rule.admits s.attributes then
        let o := s.conclude e (some feature) (s.decision p.documents e) p
        (rule.served defaultValue e o.1, o.2)
      else (.defaultValue defaultValue, p) := by
  have hnone := FeatureRule.prerequisites_experiment? h.experiment
  simp only [serveFirst, serve?, h.prerequisites, Eval.prerequisites, outcomeOf?, h.force,
    h.experiment, FeatureRule.admits]
  by_cases hadmits : rule.filters.all fun filters => filters.all (·.admits s.attributes)
  · simp only [hadmits, Bool.not_true, Bool.false_eq_true, ↓reduceIte, pure_bind, run_eq_bind,
      Eval.bind_apply, decide_of_prerequisites_nil hnone, FeatureRule.served]
    split <;> rfl
  · simp only [hadmits, Bool.not_false, Bool.false_eq_true, ↓reduceIte]
    rfl

/-- Evaluating a feature is running the experiment of its only rule for those whom the filters
admit. -/
theorem evaluateFeature_of_runs {kind : Option ValueKind} (h : rule.Runs feature e)
    (hoverride : s.override? feature kind = none)
    (hdefinition : s.configuration.feature? feature = some ⟨defaultValue, [rule]⟩) (p : Progress) :
    s.evaluateFeature feature kind p =
      if rule.admits s.attributes then
        let o := s.conclude e (some feature) (s.decision p.documents e) p
        Eval.reportUse [] feature (rule.served defaultValue e o.1) o.2
      else Eval.reportUse [] feature (.defaultValue defaultValue) p := by
  rw [evaluateFeature, evaluate_of_not_mem s kind List.not_mem_nil, hoverride, hdefinition]
  simp only [Eval.bind_apply, serveFirst_of_runs h]
  split <;> rfl

/-- **Evaluating a feature with one experiment is deciding the experiment.** -/
theorem evaluateFeature_of_onlyRuns {kind : Option ValueKind} (h : rule.OnlyRuns feature e)
    (hoverride : s.override? feature kind = none)
    (hdefinition : s.configuration.feature? feature = some ⟨defaultValue, [rule]⟩) (p : Progress) :
    s.evaluateFeature feature kind p =
      let o := s.conclude e (some feature) (s.decision p.documents e) p
      Eval.reportUse [] feature (rule.served defaultValue e o.1) o.2 := by
  have hruns : rule.Runs feature e := ⟨h.experiment, h.force, h.prerequisites⟩
  have hadmits : rule.admits s.attributes = true := by
    have hnone := h.filters
    unfold FeatureRule.admits
    cases hfilters : rule.filters with
    | none => rfl
    | some filters =>
      rw [hfilters, Option.getD_some] at hnone
      rw [hnone]
      rfl
  rw [evaluateFeature_of_runs hruns hoverride hdefinition, if_pos hadmits]

theorem Undisturbed.early?_ne_forced (h : s.Undisturbed e) (n : Nat) :
    s.early? e ≠ some (.forced n) := by
  have hset : ¬ s.SetsVariation e := by simp [SetsVariation, h.url, h.forced]
  exact fun hearly => Decision.noConfusion (early_eq_excluded hset hearly)

theorem place_ne_forced (hforce : e.force = none) (sticky : StickyVariation) (n : Nat) :
    s.place e sticky ≠ .forced n := by
  unfold place
  cases e.bucketOf? (s.identityFor e).value with
  | none => exact nofun
  | some bucket =>
    simp only [hforce]
    split
    · exact nofun
    · cases e.chosen? sticky bucket with
      | none => exact nofun
      | some variation =>
        simp only
        split <;> exact nofun

/-- Nobody is put into a variation from outside. -/
theorem Undisturbed.decision_ne_forced (h : s.Undisturbed e) (hforce : e.force = none)
    (docs : StickyDocuments) (n : Nat) : s.decision docs e ≠ .forced n := by
  unfold decision
  cases hearly : s.early? e with
  | some early =>
    rintro rfl
    exact h.early?_ne_forced n hearly
  | none =>
    simp only
    split
    · exact place_ne_forced hforce _ n
    · exact nofun

/-- A user who has a stored assignment, and can be placed at all, is assigned by it. -/
theorem decision_of_lookup {docs : StickyDocuments} {n : Nat} {bucket : Float}
    (hearly : s.early? e = none) (hsticks : s.sticks e.disableSticky = true)
    (hlookup : e.sticky.lookup docs s.attributes = .assigned n)
    (hbucket : e.bucketOf? (s.identityFor e).value = some bucket) (hforce : e.force = none)
    (hqa : s.options.qaMode = false) : s.decision docs e = .assigned n bucket true := by
  have hstored : s.stickyVariation e docs = .assigned n := by
    rw [stickyVariation, if_pos hsticks, hlookup]
  have hmeant : s.Meant docs e := Or.inl (by rw [hstored]; rfl)
  unfold decision
  rw [hearly]
  simp only [hmeant, ↓reduceIte, hstored]
  exact place_eq_assigned_iff.mpr ⟨hbucket, StickyVariation.noConfusion, rfl, hforce, hqa, rfl⟩

theorem saved_reportUse (path : List String) (feature : String) (result : FeatureResult)
    (p : Progress) : (Eval.reportUse path feature result p).2.saved = p.saved :=
  (Progress.saved_cons p.documents p.tracker _ p.history).trans (List.append_nil _)

/-- A user who is assigned a variation is served its value, unless the variation is passed
through. -/
theorem served_assigned {n : Nat} {bucket : Float} {stored : Bool} (hn : n < e.variations.length)
    (hpass : ∀ info ∈ e.infos.getD [], info.passthrough ≠ some true) :
    let result := s.resultOf e (some feature) (.assigned n bucket stored)
    rule.served defaultValue e result =
      .experiment (result.value.getD .null) rule.id e result := by
  intro result
  have hin : result.inExperiment = true := inExperiment_assigned_iff.mpr hn
  have hthrough : result.passthrough = false := by
    have hinfo : result.passthrough = ((e.info? n).bind (·.passthrough)).getD false := by
      simp [result, resultOf, Option.filter, hn]
    rw [hinfo]
    cases hfind : (e.info? n).bind (·.passthrough) with
    | none => rfl
    | some through =>
      obtain ⟨info, hinfo, hthrough⟩ := Option.bind_eq_some_iff.mp hfind
      obtain ⟨infos, hinfos, hget⟩ := Option.bind_eq_some_iff.mp hinfo
      have hmem : info ∈ e.infos.getD [] := by
        rw [hinfos]
        exact List.mem_of_getElem? hget
      have hne := hpass info hmem
      rw [hthrough] at hne
      cases through with
      | false => rfl
      | true => exact absurd rfl hne
  rw [FeatureRule.served, hin, hthrough]
  exact if_pos ⟨rfl, rfl⟩

end Setting

/-! ### In a session -/

namespace Session

variable {s : Session} {feature : String} {rule : FeatureRule} {e : Experiment}

/-- The session has a feature whose only rule runs an experiment. The experiment can assign users
for good, every variation counts, and nothing that is set from outside gets in the way. -/
structure Serves (s : Session) (feature : String) (rule : FeatureRule) (e : Experiment) :
    Prop where
  definition : ∃ defaultValue, s.current.feature? feature = some ⟨defaultValue, [rule]⟩
  onlyRuns : rule.OnlyRuns feature e
  lasting : e.Lasting
  passthrough : ∀ info ∈ e.infos.getD [], info.passthrough ≠ some true
  hashVersion : e.hashVersion.getD 1 = 1 ∨ e.hashVersion.getD 1 = 2
  undisturbed : s.setting.Undisturbed e
  override : s.setting.override? feature none = none

theorem Serves.sticks (h : s.Serves feature rule e) :
    s.setting.sticks e.disableSticky = true :=
  sticks_of_sticky h.undisturbed.sticky h.lasting.sticky

/-- What the experiment of a rule says about force and whether it is active. -/
theorem Serves.shape (h : s.Serves feature rule e) : e.force = none ∧ e.active = true := by
  obtain ⟨variations, -, rfl⟩ := Option.map_eq_some_iff.mp h.onlyRuns.experiment
  exact ⟨rfl, rfl⟩

/-- Evaluating the feature is deciding the experiment. -/
theorem Serves.evaluate_eq (h : s.Serves feature rule e) : ∃ defaultValue,
    let o := s.setting.conclude e (some feature) (s.setting.decision s.documents e)
      ⟨s.documents, s.tracker, []⟩
    (s.evaluate feature none).answer = rule.served defaultValue e o.1 ∧
      (s.evaluate feature none).handed = o.2.saved ∧
      (s.evaluate feature none).next.documents = o.2.documents := by
  obtain ⟨defaultValue, hdefinition⟩ := h.definition
  have heq := Setting.evaluateFeature_of_onlyRuns (s := s.setting) h.onlyRuns h.override hdefinition
    ⟨s.documents, s.tracker, []⟩
  refine ⟨defaultValue, ?_, ?_, ?_⟩
  · rw [evaluate, compute_eq, heq]
    rfl
  · show ((s.setting.evaluateFeature feature none) ⟨s.documents, s.tracker, []⟩).2.saved = _
    rw [heq]
    exact Setting.saved_reportUse _ _ _ _
  · rw [evaluate, compute_eq, heq]
    rfl

/-- **A user who is assigned is served the value of the variation.** The assignment is kept, and
what is handed over is what keeping it hands over. -/
theorem Serves.evaluate_of_assigned (h : s.Serves feature rule e) {n : Nat} {bucket : Float}
    {stored : Bool} (hd : s.setting.decision s.documents e = .assigned n bucket stored)
    (hn : n < e.variations.length) :
    let result := s.setting.resultOf e (some feature) (.assigned n bucket stored)
    let kept := (Eval.assign (s.setting.identityFor e) (assignmentKey e.key e.bucketVersion)
      (e.variationKey n) ⟨s.documents, s.tracker, []⟩).2
    (s.evaluate feature none).answer =
        .experiment (result.value.getD .null) rule.id e result ∧
      (s.evaluate feature none).handed = kept.saved ∧
      (s.evaluate feature none).next.documents = kept.documents := by
  intro result kept
  obtain ⟨defaultValue, hanswer, hhanded, hdocuments⟩ := h.evaluate_eq
  have hkeep : s.setting.keep e result ⟨s.documents, s.tracker, []⟩ = kept := by
    have hkey : result.key = e.variationKey n := Setting.key_resultOf_assigned hn
    rw [Setting.keep, if_pos h.sticks, hkey]
  rw [hd, Setting.conclude_assigned] at hanswer hhanded hdocuments
  refine ⟨?_, ?_, ?_⟩
  · rw [hanswer]
    exact Setting.served_assigned hn h.passthrough
  · rw [hhanded, ← hkeep]
    exact Eval.saved_track _ _ _
  · rw [hdocuments, ← hkeep]
    exact Eval.documents_track _ _ _

/-- A user who is served by the experiment is assigned to one of its variations. -/
theorem Serves.exists_assigned (h : s.Serves feature rule e)
    (hsource : (s.evaluate feature none).answer.source = .experiment) :
    ∃ n bucket stored, s.setting.decision s.documents e = .assigned n bucket stored ∧
      n < e.variations.length := by
  obtain ⟨defaultValue, hanswer, -, -⟩ := h.evaluate_eq
  rw [hanswer, Setting.conclude_fst] at hsource
  have hin : (s.setting.resultOf e (some feature)
      (s.setting.decision s.documents e)).inExperiment = true := by
    refine Decidable.not_not.mp fun hout => ?_
    rw [FeatureRule.served, if_neg fun hboth => hout hboth.1] at hsource
    cases hsource
  cases hd : s.setting.decision s.documents e with
  | assigned n bucket stored =>
    rw [hd] at hin
    exact ⟨n, bucket, stored, rfl, Setting.inExperiment_assigned_iff.mp hin⟩
  | excluded => rw [hd] at hin; cases hin
  | blocked => rw [hd] at hin; cases hin
  | forced n => exact absurd hd (h.undisturbed.decision_ne_forced h.shape.1 s.documents n)

/-- **A user who has a stored assignment is served by it**, wherever the user falls now. -/
theorem Serves.evaluate_of_lookup (h : s.Serves feature rule e) (hcount : 2 ≤ e.variations.length)
    (hvalue : (s.setting.identityFor e).value ≠ "" ∧ (s.setting.identityFor e).value ≠ "null")
    {n : Nat} (hlookup : e.sticky.lookup s.documents s.profile.attributes = .assigned n)
    (hn : n < e.variations.length) :
    ∃ bucket, e.bucketOf? (s.setting.identityFor e).value = some bucket ∧
      let result := s.setting.resultOf e (some feature) (.assigned n bucket true)
      let kept := (Eval.assign (s.setting.identityFor e) (assignmentKey e.key e.bucketVersion)
        (e.variationKey n) ⟨s.documents, s.tracker, []⟩).2
      (s.evaluate feature none).answer =
          .experiment (result.value.getD .null) rule.id e result ∧
        (s.evaluate feature none).handed = kept.saved ∧
        (s.evaluate feature none).next.documents = kept.documents := by
  obtain ⟨hforce, hactive⟩ := h.shape
  obtain ⟨bucket, hbucket⟩ :=
    Experiment.exists_bucketOf? h.hashVersion (s.setting.identityFor e).value
  have hearly : s.setting.early? e = none := Setting.early?_eq_none_iff.mpr
    ⟨hcount, h.undisturbed.enabled, h.undisturbed.url, h.undisturbed.forced, hactive, hvalue⟩
  have hd := Setting.decision_of_lookup hearly h.sticks hlookup hbucket hforce h.undisturbed.qaMode
  exact ⟨bucket, hbucket, h.evaluate_of_assigned hd hn⟩

end Session
end FeatureFlags
