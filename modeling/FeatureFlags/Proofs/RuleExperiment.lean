/-
# Experiments of rules and experiments by themselves

The experiment that a rule describes can be run by itself. If the rule is the only one of its
feature, evaluating the feature should come to the same, and so it does for those whom the
filters of the rule admit: same documents, same tracker, and the same exposures, which are
reported for the feature (`Session.Mirrors`).

The filters are asked twice, though, and in different places. Evaluating the feature asks them
before anything else and skips the rule. Running the experiment asks them only if neither the page
address nor a forced variation nor a stored assignment has decided before. So a user whom the
filters exclude and who is put into a variation in one of these ways is given the default value by
the feature. There is no other difference (`Session.mirrors_iff`): whoever is excluded and not
decided on before, takes no part in either way.

Key definitions: `ExperimentResult.forFeature`, `Session.Mirrors`, `Session.PassesBy`.
Key theorems: `Setting.conclude_forFeature`, `Session.mirrors_of_admits`, `Session.mirrors_iff`.
-/
import FeatureFlags.Proofs.SingleRule

namespace FeatureFlags

/-! ### What is done for a feature -/

/-- The result of an experiment that has been run for a feature. -/
def ExperimentResult.forFeature (feature : String) (result : ExperimentResult) :
    ExperimentResult :=
  { result with feature := some feature }

/-- The event, if experiments are run for a feature. -/
def Event.forFeature (feature : String) : Event → Event
  | .exposure e result => .exposure e (result.forFeature feature)
  | event => event

@[simp] theorem Event.saved?_forFeature (feature : String) (event : Event) :
    (event.forFeature feature).saved? = event.saved? := by
  cases event <;> rfl

/-- What has been done, if experiments are run for a feature. -/
def Progress.forFeature (feature : String) (p : Progress) : Progress :=
  { p with history := p.history.map (Event.forFeature feature) }

@[simp] theorem Progress.events_forFeature (feature : String) (p : Progress) :
    (p.forFeature feature).events = p.events.map (Event.forFeature feature) :=
  List.map_reverse.symm

namespace Setting

variable (s : Setting) (feature : String) (e : Experiment)

theorem resultOf_forFeature (decision : Decision) :
    s.resultOf e (some feature) decision = (s.resultOf e none decision).forFeature feature := rfl

theorem track_forFeature (result : ExperimentResult) (p : Progress) :
    (Eval.track e (result.forFeature feature) (p.forFeature feature)).2 =
      (Eval.track e result p).2.forFeature feature := by
  have hsame : e.exposure (result.forFeature feature) = e.exposure result := rfl
  simp only [Eval.track, Eval.modify_apply, hsame, Progress.forFeature]
  split <;> rfl

theorem keep_forFeature (result : ExperimentResult) (p : Progress) :
    s.keep e (result.forFeature feature) (p.forFeature feature) =
      (s.keep e result p).forFeature feature := by
  have hsame : (result.forFeature feature).key = result.key := rfl
  unfold keep
  by_cases hsticks : s.sticks e.disableSticky
  · rw [if_pos hsticks, if_pos hsticks, hsame]
    simp only [Eval.assign, Eval.modify_apply, Progress.forFeature]
    split <;> rfl
  · rw [if_neg hsticks, if_neg hsticks]

/-- **What a decision leads to is the same for a feature**, and is reported for it. -/
theorem conclude_forFeature (decision : Decision) (p : Progress) :
    s.conclude e (some feature) decision (p.forFeature feature) =
      ((s.conclude e none decision p).1.forFeature feature,
        (s.conclude e none decision p).2.forFeature feature) := by
  cases decision with
  | assigned variation bucket stored =>
    rw [conclude_assigned, conclude_assigned]
    simp only [resultOf_forFeature, keep_forFeature, track_forFeature]
  | excluded => rfl
  | blocked => rfl
  | forced variation => rfl

variable {s} {feature} {e}

/-- The filters of a rule are those of its experiment. -/
theorem not_admits_of_runs {rule : FeatureRule} (h : rule.Runs feature e)
    (hfilters : rule.admits s.attributes = false) (identity : Identity) :
    e.admits identity s.attributes = false := by
  obtain ⟨variations, -, rfl⟩ := Option.map_eq_some_iff.mp h.experiment
  unfold FeatureRule.admits at hfilters
  unfold Experiment.admits
  cases hrule : rule.filters with
  | none =>
    rw [hrule] at hfilters
    cases hfilters
  | some filters =>
    rw [hrule] at hfilters
    exact hfilters

/-- Whoever is not decided on before, and is none of those that the experiment is for, takes no
part. -/
theorem decision_eq_excluded {docs : StickyDocuments}
    (hurl : s.urlVariation? e.key e.variations.length = none)
    (hforced : s.forcedVariation? e.key = none)
    (hstored : (s.stickyVariation e docs).variation? = none)
    (hadmits : e.admits (s.identityFor e) s.attributes = false) :
    s.decision docs e = .excluded := by
  have hset : ¬ s.SetsVariation e := by simp [SetsVariation, hurl, hforced]
  have hnot : ¬ s.Meant docs e := by
    rintro (hsome | ⟨hfor, -⟩)
    · rw [hstored] at hsome
      cases hsome
    · rw [hadmits] at hfor
      cases hfor
  unfold decision
  cases h : s.early? e with
  | some decision => exact early_eq_excluded hset h
  | none => exact if_neg hnot

end Setting

/-! ### In a session -/

namespace Session

/-- Evaluating the feature comes to what running the experiment of its rule comes to. What is
reported is reported for the feature, and after that the use of the feature. -/
structure Mirrors (s : Session) (feature : String) (kind : Option ValueKind) (rule : FeatureRule)
    (defaultValue : Json) (e : Experiment) : Prop where
  answer : (s.evaluate feature kind).answer =
    rule.served defaultValue e ((s.run e).answer.forFeature feature)
  events : (s.evaluate feature kind).events =
    (s.run e).events.map (Event.forFeature feature) ++
      [.usage [] feature (s.evaluate feature kind).answer]
  next : (s.evaluate feature kind).next = (s.run e).next

/-- Running the experiment changes nothing, and puts the user into no variation that counts. -/
structure PassesBy (s : Session) (e : Experiment) : Prop where
  events : (s.run e).events = []
  next : (s.run e).next = s
  answer : ¬ ((s.run e).answer.inExperiment ∧ !(s.run e).answer.passthrough)

variable {s : Session} {feature : String} {kind : Option ValueKind} {rule : FeatureRule}
  {defaultValue : Json} {e : Experiment}

/-- A user whom the filters exclude is given the default value, and nothing else happens. -/
theorem evaluate_of_not_admits (h : rule.Runs feature e)
    (hoverride : s.setting.override? feature kind = none)
    (hdefinition : s.current.feature? feature = some ⟨defaultValue, [rule]⟩)
    (hadmits : rule.admits s.profile.attributes = false) :
    s.evaluate feature kind =
      ⟨.defaultValue defaultValue, [.usage [] feature (.defaultValue defaultValue)], s⟩ := by
  let start : Progress := ⟨s.documents, s.tracker, []⟩
  have hexcluded : ¬ rule.admits s.profile.attributes := by
    rw [hadmits]
    exact Bool.false_ne_true
  have hevaluate : s.setting.evaluateFeature feature kind start =
      Eval.reportUse [] feature (.defaultValue defaultValue) start :=
    (Setting.evaluateFeature_of_runs h hoverride hdefinition start).trans (if_neg hexcluded)
  rw [evaluate, compute_eq, hevaluate]
  rfl

/-- **Evaluating the feature comes to what running the experiment comes to**, for those whom the
filters admit. -/
theorem mirrors_of_admits (h : rule.Runs feature e)
    (hoverride : s.setting.override? feature kind = none)
    (hdefinition : s.current.feature? feature = some ⟨defaultValue, [rule]⟩)
    (hadmits : rule.admits s.profile.attributes = true) :
    s.Mirrors feature kind rule defaultValue e := by
  let start : Progress := ⟨s.documents, s.tracker, []⟩
  let own := s.setting.conclude e none (s.setting.decision s.documents e) start
  let served := rule.served defaultValue e (own.1.forFeature feature)
  have hrun : s.run e = s.compute fun setting => setting.conclude e none
      (s.setting.decision s.documents e) :=
    run_of_prerequisites_nil (FeatureRule.prerequisites_experiment? h.experiment)
  have hevaluate : s.setting.evaluateFeature feature kind start =
      Eval.reportUse [] feature served (own.2.forFeature feature) := by
    have hfor := s.setting.conclude_forFeature feature e (s.setting.decision s.documents e) start
    refine (Setting.evaluateFeature_of_runs h hoverride hdefinition start).trans ?_
    refine (if_pos hadmits).trans ?_
    exact congrArg (fun o => Eval.reportUse [] feature (rule.served defaultValue e o.1) o.2) hfor
  have hevents : (Eval.reportUse [] feature served (own.2.forFeature feature)).2.events =
      own.2.events.map (Event.forFeature feature) ++ [.usage [] feature served] := by
    rw [← Progress.events_forFeature]
    exact List.reverse_cons
  have hsaved : (own.2.events.map (Event.forFeature feature) ++
      [Event.usage [] feature served]).filterMap Event.saved? =
        own.2.events.filterMap Event.saved? := by
    have hsame : Event.saved? ∘ Event.forFeature feature = Event.saved? :=
      funext (Event.saved?_forFeature feature)
    rw [List.filterMap_append, List.filterMap_map, hsame]
    exact List.append_nil _
  have houtcome : s.evaluate feature kind =
      ⟨served, own.2.events.map (Event.forFeature feature) ++ [.usage [] feature served],
        (s.run e).next⟩ := by
    rw [hrun, evaluate, compute_eq, compute_eq, hevaluate]
    simp only [hevents, hsaved]
    rfl
  have hanswer : (s.run e).answer = own.1 := by
    rw [hrun]
    rfl
  have hown : (s.run e).events = own.2.events := by
    rw [hrun]
    rfl
  refine ⟨?_, ?_, ?_⟩ <;> rw [houtcome]
  · rw [hanswer]
  · rw [hown]

/-- Whoever is excluded, and not decided on before, takes no part in the experiment. -/
theorem passesBy_of_not_admits (h : rule.Runs feature e)
    (hadmits : rule.admits s.profile.attributes = false)
    (hurl : s.setting.urlVariation? e.key e.variations.length = none)
    (hforced : s.setting.forcedVariation? e.key = none)
    (hstored : (s.setting.stickyVariation e s.documents).variation? = none) :
    s.PassesBy e := by
  have hexcluded : s.setting.decision s.documents e = .excluded :=
    Setting.decision_eq_excluded hurl hforced hstored
      (Setting.not_admits_of_runs (s := s.setting) h hadmits _)
  have hrun : s.run e = ⟨s.setting.resultOf e none .excluded, [], s⟩ := by
    rw [run_of_prerequisites_nil (FeatureRule.prerequisites_experiment? h.experiment), compute_eq,
      hexcluded]
    rfl
  refine ⟨?_, ?_, ?_⟩ <;> rw [hrun]
  rintro ⟨hin, -⟩
  cases hin

/-- **Evaluating a feature with one rule is running the experiment of the rule, unless the filters
keep the rule from a user who is put into a variation anyway.** Whom the filters exclude, the
feature gives the default value, without a trace; and running the experiment comes to the same
unless the page address, a forced variation or a stored assignment decides. -/
theorem mirrors_iff (s : Session) (feature : String) (kind : Option ValueKind)
    (rule : FeatureRule) (defaultValue : Json) (e : Experiment) (h : rule.Runs feature e)
    (hoverride : s.setting.override? feature kind = none)
    (hdefinition : s.current.feature? feature = some ⟨defaultValue, [rule]⟩) :
    (s.Mirrors feature kind rule defaultValue e ↔
      rule.admits s.profile.attributes = true ∨ s.PassesBy e) ∧
    (rule.admits s.profile.attributes = false →
      s.evaluate feature kind =
        ⟨.defaultValue defaultValue, [.usage [] feature (.defaultValue defaultValue)], s⟩) ∧
    (rule.admits s.profile.attributes = false →
      s.setting.urlVariation? e.key e.variations.length = none →
      s.setting.forcedVariation? e.key = none →
      (s.setting.stickyVariation e s.documents).variation? = none → s.PassesBy e) := by
  refine ⟨⟨fun hmirrors => ?_, ?_⟩, evaluate_of_not_admits h hoverride hdefinition,
    passesBy_of_not_admits h⟩
  · cases hadmits : rule.admits s.profile.attributes with
    | true => exact Or.inl rfl
    | false =>
      have heq := evaluate_of_not_admits h hoverride hdefinition hadmits
      obtain ⟨hanswer, hevents, hnext⟩ := hmirrors
      rw [heq] at hanswer hevents hnext
      refine Or.inr ⟨?_, hnext.symm, fun hserved => ?_⟩
      · -- only the use of the feature is reported
        have hlength := congrArg List.length hevents
        simp only [List.length_append, List.length_map, List.length_cons, List.length_nil]
          at hlength
        exact List.eq_nil_of_length_eq_zero (by omega)
      · have hexperiment := hanswer.trans (if_pos hserved)
        cases hexperiment
  · rintro (hadmits | ⟨hevents, hnext, hout⟩)
    · exact mirrors_of_admits h hoverride hdefinition hadmits
    · cases hadmits : rule.admits s.profile.attributes with
      | true => exact mirrors_of_admits h hoverride hdefinition hadmits
      | false =>
        have heq := evaluate_of_not_admits h hoverride hdefinition hadmits
        refine ⟨?_, ?_, ?_⟩ <;> rw [heq]
        · exact (if_neg hout).symm
        · rw [hevents]
          rfl
        · exact hnext.symm

/-- The rule of an experiment for those whom some filters admit. -/
def trialRule (filters : List Filter) : FeatureRule :=
  { FeatureRule.idle with
    key := some "trial"
    variations := some [.str "a", .str "b"]
    filters := some filters }

/-- The experiment of that rule. -/
def trialOf (filters : List Filter) : Experiment :=
  { Experiment.basic "trial" [.str "a", .str "b"] with filters := some filters }

/-- A user who is put into the second variation from outside, with a feature that has this rule
only. -/
def tester (filters : List Filter) : Session where
  configuration := some
    { features := .ofList [("button", .feature ⟨.str "plain", [trialRule filters]⟩)]
      savedGroups := [] }
  service := .empty
  options := {}
  tracker := .ofCapacity Tracker.defaultCapacity
  profile :=
    { attributes := [("id", .str "1")]
      forcedVariations := Dictionary.empty.insert "trial" 1 }
  documents := .empty

/-- A filter that nobody passes. -/
def closedFilter : Filter := ⟨"seed", [], none, none⟩

theorem trialRule_runs (filters : List Filter) :
    (trialRule filters).Runs "button" (trialOf filters) :=
  ⟨rfl, rfl, rfl⟩

/-- Without filters the forced variation takes effect through the feature. -/
theorem tester_mirrors :
    (trialRule []).Runs "button" (trialOf []) ∧
      (tester []).Mirrors "button" none (trialRule []) (.str "plain") (trialOf []) := by
  have hmirrors := mirrors_iff (tester []) "button" none (trialRule []) (.str "plain") (trialOf [])
    (trialRule_runs []) rfl rfl
  exact ⟨trialRule_runs [], hmirrors.1.mpr (Or.inl rfl)⟩

/-- A forced variation may take effect for the experiment and not through the feature: the filter
excludes the user from the rule, but is not asked by the experiment. -/
theorem exists_unmirrored :
    (trialRule [closedFilter]).Runs "button" (trialOf [closedFilter]) ∧
      (tester [closedFilter]).setting.override? "button" none = none ∧
      (tester [closedFilter]).current.feature? "button" =
        some ⟨.str "plain", [trialRule [closedFilter]]⟩ ∧
      ((tester [closedFilter]).run (trialOf [closedFilter])).answer.value = some (.str "b") ∧
      ((tester [closedFilter]).evaluate "button" none).answer = .defaultValue (.str "plain") ∧
      ¬ (tester [closedFilter]).Mirrors "button" none (trialRule [closedFilter]) (.str "plain")
        (trialOf [closedFilter]) := by
  have hoverride : (tester [closedFilter]).setting.override? "button" none = none := rfl
  have hskipped := evaluate_of_not_admits (trialRule_runs [closedFilter]) hoverride rfl rfl
  have hrun : ((tester [closedFilter]).run (trialOf [closedFilter])).answer =
      (tester [closedFilter]).setting.resultOf (trialOf [closedFilter]) none (.forced 1) := rfl
  refine ⟨trialRule_runs _, rfl, rfl, ?_, ?_, fun hmirrors => ?_⟩
  · rw [hrun]
    rfl
  · rw [hskipped]
  · have hanswer := hmirrors.answer
    rw [hskipped, hrun] at hanswer
    cases hanswer

end Session
end FeatureFlags
