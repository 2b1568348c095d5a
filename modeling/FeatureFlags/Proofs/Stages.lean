/-
# How outcomes come about

`Setting.Step` says what an evaluation may change. Here the same evaluation is told in larger
stages, which say why: an experiment assigns the user, or the outcome of a feature is reported. An
outcome that is reported comes from somewhere (`Setting.Yields`). A rule has forced the value, and
has just reported the exposures that belong to it. Or the experiment of a rule has been run, and
the user takes part. Or it is an outcome of another kind, which no rule serves.

Every evaluation goes from its start to its end by such stages (`stages_evaluate`,
`stages_runExperiment`), in whatever way features depend on each other. So what is to be shown of
all that an evaluation reports, prerequisites included, is shown of one stage. And the last stage
reports the answer (`reports_evaluate`).

Key definitions: `Setting.Applies`, `Setting.Yields`, `Setting.Stage`.
Key theorems: `Setting.reports_evaluate`, `Setting.stages_evaluate`,
`Setting.stages_runExperiment`.
-/
import FeatureFlags.Proofs.Steps

namespace FeatureFlags

open Relation

namespace Setting

/-! ### Where outcomes come from -/

/-- The rule is one of those of the feature. -/
def HasRule (s : Setting) (feature : String) (rule : FeatureRule) : Prop :=
  ∃ definition, s.configuration.feature? feature = some definition ∧ rule ∈ definition.rules

/-- A rule of the feature forces its value on the user. Its prerequisites are met, which was found
out on the way to `p`, its filters admit the user, its condition holds, and its rollout includes
the user. -/
structure Applies (s : Setting) (evaluate : String → Eval FeatureResult) (feature : String)
    (rule : FeatureRule) (value : Json) (p : Progress) : Prop where
  hasRule : s.HasRule feature rule
  force : rule.force = some value
  prerequisites : ∃ q, Eval.prerequisites s.savedGroups evaluate rule.prerequisites q = (.met, p)
  filters : (rule.filters.all fun filters => filters.all (·.admits s.attributes)) = true
  forces : s.forces feature rule = true

/-- The outcome of the feature is settled at `p`. From there it takes to `q` until the use of the
feature is reported. -/
inductive Yields (s : Setting) (evaluate : String → Eval FeatureResult) (feature : String) :
    FeatureResult → (p q : Progress) → Prop where
  /-- A rule has forced the value, and its exposures are reported. -/
  | force {rule : FeatureRule} {value : Json} {p : Progress}
    (h : s.Applies evaluate feature rule value p) :
    Yields s evaluate feature (.force value rule.id) p (Eval.trackAll rule.tracks p).2
  /-- The experiment of a rule has been run, and the user takes part. -/
  | experiment {rule : FeatureRule} {e : Experiment} {result : ExperimentResult} {p q : Progress}
    (hrule : s.HasRule feature rule) (hforce : rule.force = none)
    (he : rule.experiment? feature = some e)
    (hrun : s.run evaluate e (some feature) p = (result, q))
    (hin : result.inExperiment = true) (hpass : result.passthrough = false) :
    Yields s evaluate feature (.experiment (result.value.getD .null) rule.id e result) q q
  /-- No rule has served a value. -/
  | other {result : FeatureResult} (h : result.source ≠ .force ∧ result.source ≠ .experiment)
    (p : Progress) : Yields s evaluate feature result p p

/-- What an evaluation does at a time. -/
inductive Stage (s : Setting) : Progress → Progress → Prop where
  /-- An experiment assigns the user by place, and the assignment is kept and reported. -/
  | assign {e : Experiment} {sticky : StickyVariation} {variation : Nat} {bucket : Float}
    {stored : Bool} (hplace : s.place e sticky = .assigned variation bucket stored)
    (feature : Option String) (p : Progress) :
    Stage s p (s.conclude e feature (.assigned variation bucket stored) p).2
  /-- The outcome of a feature is reported. -/
  | report {path : List String} {feature : String} {result : FeatureResult} {p q : Progress}
    (h : s.Yields (fun other => s.evaluate (feature :: path) other none) feature result p q) :
    Stage s p (Eval.reportUse path feature result q).2

/-! ### From the parts to the whole -/

variable {s : Setting} {evaluate : String → Eval FeatureResult} {feature : String}
  {rule : FeatureRule}

theorem stages_run (hev : ∀ feature, Eval.Moves s.Stage (evaluate feature)) (e : Experiment)
    (feature : Option String) : Eval.Moves s.Stage (s.run evaluate e feature) := by
  intro p
  have hdecided : ReflTransGen s.Stage p (s.decide evaluate e p).2 := moves_decide hev e p
  rw [run_eq_bind, Eval.bind_apply]
  cases hd : (s.decide evaluate e p).1 with
  | assigned variation bucket stored =>
    obtain ⟨-, hplace⟩ := decide_eq_assigned hd
    exact hdecided.tail (.assign hplace feature _)
  | excluded => exact hdecided
  | blocked => exact hdecided
  | forced variation => exact hdecided

/-- From `p` it goes by stages to where a rule has served an outcome, or has served none. An
outcome is still to be reported. -/
def Serves (s : Setting) (evaluate : String → Eval FeatureResult) (feature : String)
    (p : Progress) : Option FeatureResult × Progress → Prop
  | (none, q) => ReflTransGen s.Stage p q
  | (some result, r) => ∃ q, ReflTransGen s.Stage p q ∧ s.Yields evaluate feature result q r

/-- What comes before a rule is asked may be told first. -/
theorem Serves.after {p q : Progress} {o : Option FeatureResult × Progress}
    (h : s.Serves evaluate feature q o) (hpq : ReflTransGen s.Stage p q) :
    s.Serves evaluate feature p o := by
  obtain ⟨_ | result, r⟩ := o
  · exact hpq.trans h
  · obtain ⟨q', hway, hyields⟩ := h
    exact ⟨q', hpq.trans hway, hyields⟩

/-- A rule whose prerequisites are met forces its value, or runs its experiment, or serves
nothing. -/
theorem serves_outcomeOf? (hev : ∀ feature, Eval.Moves s.Stage (evaluate feature))
    (hrule : s.HasRule feature rule) {p q : Progress}
    (hmet : Eval.prerequisites s.savedGroups evaluate rule.prerequisites q = (.met, p)) :
    s.Serves evaluate feature p (s.outcomeOf? evaluate feature rule p) := by
  unfold outcomeOf?
  by_cases hfilters : (rule.filters.all fun filters => filters.all (·.admits s.attributes)) = true
  · simp only [hfilters, Bool.not_true, Bool.false_eq_true, ↓reduceIte]
    cases hforce : rule.force with
    | some value =>
      by_cases hforces : s.forces feature rule = true
      · simp only [hforces, ↓reduceIte]
        exact ⟨p, .refl, .force ⟨hrule, hforce, ⟨q, hmet⟩, hfilters, hforces⟩⟩
      · simp only [hforces]
        exact .refl
    | none =>
      cases he : rule.experiment? feature with
      | none => exact .refl
      | some e =>
        have hway : ReflTransGen s.Stage p (s.run evaluate e (some feature) p).2 :=
          stages_run hev e (some feature) p
        simp only [Eval.bind_apply]
        split
        · rename_i hserved
          have hpass : (s.run evaluate e (some feature) p).1.passthrough = false := by
            simpa using hserved.2
          exact ⟨_, hway, .experiment hrule hforce he rfl hserved.1 hpass⟩
        · exact hway
  · simp only [hfilters, Bool.not_false, ↓reduceIte]
    exact .refl

theorem serves_serve? (hev : ∀ feature, Eval.Moves s.Stage (evaluate feature))
    (hrule : s.HasRule feature rule) (p : Progress) :
    s.Serves evaluate feature p (s.serve? evaluate feature rule p) := by
  have hway : ReflTransGen s.Stage p
      (Eval.prerequisites s.savedGroups evaluate rule.prerequisites p).2 :=
    Eval.compositional_moves.prerequisites _ hev rule.prerequisites p
  unfold serve?
  rw [Eval.bind_apply]
  cases hmet : (Eval.prerequisites s.savedGroups evaluate rule.prerequisites p).1 with
  | cyclic => exact ⟨_, hway, .other (by decide) _⟩
  | failed gate =>
    cases gate with
    | true => exact ⟨_, hway, .other (by decide) _⟩
    | false => exact hway
  | met => exact (serves_outcomeOf? hev hrule (Prod.ext hmet rfl)).after hway

theorem yields_serveFirst (hev : ∀ feature, Eval.Moves s.Stage (evaluate feature))
    (defaultValue : Json) : ∀ (rules : List FeatureRule), (∀ rule ∈ rules, s.HasRule feature rule) →
    ∀ p, ∃ q, ReflTransGen s.Stage p q ∧
      s.Yields evaluate feature (s.serveFirst evaluate feature defaultValue rules p).1 q
        (s.serveFirst evaluate feature defaultValue rules p).2
  | [], _, p => ⟨p, .refl, .other (by simp [serveFirst, FeatureResult.source]) p⟩
  | rule :: rest, hrules, p => by
    have hserves := serves_serve? hev (hrules rule List.mem_cons_self) p
    unfold serveFirst
    rw [Eval.bind_apply]
    generalize s.serve? evaluate feature rule p = o at hserves
    obtain ⟨_ | result, r⟩ := o
    · obtain ⟨q, hway, hyields⟩ := yields_serveFirst hev defaultValue rest
        (fun other hother => hrules other (List.mem_cons_of_mem rule hother)) r
      exact ⟨q, ReflTransGen.trans hserves hway, hyields⟩
    · exact hserves

/-- From `p` it goes by stages to where an outcome is settled, and then the outcome is reported. -/
def Reports (s : Setting) (path : List String) (feature : String) (p : Progress)
    (o : FeatureResult × Progress) : Prop :=
  ∃ q r, ReflTransGen s.Stage p q ∧
    s.Yields (fun other => s.evaluate (feature :: path) other none) feature o.1 q r ∧
    o.2 = (Eval.reportUse path feature o.1 r).2

theorem Reports.stages {path : List String} {p : Progress} {o : FeatureResult × Progress}
    (h : s.Reports path feature p o) : ReflTransGen s.Stage p o.2 := by
  obtain ⟨q, r, hway, hyields, hreport⟩ := h
  rw [hreport]
  exact hway.tail (.report hyields)

/-- What no rule serves is reported as it is. -/
theorem reports_reportUse (path : List String) (feature : String) {result : FeatureResult}
    (h : result.source ≠ .force ∧ result.source ≠ .experiment) (p : Progress) :
    s.Reports path feature p (Eval.reportUse path feature result p) :=
  ⟨p, p, .refl, .other h p, rfl⟩

/-- **Evaluating a feature settles an outcome and reports it.** -/
theorem reports_evaluate (path : List String) (feature : String) (kind : Option ValueKind) :
    ∀ p, s.Reports path feature p (s.evaluate path feature kind p) := by
  -- the recursion of `evaluate`: the rules are served by evaluations on a longer path
  induction path, feature, kind using evaluate.induct (s := s) with
  | case1 path feature kind hpath =>
    rw [evaluate_of_mem s kind hpath]
    exact reports_reportUse path feature (by decide)
  | case2 path feature kind hpath result hoverride =>
    rw [evaluate_of_not_mem s kind hpath, hoverride]
    obtain ⟨value, rfl | rfl⟩ := override?_cases hoverride
    · exact reports_reportUse path feature (by simp [FeatureResult.source])
    · exact reports_reportUse path feature (by simp [FeatureResult.source])
  | case3 path feature kind hpath hoverride hunknown =>
    rw [evaluate_of_not_mem s kind hpath, hoverride, hunknown]
    exact reports_reportUse path feature (by decide)
  | case4 path feature kind hpath hoverride definition hdef ih =>
    rw [evaluate_of_not_mem s kind hpath, hoverride, hdef]
    intro p
    obtain ⟨q, hway, hyields⟩ := yields_serveFirst (fun other p => (ih other p).stages)
      definition.defaultValue definition.rules (fun rule hrule => ⟨definition, hdef, hrule⟩) p
    exact ⟨q, _, hway, hyields, rfl⟩

/-- **Evaluating a feature goes by stages.** -/
theorem stages_evaluate (path : List String) (feature : String) (kind : Option ValueKind) :
    Eval.Moves s.Stage (s.evaluate path feature kind) :=
  fun p => (reports_evaluate path feature kind p).stages

/-- **Running an experiment goes by stages.** -/
theorem stages_runExperiment (e : Experiment) : Eval.Moves s.Stage (s.runExperiment e) :=
  stages_run (fun feature => stages_evaluate [] feature none) e none

/-! ### What is reported -/

theorem events_reportUse (path : List String) (feature : String) (result : FeatureResult)
    (p : Progress) :
    (Eval.reportUse path feature result p).2.events = p.events ++ [.usage path feature result] :=
  List.reverse_cons

/-- An exposure is reported, unless it is remembered. -/
theorem events_track (e : Experiment) (result : ExperimentResult) (p : Progress) :
    (Eval.track e result p).2.events = p.events ++ [.exposure e result] ∨
      (Eval.track e result p).2.events = p.events := by
  simp only [Eval.track, Eval.modify_apply]
  split
  · exact Or.inl List.reverse_cons
  · exact Or.inr rfl

/-- Nothing else is reported of a rule than the exposures that belong to it. -/
theorem events_trackAll : ∀ (exposures : List TrackedExposure) (p : Progress), ∃ new,
    (Eval.trackAll exposures p).2.events = p.events ++ new ∧
      ∀ event ∈ new, ∃ exposure ∈ exposures, event = .exposure exposure.experiment exposure.result
  | [], p => ⟨[], (List.append_nil _).symm, fun _ h => absurd h List.not_mem_nil⟩
  | exposure :: rest, p => by
    obtain ⟨new, hevents, hnew⟩ :=
      events_trackAll rest (Eval.track exposure.experiment exposure.result p).2
    have hrest : ∀ event ∈ new, ∃ other ∈ exposure :: rest,
        event = .exposure other.experiment other.result := by
      intro event hevent
      obtain ⟨other, hother, heq⟩ := hnew event hevent
      exact ⟨other, List.mem_cons_of_mem exposure hother, heq⟩
    have hall : (Eval.trackAll (exposure :: rest) p).2.events =
        (Eval.track exposure.experiment exposure.result p).2.events ++ new := hevents
    rcases events_track exposure.experiment exposure.result p with htrack | htrack
    · refine ⟨.exposure exposure.experiment exposure.result :: new, ?_, ?_⟩
      · rw [hall, htrack, List.append_assoc, List.singleton_append]
      · intro event hevent
        rcases List.mem_cons.mp hevent with heq | hevent
        · exact ⟨exposure, List.mem_cons_self, heq⟩
        · exact hrest event hevent
    · exact ⟨new, by rw [hall, htrack], hrest⟩

/-- An assignment that is kept may be handed over. -/
theorem mem_events_keep {e : Experiment} {result : ExperimentResult} {p : Progress} {event : Event}
    (h : event ∈ (s.keep e result p).events) : event ∈ p.events ∨ ∃ doc, event = .saved doc := by
  unfold keep at h
  split at h
  · simp only [Eval.assign, Eval.modify_apply] at h
    split at h
    · rcases List.mem_cons.mp (List.mem_reverse.mp h) with rfl | hevent
      · exact Or.inr ⟨_, rfl⟩
      · exact Or.inl (List.mem_reverse.mpr hevent)
    · exact Or.inl h
  · exact Or.inl h

/-- Of an assignment its document may be handed over and its exposure reported. -/
theorem mem_events_conclude {e : Experiment} {variation : Nat} {bucket : Float} {stored : Bool}
    {feature : Option String} {p : Progress} {event : Event}
    (h : event ∈ (s.conclude e feature (.assigned variation bucket stored) p).2.events) :
    event ∈ p.events ∨ (∃ doc, event = .saved doc) ∨
      event = .exposure e (s.resultOf e feature (.assigned variation bucket stored)) := by
  rw [conclude_assigned] at h
  generalize s.resultOf e feature (.assigned variation bucket stored) = result at h ⊢
  rcases events_track e result (s.keep e result p) with htrack | htrack
  · rw [htrack] at h
    rcases List.mem_append.mp h with hkept | hexposure
    · exact (mem_events_keep hkept).imp_right Or.inl
    · exact Or.inr (Or.inr (List.mem_singleton.mp hexposure))
  · rw [htrack] at h
    exact (mem_events_keep h).imp_right Or.inl

end Setting
end FeatureFlags
