/-
# Knowing the path changes nothing where there is no cycle

`Setting.evaluate` stops at a feature that is being evaluated already. This is only right
if it never takes a feature for such a one by mistake: a feature that is required twice is
evaluated twice. So it is: where no cycle is reached, it comes to the same as
`Setting.plain`, which knows no path, with the same events in the same order, and never finds
a cycle (`evaluate_eq_plain`).

Both evaluations are followed step by step (`Progress.Matches`). The path is kept in relation
to the graph: every feature on it depends on the one that is evaluated (`agree_evaluate`).
So a feature that is on the path when it is evaluated depends on itself.

Key definitions: `Progress.Matches`, `Eval.Agree`.
Key theorems: `Setting.agree_evaluate`, `Session.evaluate_eq_plain`.
-/
import FeatureFlags.Proofs.Decision
import FeatureFlags.Proofs.PlainEvaluation

namespace FeatureFlags

open Relation

/-! ### Two evaluations side by side -/

/-- The event, whatever features the evaluation was for. -/
def Event.withoutPath : Event → Event
  | .usage _ feature result => .usage [] feature result
  | event => event

/-- A feature was evaluated and came to a cycle. -/
def Event.IsCyclic (event : Event) : Prop :=
  ∃ feature result, event.usage? = some (feature, result) ∧ result.source = .cyclicPrerequisite

/-- An evaluation with a path has come as far as one without, and has met no cycle. -/
structure Progress.Matches (p q : Progress) : Prop where
  documents : p.documents = q.documents
  tracker : p.tracker = q.tracker
  history : p.history.map Event.withoutPath = q.history
  acyclic : ∀ event ∈ p.history, ¬ event.IsCyclic

/-- The same change of documents and tracker, and the same event, keep up with each other. -/
theorem Progress.Matches.push {p q : Progress} (h : p.Matches q) (docs : StickyDocuments)
    (tracker : Tracker) {event : Event} (hevent : ¬ event.IsCyclic) :
    Progress.Matches ⟨docs, tracker, event :: p.history⟩
      ⟨docs, tracker, event.withoutPath :: q.history⟩ := by
  refine ⟨rfl, rfl, congrArg (event.withoutPath :: ·) h.history, fun other hother => ?_⟩
  rcases List.mem_cons.mp hother with rfl | hother
  · exact hevent
  · exact h.acyclic other hother

/-- From matching starts two computations get to matching ends, with the same answer, of
which `post` holds. -/
def Eval.Agree {α : Type} (post : α → Prop) (c d : Eval α) : Prop :=
  ∀ p q : Progress, p.Matches q →
    (c p).1 = (d q).1 ∧ post (c p).1 ∧ (c p).2.Matches (d q).2

namespace Eval

variable {α β : Type} {post : α → Prop} {post' : β → Prop}

theorem Agree.pure {a : α} (h : post a) : Agree post (pure a) (pure a) :=
  fun _ _ hpq => ⟨rfl, h, hpq⟩

theorem Agree.bind {c d : Eval α} {f g : α → Eval β} (hc : Agree post c d)
    (hf : ∀ a, post a → Agree post' (f a) (g a)) : Agree post' (c >>= f) (d >>= g) := by
  intro p q hpq
  obtain ⟨hanswer, hpost, hnext⟩ := hc p q hpq
  have hrest := hf (c p).1 hpost (c p).2 (d q).2 hnext
  rw [bind_apply, bind_apply, ← hanswer]
  exact hrest

theorem agree_reportUse (path : List String) (feature : String) {result : FeatureResult}
    (h : result.source ≠ .cyclicPrerequisite) :
    Agree (·.source ≠ .cyclicPrerequisite) (reportUse path feature result)
      (reportUse [] feature result) := by
  intro p q hpq
  have hevent : ¬ (Event.usage path feature result).IsCyclic := by
    rintro ⟨_, _, hsame, hcyclic⟩
    cases hsame
    exact h hcyclic
  have hnext := hpq.push p.documents p.tracker hevent
  refine ⟨rfl, h, ?_⟩
  simp only [reportUse, emit, bind_apply, modify_apply, pure_apply]
  rw [← hpq.documents, ← hpq.tracker]
  exact hnext

theorem agree_track (e : Experiment) (result : ExperimentResult) :
    Agree (fun _ => True) (track e result) (track e result) := by
  intro p q hpq
  have hevent : ¬ (Event.exposure e result).IsCyclic := by
    rintro ⟨_, _, hsame, -⟩
    cases hsame
  refine ⟨rfl, trivial, ?_⟩
  simp only [track, modify_apply, ← hpq.tracker, ← hpq.documents]
  split
  · exact hpq.push p.documents _ hevent
  · exact ⟨rfl, rfl, hpq.history, hpq.acyclic⟩

theorem agree_assign (who : Identity) (key variation : String) :
    Agree (fun _ => True) (assign who key variation) (assign who key variation) := by
  intro p q hpq
  have hevent : ∀ doc, ¬ (Event.saved doc).IsCyclic := by
    rintro doc ⟨_, _, hsame, -⟩
    cases hsame
  refine ⟨rfl, trivial, ?_⟩
  simp only [assign, modify_apply, ← hpq.documents, ← hpq.tracker]
  split
  · exact hpq.push _ p.tracker (hevent _)
  · exact hpq

theorem agree_trackAll : ∀ exposures : List TrackedExposure,
    Agree (fun _ => True) (trackAll exposures) (trackAll exposures)
  | [] => .pure trivial
  | exposure :: rest =>
    .bind (agree_track exposure.experiment exposure.result) fun _ _ => agree_trackAll rest

/-- No cycle is found among prerequisites that come to none. -/
theorem agree_prerequisites (groups : SavedGroups) {evaluate plain : String → Eval FeatureResult} :
    ∀ {prerequisites : List Prerequisite},
      (∀ prerequisite ∈ prerequisites, Agree (·.source ≠ .cyclicPrerequisite)
        (evaluate prerequisite.feature) (plain prerequisite.feature)) →
      Agree (· ≠ .cyclic) (Eval.prerequisites groups evaluate prerequisites)
        (Eval.prerequisites groups plain prerequisites)
  | [], _ => .pure (by decide)
  | prerequisite :: rest, h => by
    refine .bind (h prerequisite List.mem_cons_self) fun result hresult => ?_
    rw [if_neg hresult, if_neg hresult]
    split
    · exact agree_prerequisites groups fun other hother => h other (List.mem_cons_of_mem _ hother)
    · exact .pure (by simp)

end Eval

/-! ### From the parts to the whole -/

namespace Setting

variable {s : Setting} {evaluate plain : String → Eval FeatureResult} {feature : String}

theorem agree_conclude (e : Experiment) (feature : Option String) (decision : Decision) :
    Eval.Agree (fun _ => True) (s.conclude e feature decision) (s.conclude e feature decision) := by
  cases decision with
  | assigned variation bucket stored =>
    unfold conclude
    simp only
    split
    · exact .bind (Eval.agree_assign _ _ _) fun _ _ =>
        .bind (Eval.agree_track _ _) fun _ _ => .pure trivial
    · exact .bind (Eval.agree_track _ _) fun _ _ => .pure trivial
  | excluded => exact .pure trivial
  | blocked => exact .pure trivial
  | forced variation => exact .pure trivial

/-- Running an experiment without prerequisites evaluates no feature. -/
theorem agree_run {e : Experiment} (h : e.prerequisites = []) (feature : Option String) :
    Eval.Agree (fun _ => True) (s.run evaluate e feature) (s.run plain e feature) := by
  have hdecide : Eval.Agree (fun _ => True) (s.decide evaluate e) (s.decide plain e) := by
    intro p q hpq
    rw [decide_of_prerequisites_nil h, decide_of_prerequisites_nil h, hpq.documents]
    exact ⟨rfl, trivial, hpq⟩
  rw [run_eq_bind, run_eq_bind]
  exact .bind hdecide fun decision _ => agree_conclude e feature decision

/-- A rule whose prerequisites are met finds no cycle. -/
theorem agree_outcomeOf? (feature : String) (rule : FeatureRule) :
    Eval.Agree (fun outcome => ∀ result, outcome = some result →
        result.source ≠ .cyclicPrerequisite)
      (s.outcomeOf? evaluate feature rule) (s.outcomeOf? plain feature rule) := by
  unfold outcomeOf?
  split
  · exact .pure (by simp)
  · split
    · split
      · refine .bind (Eval.agree_trackAll rule.tracks) fun _ _ => .pure ?_
        rintro _ ⟨⟩
        exact FeatureSource.noConfusion
      · exact .pure (by simp)
    · split
      · exact .pure (by simp)
      · rename_i e he
        have hnil := FeatureRule.prerequisites_experiment? he
        refine .bind (agree_run hnil (some feature)) fun result _ => ?_
        split
        · refine .pure ?_
          rintro _ ⟨⟩
          exact FeatureSource.noConfusion
        · exact .pure (by simp)

theorem agree_serve? {rule : FeatureRule}
    (h : ∀ prerequisite ∈ rule.prerequisites, Eval.Agree (·.source ≠ .cyclicPrerequisite)
      (evaluate prerequisite.feature) (plain prerequisite.feature)) :
    Eval.Agree (fun outcome => ∀ result, outcome = some result →
        result.source ≠ .cyclicPrerequisite)
      (s.serve? evaluate feature rule) (s.serve? plain feature rule) := by
  refine .bind (Eval.agree_prerequisites s.savedGroups h) fun outcome houtcome => ?_
  cases outcome with
  | cyclic => exact absurd rfl houtcome
  | failed gate =>
    cases gate with
    | true =>
      refine .pure ?_
      rintro _ ⟨⟩
      exact FeatureSource.noConfusion
    | false => exact .pure (by simp)
  | met => exact agree_outcomeOf? feature rule

theorem agree_serveFirst (feature : String) (defaultValue : Json) :
    ∀ {rules : List FeatureRule},
      (∀ rule ∈ rules, ∀ prerequisite ∈ rule.prerequisites,
        Eval.Agree (·.source ≠ .cyclicPrerequisite) (evaluate prerequisite.feature)
          (plain prerequisite.feature)) →
      Eval.Agree (·.source ≠ .cyclicPrerequisite)
        (s.serveFirst evaluate feature defaultValue rules)
        (s.serveFirst plain feature defaultValue rules)
  | [], _ => .pure FeatureSource.noConfusion
  | rule :: rest, h => by
    refine .bind (agree_serve? (h rule List.mem_cons_self)) fun outcome houtcome => ?_
    cases outcome with
    | some result => exact .pure (houtcome result rfl)
    | none =>
      exact agree_serveFirst feature defaultValue fun other hother =>
        h other (List.mem_cons_of_mem _ hother)

theorem override?_source {kind : Option ValueKind} {result : FeatureResult}
    (h : s.override? feature kind = some result) : result.source ≠ .cyclicPrerequisite := by
  obtain ⟨value, rfl | rfl⟩ := override?_cases h
  · exact FeatureSource.noConfusion
  · exact FeatureSource.noConfusion

/-- **A path of features that depend on the one to be evaluated changes nothing**, where no
cycle is reached. -/
theorem agree_evaluate (path : List String) (feature : String) (kind : Option ValueKind)
    (h : s.AcyclicFrom feature) (hpath : ∀ g ∈ path, TransGen s.Requires g feature) :
    Eval.Agree (·.source ≠ .cyclicPrerequisite) (s.evaluate path feature kind)
      (s.plain feature h kind) := by
  -- the recursion of `evaluate`: prerequisites are evaluated on a longer path
  induction path, feature, kind using evaluate.induct (s := s) with
  | case1 path feature kind hmem => exact absurd (hpath feature hmem) (h feature .refl)
  | case2 path feature kind hmem result hoverride =>
    rw [evaluate_of_not_mem s kind hmem, plain_eq, hoverride]
    exact Eval.agree_reportUse path feature (override?_source hoverride)
  | case3 path feature kind hmem hoverride hunknown =>
    rw [evaluate_of_not_mem s kind hmem, plain_eq, hoverride, hunknown]
    exact Eval.agree_reportUse path feature FeatureSource.noConfusion
  | case4 path feature kind hmem hoverride definition hdef ih =>
    rw [evaluate_of_not_mem s kind hmem, plain_eq, hoverride, hdef]
    refine .bind (agree_serveFirst feature definition.defaultValue ?_) fun result hresult =>
      Eval.agree_reportUse path feature hresult
    intro rule hrule prerequisite hprerequisite
    have hreq := requires_of_mem hdef hrule hprerequisite
    rw [dif_pos hreq]
    refine ih prerequisite.feature (h.of_requires hreq) fun g hg => ?_
    rcases List.mem_cons.mp hg with rfl | hg
    · exact .single hreq
    · exact .tail (hpath g hg) hreq

end Setting

namespace Session

/-- Evaluations that end in the same way leave the same session behind. -/
theorem next_compute_eq {α : Type} {s : Session} {c d : Setting → Eval α}
    (hend : (c s.setting ⟨s.documents, s.tracker, []⟩).2.Matches
      (d s.setting ⟨s.documents, s.tracker, []⟩).2) :
    (s.compute c).next = (s.compute d).next := by
  have hsaved : (c s.setting ⟨s.documents, s.tracker, []⟩).2.events.filterMap Event.saved? =
      (d s.setting ⟨s.documents, s.tracker, []⟩).2.events.filterMap Event.saved? := by
    have hblind : Event.saved? ∘ Event.withoutPath = Event.saved? := by
      funext event
      cases event <;> rfl
    rw [Progress.events, Progress.events, ← hend.history, ← List.map_reverse,
      List.filterMap_map, hblind]
  rw [compute_eq, compute_eq]
  simp only [hend.documents, hend.tracker, hsaved]

/-- **Where no cycle is reached, knowing the path changes nothing**: answer, events and what
is stored are those of plain evaluation, and no feature comes to a cycle. -/
theorem evaluate_eq_plain (s : Session) (feature : String) (kind : Option ValueKind)
    (h : s.setting.AcyclicFrom feature) :
    (s.evaluate feature kind).answer =
        (s.compute fun _ => s.setting.plain feature h kind).answer ∧
      (s.evaluate feature kind).events.map Event.withoutPath =
        (s.compute fun _ => s.setting.plain feature h kind).events ∧
      (s.evaluate feature kind).next =
        (s.compute fun _ => s.setting.plain feature h kind).next ∧
      (s.evaluate feature kind).answer.source ≠ .cyclicPrerequisite ∧
      ∀ event ∈ (s.evaluate feature kind).events, ¬ event.IsCyclic := by
  have hstart : Progress.Matches ⟨s.documents, s.tracker, []⟩ ⟨s.documents, s.tracker, []⟩ :=
    ⟨rfl, rfl, rfl, fun _ hevent => absurd hevent List.not_mem_nil⟩
  have hpath : ∀ g ∈ ([] : List String), TransGen s.setting.Requires g feature :=
    fun _ hg => absurd hg List.not_mem_nil
  obtain ⟨hanswer, hsource, hend⟩ :=
    Setting.agree_evaluate [] feature kind h hpath _ _ hstart
  refine ⟨hanswer, ?_, next_compute_eq hend, hsource, fun event hevent => ?_⟩
  · have hevents := congrArg List.reverse hend.history
    rw [← List.map_reverse] at hevents
    exact hevents
  · exact hend.acyclic event (List.mem_reverse.mp hevent)

/-- A rule that serves a value where some features have values that are not `null`. -/
def gate (value : Json) (features : List String) : FeatureRule :=
  { FeatureRule.idle with
    force := some value
    prerequisites := features.map fun feature =>
      ⟨feature, ⟨.obj [("value", .obj [("$ne", .null)])]⟩, true⟩ }

/-- A feature that requires two others, both of which require the same one. -/
def diamond : Session where
  configuration := some
    { features := .ofList
        [("top", .feature ⟨.null, [gate (.bool true) ["left", "right"]]⟩),
         ("left", .feature ⟨.null, [gate (.bool true) ["bottom"]]⟩),
         ("right", .feature ⟨.null, [gate (.bool true) ["bottom"]]⟩),
         ("bottom", .feature ⟨.bool true, []⟩)]
      savedGroups := [] }
  service := .empty
  options := {}
  tracker := .ofCapacity Tracker.defaultCapacity
  profile := {}
  documents := .empty

theorem diamond_acyclicFrom (feature : String) : diamond.setting.AcyclicFrom feature := by
  refine Setting.acyclicFrom_of_rank (fun name =>
    if name = "top" then 2 else if name = "bottom" then 0 else 1) ?_ feature
  decide +kernel

/-- A feature that is required twice is not taken for one that depends on itself. -/
theorem diamond_evaluates :
    diamond.setting.AcyclicFrom "top" ∧
      ∀ event ∈ (diamond.evaluate "top" none).events, ¬ event.IsCyclic :=
  ⟨diamond_acyclicFrom "top",
    (evaluate_eq_plain diamond "top" none (diamond_acyclicFrom "top")).2.2.2.2⟩

end Session
end FeatureFlags
