/-
# Quality assurance

In QA mode nobody is put into a variation by chance. An experiment still says which variation a
user has if this is set from outside, or by the experiment itself. But where it would assign the
user by place, the user takes no part (`place_ne_assigned`). So no result owes anything to the place
of a user (`unplaced_run`), whether it was stored or is found anew.

Of the stages of an evaluation only reports are left then (`Stage.quiet`). Nothing is stored, and
the exposures that are reported are those that rules bring along which force a value: the rule
has been applied, and right after its exposures the outcome of the feature is reported
(`Setting.BroughtBy`). An evaluation leaves everything but the tracker as it is, so the same holds
of any number of evaluations one after the other (`Session.nobody_placed`).

Key definitions: `ExperimentResult.Unplaced`, `Setting.BroughtBy`, `Setting.Quiet`,
`Session.performAll`, `Session.Quiet`.
Key theorems: `Setting.unplaced_run`, `Setting.Stage.quiet`, `Session.nobody_placed`.
-/
import FeatureFlags.Proofs.Documents
import FeatureFlags.Proofs.Stages

namespace FeatureFlags

/-- The place of the user has no part in the result. -/
structure ExperimentResult.Unplaced {V : Type} (result : ExperimentResult V) : Prop where
  hashUsed : result.hashUsed = false
  bucket : result.bucket = none

theorem FeatureResult.source_eq_experiment {V : Type} {outcome : FeatureResult V}
    {result : ExperimentResult V} (h : outcome.experimentResult? = some result) :
    outcome.source = .experiment := by
  cases outcome with
  | experiment => rfl
  | _ => cases h

namespace Setting

variable {s : Setting} {evaluate : String → Eval FeatureResult} {docs : StickyDocuments}

/-! ### Results -/

theorem place_ne_assigned (h : s.options.qaMode = true) (e : Experiment) (sticky : StickyVariation)
    (variation : Nat) (bucket : Float) (stored : Bool) :
    s.place e sticky ≠ .assigned variation bucket stored := by
  intro hplace
  obtain ⟨-, -, -, -, hoff, -⟩ := place_eq_assigned_iff.mp hplace
  rw [h] at hoff
  cases hoff

theorem unplaced_resultOf {V : Type} {e : Experiment V} {feature : Option String}
    {decision : Decision}
    (h : ∀ variation bucket stored, decision ≠ .assigned variation bucket stored) :
    (s.resultOf e feature decision).Unplaced := by
  cases decision with
  | assigned variation bucket stored => exact absurd rfl (h variation bucket stored)
  | excluded => exact ⟨rfl, rfl⟩
  | blocked => exact ⟨rfl, rfl⟩
  | forced variation => exact ⟨rfl, rfl⟩

/-- **In QA mode the place of the user has no part in any result.** -/
theorem unplaced_run (h : s.options.qaMode = true) (evaluate : String → Eval FeatureResult)
    (e : Experiment) (feature : Option String) (p : Progress) :
    (s.run evaluate e feature p).1.Unplaced := by
  rw [run_eq_bind, Eval.bind_apply, conclude_fst]
  refine unplaced_resultOf fun variation bucket stored hd => ?_
  obtain ⟨-, hplace⟩ := decide_eq_assigned hd
  exact place_ne_assigned h e _ variation bucket stored hplace

/-! ### Reports -/

/-- The exposure belongs to a rule that has forced the outcome of the feature, for a user with the
given documents. -/
def BroughtBy (s : Setting) (docs : StickyDocuments) (path : List String) (feature : String)
    (outcome : FeatureResult) (exposure : TrackedExposure) : Prop :=
  ∃ rule value p, exposure ∈ rule.tracks ∧ outcome = .force value rule.id ∧ p.documents = docs ∧
    s.Applies (fun other => s.evaluate (feature :: path) other none) feature rule value p

/-- What is reported in QA mode. -/
structure Quiet (s : Setting) (docs : StickyDocuments) (events : List Event) : Prop where
  /-- No document is handed over. -/
  saved : events.filterMap Event.saved? = []
  /-- No outcome is by the place of the user. -/
  outcomes : ∀ path feature outcome result, Event.usage path feature outcome ∈ events →
    outcome.experimentResult? = some result → result.Unplaced
  /-- Each exposure is followed by the outcome of the feature whose rule has brought it along. -/
  exposures : ∀ e result, Event.exposure e result ∈ events → ∃ path feature outcome,
    s.BroughtBy docs path feature outcome ⟨e, result⟩ ∧
      [Event.exposure e result, Event.usage path feature outcome].Sublist events

theorem quiet_nil : s.Quiet docs [] where
  saved := rfl
  outcomes _ _ _ _ h := absurd h List.not_mem_nil
  exposures _ _ h := absurd h List.not_mem_nil

/-- An outcome may be reported after exposures that its rule has brought along. -/
theorem Quiet.append {events new : List Event} {path : List String} {feature : String}
    {outcome : FeatureResult} (h : s.Quiet docs events)
    (houtcome : ∀ result, outcome.experimentResult? = some result → result.Unplaced)
    (hnew : ∀ event ∈ new, ∃ exposure, s.BroughtBy docs path feature outcome exposure ∧
      event = .exposure exposure.experiment exposure.result) :
    s.Quiet docs (events ++ new ++ [.usage path feature outcome]) where
  saved := by
    have hnone : new.filterMap Event.saved? = [] := by
      refine List.filterMap_eq_nil_iff.mpr fun event hevent => ?_
      obtain ⟨exposure, -, rfl⟩ := hnew event hevent
      rfl
    rw [List.filterMap_append, List.filterMap_append, h.saved, hnone]
    rfl
  outcomes path' feature' outcome' result hevent hresult := by
    rcases List.mem_append.mp hevent with hevent | hevent
    · rcases List.mem_append.mp hevent with hevent | hevent
      · exact h.outcomes path' feature' outcome' result hevent hresult
      · obtain ⟨exposure, -, heq⟩ := hnew _ hevent
        cases heq
    · cases List.mem_singleton.mp hevent
      exact houtcome result hresult
  exposures e result hevent := by
    rcases List.mem_append.mp hevent with hevent | hevent
    · rcases List.mem_append.mp hevent with hevent | hevent
      · obtain ⟨path', feature', outcome', hbrought, hsublist⟩ := h.exposures e result hevent
        rw [List.append_assoc]
        exact ⟨path', feature', outcome', hbrought,
          hsublist.trans (List.sublist_append_left events _)⟩
      · obtain ⟨exposure, hbrought, heq⟩ := hnew _ hevent
        cases heq
        refine ⟨path, feature, outcome, hbrought, ?_⟩
        have hbefore : [Event.exposure exposure.experiment exposure.result].Sublist
            (events ++ new) := List.singleton_sublist.mpr (List.mem_append_right events hevent)
        exact hbefore.append (List.Sublist.refl [Event.usage path feature outcome])
    · cases List.mem_singleton.mp hevent

/-- An outcome by experiment is not by the place of the user. -/
theorem Yields.unplaced (h : s.options.qaMode = true) {feature : String} {outcome : FeatureResult}
    {p q : Progress} (hyields : s.Yields evaluate feature outcome p q) {result : ExperimentResult}
    (hresult : outcome.experimentResult? = some result) : result.Unplaced := by
  cases hyields with
  | force => cases hresult
  | other hunserved => exact absurd (FeatureResult.source_eq_experiment hresult) hunserved.2
  | @experiment rule e _ before _ _ _ _ hrun =>
    cases hresult
    have hanswer : (s.run evaluate e (some feature) before).1 = result := congrArg Prod.fst hrun
    rw [← hanswer]
    exact unplaced_run h evaluate e _ before

/-- Until an outcome is reported, only exposures that its rule brings along are. -/
theorem Yields.brings {path : List String} {feature : String} {outcome : FeatureResult}
    {p q : Progress}
    (hyields : s.Yields (fun other => s.evaluate (feature :: path) other none) feature outcome p q) :
    q.documents = p.documents ∧ ∃ new, q.events = p.events ++ new ∧
      ∀ event ∈ new, ∃ exposure, s.BroughtBy p.documents path feature outcome exposure ∧
        event = .exposure exposure.experiment exposure.result := by
  have hnothing : p.documents = p.documents ∧ ∃ new, p.events = p.events ++ new ∧
      ∀ event ∈ new, ∃ exposure, s.BroughtBy p.documents path feature outcome exposure ∧
        event = .exposure exposure.experiment exposure.result :=
    ⟨rfl, [], (List.append_nil _).symm, fun _ h => absurd h List.not_mem_nil⟩
  cases hyields with
  | experiment => exact hnothing
  | other => exact hnothing
  | @force rule value _ happlies =>
    have hsame : p.SameStored (Eval.trackAll rule.tracks p).2 := sameStored_trackAll rule.tracks p
    obtain ⟨new, hevents, hnew⟩ := events_trackAll rule.tracks p
    refine ⟨hsame.documents, new, hevents, fun event hevent => ?_⟩
    obtain ⟨exposure, hexposure, heq⟩ := hnew event hevent
    exact ⟨exposure, ⟨rule, value, p, hexposure, rfl, rfl, happlies⟩, heq⟩

/-- **In QA mode a stage only reports.** -/
theorem Stage.quiet (h : s.options.qaMode = true) {p q : Progress} (hstage : s.Stage p q)
    (hp : s.Quiet p.documents p.events) :
    q.documents = p.documents ∧ s.Quiet p.documents q.events := by
  cases hstage with
  | assign hplace => exact absurd hplace (place_ne_assigned h _ _ _ _ _)
  | report hyields =>
    obtain ⟨hdocs, new, hevents, hnew⟩ := hyields.brings
    refine ⟨hdocs, ?_⟩
    rw [events_reportUse, hevents]
    exact hp.append (fun result => hyields.unplaced h) hnew

/-- **A computation that goes by stages reports quietly in QA mode**, and leaves the documents as
they are. -/
theorem quiet_of_stages {α : Type} {c : Eval α} (h : s.options.qaMode = true)
    (hc : c.Moves s.Stage) (docs : StickyDocuments) (tracker : Tracker) :
    (c ⟨docs, tracker, []⟩).2.documents = docs ∧
      s.Quiet docs (c ⟨docs, tracker, []⟩).2.events := by
  have hstep : ∀ p q, s.Stage p q → p.documents = docs ∧ s.Quiet docs p.events →
      q.documents = docs ∧ s.Quiet docs q.events := by
    rintro p q hstage ⟨rfl, hp⟩
    exact hstage.quiet h hp
  exact hc.preserves hstep (p := ⟨docs, tracker, []⟩) ⟨rfl, quiet_nil⟩

end Setting

/-! ### One evaluation after the other -/

/-- The result of an experiment that a reply speaks of. -/
def Reply.experimentResult? : Reply → Option ExperimentResult
  | .feature outcome => outcome.experimentResult?
  | .experiment result => some result
  | .done | .failed _ => none

/-- The command evaluates a feature or runs an experiment. -/
def Command.Evaluates : Command → Prop
  | .evaluate _ _ | .run _ => True
  | _ => False

namespace Session

/-- The outcomes of commands that are carried out one after the other. -/
def performAll (s : Session) : List Command → List (Outcome Reply)
  | [] => []
  | command :: rest => s.perform command :: (s.perform command).next.performAll rest

/-- Nobody is placed: not in the answer, not in what is reported, and nothing is left of the
evaluation but what the tracker remembers. -/
structure Quiet (s : Session) (o : Outcome Reply) : Prop where
  answer : ∀ result, o.answer.experimentResult? = some result → result.Unplaced
  events : s.setting.Quiet s.documents o.events
  /-- No document is handed to the service. -/
  handed : o.handed = []
  /-- The documents at hand and the service are as before. -/
  next : o.next = { s with tracker := o.next.tracker }

variable {s : Session}

/-- What goes by stages leaves the session as it is. -/
theorem quiet_compute {α : Type} {computation : Setting → Eval α} {f : α → Reply}
    (h : s.options.qaMode = true) (hc : (computation s.setting).Moves s.setting.Stage)
    (hanswer : ∀ result, (f (s.compute computation).answer).experimentResult? = some result →
      result.Unplaced) : s.Quiet ((s.compute computation).map f) := by
  obtain ⟨hdocs, hquiet⟩ := Setting.quiet_of_stages h hc s.documents s.tracker
  refine ⟨hanswer, hquiet, hquiet.saved, ?_⟩
  show ({ s with
    documents := (computation s.setting ⟨s.documents, s.tracker, []⟩).2.documents
    tracker := (computation s.setting ⟨s.documents, s.tracker, []⟩).2.tracker
    service := ((computation s.setting ⟨s.documents, s.tracker, []⟩).2.events.filterMap
      Event.saved?).foldl StickyDocuments.save s.service } : Session) = _
  rw [hdocs, hquiet.saved]
  rfl

/-- **In QA mode nobody is placed by an evaluation.** -/
theorem quiet_perform (h : s.options.qaMode = true) {command : Command}
    (hevaluates : command.Evaluates) : s.Quiet (s.perform command) := by
  cases command with
  | evaluate feature kind =>
    refine quiet_compute h (Setting.stages_evaluate [] feature kind) fun result hresult => ?_
    obtain ⟨p, q, -, hyields, -⟩ :=
      Setting.reports_evaluate (s := s.setting) [] feature kind ⟨s.documents, s.tracker, []⟩
    exact hyields.unplaced h hresult
  | run e =>
    refine quiet_compute h (Setting.stages_runExperiment e) fun result hresult => ?_
    cases hresult
    exact Setting.unplaced_run h _ e none _
  | _ => exact hevaluates.elim

/-- What the tracker remembers does not matter. -/
theorem Quiet.of_tracker {tracker : Tracker} {o : Outcome Reply}
    (h : Quiet { s with tracker } o) : s.Quiet o :=
  ⟨h.answer, h.events, h.handed, h.next⟩

theorem quiet_performAll : ∀ (s : Session) (commands : List Command), s.options.qaMode = true →
    (∀ command ∈ commands, command.Evaluates) → ∀ o ∈ s.performAll commands, s.Quiet o
  | _, [], _, _, _, ho => absurd ho List.not_mem_nil
  | s, command :: rest, h, hevaluates, o, ho => by
    have hfirst : s.Quiet (s.perform command) :=
      quiet_perform h (hevaluates command List.mem_cons_self)
    rcases List.mem_cons.mp ho with rfl | ho
    · exact hfirst
    · -- the session that the rest starts from differs in its tracker only
      have hrest : ∀ other ∈ rest, other.Evaluates :=
        fun other hother => hevaluates other (List.mem_cons_of_mem command hother)
      have hmode : (s.perform command).next.options.qaMode = true := by
        rw [hfirst.next]
        exact h
      have hlater := quiet_performAll (s.perform command).next rest hmode hrest o ho
      rw [hfirst.next] at hlater
      exact hlater.of_tracker

/-- **In QA mode nobody is placed**, whatever is evaluated and however often. No result owes
anything to the place of the user, those that are not answered included, no document is changed or
handed to the service, and the only exposures that are reported are those of rules that force a
value and have been applied. -/
theorem nobody_placed (s : Session) (h : s.options.qaMode = true) :
    (∀ commands : List Command, (∀ command ∈ commands, command.Evaluates) →
      ∀ o ∈ s.performAll commands, s.Quiet o) ∧
    ∀ evaluate e feature p, (s.setting.run evaluate e feature p).1.Unplaced :=
  ⟨fun commands => quiet_performAll s commands h, Setting.unplaced_run h⟩

/-- A rule with an experiment whose variations have keys. -/
def leaflet : FeatureRule :=
  { FeatureRule.idle with
    variations := some [.str "a", .str "b"]
    infos := some [⟨some "plain", none, none⟩, ⟨some "bold", none, none⟩] }

/-- A rule that forces a value, and brings an exposure along. -/
def launch : FeatureRule :=
  { FeatureRule.idle with
    force := some (.bool true)
    tracks := [⟨.basic "launch" [.bool false, .bool true],
      { value := some (.bool true), variation := 1, inExperiment := true, hashAttribute := "id",
        hashValue := "1", key := "1", name := none, bucket := none, passthrough := false,
        hashUsed := true, stickyUsed := false, feature := none }⟩] }

/-- Somebody who has an assignment stored, and looks at the features in QA mode. -/
def inspector : Session :=
  Session.refresh ⟨some ⟨.ofList [("leaflet", .feature ⟨.null, [leaflet]⟩),
    ("launch", .feature ⟨.bool false, [launch]⟩)], []⟩,
    .ofList [⟨"id", "1", .ofList [("leaflet__0", "bold")]⟩], { sticky := true, qaMode := true },
    .ofCapacity Tracker.defaultCapacity, { attributes := [("id", .str "1")] }, .empty⟩

/-- What the inspector asks for. -/
def inspection : List Command :=
  [.evaluate "leaflet" none, .run (.basic "exp" [.str "a", .str "b"]), .evaluate "launch" none,
    .evaluate "launch" none]

/-- The inspector is not placed. Only the exposure of the rule that forces a value is reported. -/
theorem inspector_not_placed :
    inspector.options.qaMode = true ∧ (∀ command ∈ inspection, command.Evaluates) ∧
      (inspector.performAll inspection).length = 4 ∧
      ((inspector.performAll inspection).flatMap (·.events.filterMap Event.exposure?)).length = 1 ∧
      ∀ o ∈ inspector.performAll inspection, inspector.Quiet o := by
  have hmode : inspector.options.qaMode = true := by decide +kernel
  have hevaluates : ∀ command ∈ inspection, command.Evaluates := by
    simp [inspection, Command.Evaluates]
  have hexposures : ((inspector.performAll inspection).flatMap
      (·.events.filterMap Event.exposure?)).length = 1 := by decide +kernel
  exact ⟨hmode, hevaluates, rfl, hexposures, (nobody_placed inspector hmode).1 _ hevaluates⟩

end Session
end FeatureFlags
