/-
# Users outside an experiment leave no trace

A user who is not in an experiment was not placed by chance: no exposure is reported,
no document is stored, and the documents at hand stay as they are. So it should be, and
so it is unless the user overshoots: the ranges of the experiment, or its variation
infos, are more than its variations, and the user falls, or has been stored, beyond the
last variation. Such a user is assigned, tracked and stored, but the result says that
the user does not take part.

`no_trace_iff`: the users who overshoot are exactly those who are not in the experiment
and yet leave a trace. Nobody does where there are no more ranges and infos than
variations.

Key definitions: `Setting.Overshoots`, `Session.NoTrace`.
Key theorems: `Setting.overshoots_iff`, `Session.no_trace_iff`.
-/
import FeatureFlags.Proofs.Decision

namespace FeatureFlags

namespace Setting

variable {V : Type} {s : Setting} {docs : StickyDocuments} {e : Experiment V}

/-! ### Overshooting -/

/-- A stored variation has an info. -/
theorem stickyVariation_lt {variation : Nat}
    (h : s.stickyVariation e docs = .assigned variation) :
    s.sticks e.disableSticky ∧ variation < (e.infos.getD []).length := by
  obtain ⟨hsticks, key, hkey⟩ := exists_key_of_stickyVariation h
  exact ⟨hsticks, (List.findIdx?_eq_some_iff_findIdx_eq.mp hkey).1⟩

/-- The user is placed in an experiment by chance, but beyond its last variation. -/
structure Overshoots (s : Setting) (docs : StickyDocuments) (e : Experiment V) : Prop where
  undecided : s.early? e = none
  meant : s.Meant docs e
  free : s.stickyVariation e docs ≠ .blocked ∧ e.force = none ∧ s.options.qaMode = false
  beyond : ∃ bucket variation, e.bucketOf? (s.identityFor e).value = some bucket ∧
    e.chosen? (s.stickyVariation e docs) bucket = some variation ∧ e.variations.length ≤ variation

/-- Who overshoots is assigned to a variation that does not exist. -/
theorem overshoots_iff : s.Overshoots docs e ↔ ∃ variation bucket stored,
    s.decision docs e = .assigned variation bucket stored ∧ e.variations.length ≤ variation := by
  constructor
  · rintro ⟨hearly, hmeant, ⟨hblocked, hforce, hqa⟩, bucket, variation, hbucket, hchosen, hlen⟩
    refine ⟨variation, bucket, (s.stickyVariation e docs).variation?.isSome, ?_, hlen⟩
    rw [decision, hearly]
    simp only [hmeant, ↓reduceIte]
    exact place_eq_assigned_iff.mpr ⟨hbucket, hblocked, hchosen, hforce, hqa, rfl⟩
  · rintro ⟨variation, bucket, stored, hassigned, hlen⟩
    obtain ⟨hearly, hmeant, hplace⟩ := decision_eq_assigned hassigned
    obtain ⟨hbucket, hblocked, hchosen, hforce, hqa, -⟩ := place_eq_assigned_iff.mp hplace
    exact ⟨hearly, hmeant, ⟨hblocked, hforce, hqa⟩, bucket, variation, hbucket, hchosen, hlen⟩

/-- Nobody overshoots where there are no more ranges and infos than variations. -/
theorem not_overshoots_of_length_le
    (hranges : ∀ ranges, e.ranges = some ranges → ranges.length ≤ e.variations.length)
    (hinfos : s.sticks e.disableSticky → (e.infos.getD []).length ≤ e.variations.length) :
    ¬ s.Overshoots docs e := by
  rintro ⟨-, -, -, bucket, variation, -, hchosen, hlen⟩
  rcases Option.or_eq_some_iff.mp hchosen with hstored | ⟨-, hplaced⟩
  · cases hsticky : s.stickyVariation e docs with
    | unassigned => simp [hsticky, StickyVariation.variation?] at hstored
    | blocked => simp [hsticky, StickyVariation.variation?] at hstored
    | assigned stored =>
      obtain ⟨hsticks, hlt⟩ := stickyVariation_lt hsticky
      have hle := hinfos hsticks
      simp only [hsticky, StickyVariation.variation?, Option.some.injEq] at hstored
      omega
  · have hlt := chooseVariation_lt hplaced
    have hle : e.bucketRanges.length ≤ e.variations.length := by
      unfold Experiment.bucketRanges
      cases hr : e.ranges with
      | none => exact Nat.le_of_eq (length_bucketRanges _ _ _)
      | some ranges => exact hranges ranges hr
    omega

end Setting

/-! ### Traces -/

namespace Session

/-- Nobody could tell from what happened, or from the state after it, that the experiment
was run, and the result does not speak of chance. -/
structure NoTrace (s : Session) (o : Outcome ExperimentResult) : Prop where
  hashUsed : o.answer.hashUsed = false
  bucket : o.answer.bucket = none
  /-- No exposure is reported and no document is handed to the service. -/
  events : o.events = []
  /-- The documents at hand, the service and the tracker are as before. -/
  next : o.next = s

variable {s : Session} {e : Experiment}

/-- A user who is not assigned leaves no trace. -/
theorem noTrace_of_ne_assigned (h : e.prerequisites = [])
    (hne : ∀ variation bucket stored,
      s.setting.decision s.documents e ≠ .assigned variation bucket stored) :
    s.NoTrace (s.run e) := by
  rw [run_of_prerequisites_nil h, compute_eq]
  simp only [Setting.conclude_of_ne_assigned hne]
  cases hd : s.setting.decision s.documents e with
  | assigned variation bucket stored => exact absurd hd (hne variation bucket stored)
  | excluded => exact ⟨rfl, rfl, rfl, rfl⟩
  | blocked => exact ⟨rfl, rfl, rfl, rfl⟩
  | forced variation => exact ⟨rfl, rfl, rfl, rfl⟩

/-- **Users outside an experiment leave no trace, unless they overshoot.** And nobody
overshoots where there are no more ranges and infos than variations. -/
theorem no_trace_iff (s : Session) (e : Experiment) (h : e.prerequisites = []) :
    (((s.run e).answer.inExperiment = false → s.NoTrace (s.run e)) ↔
      ¬ s.setting.Overshoots s.documents e) ∧
    ((∀ ranges, e.ranges = some ranges → ranges.length ≤ e.variations.length) →
      (s.setting.sticks e.disableSticky → (e.infos.getD []).length ≤ e.variations.length) →
      ¬ s.setting.Overshoots s.documents e) := by
  refine ⟨⟨fun htrace hover => ?_, fun hover hout => ?_⟩, Setting.not_overshoots_of_length_le⟩
  · obtain ⟨variation, bucket, stored, hd, hlen⟩ := Setting.overshoots_iff.mp hover
    have hanswer := answer_of_assigned h hd
    have hout : (s.run e).answer.inExperiment = false := by
      rw [hanswer, Bool.eq_false_iff, ne_eq, Setting.inExperiment_assigned_iff]
      omega
    have hused := (htrace hout).hashUsed
    rw [hanswer] at hused
    cases hused
  · refine noTrace_of_ne_assigned h fun variation bucket stored hd => hover ?_
    refine Setting.overshoots_iff.mpr ⟨variation, bucket, stored, hd, ?_⟩
    rw [answer_of_assigned h hd, Bool.eq_false_iff, ne_eq, Setting.inExperiment_assigned_iff] at hout
    exact Nat.le_of_not_lt hout

/-- A visitor without stored assignments, where assignments are stored. -/
def visitor : Session where
  configuration := none
  service := .empty
  options := { sticky := true }
  tracker := .ofCapacity Tracker.defaultCapacity
  profile := { attributes := [("id", .str "1")] }
  documents := .empty

/-- An experiment with two variations and three ranges, of which the last one holds
everybody. -/
def thirdRange : Experiment :=
  { Experiment.basic "exp" [.str "a", .str "b"] with ranges := some [⟨0, 0⟩, ⟨0, 0⟩, ⟨0, 1⟩] }

theorem thirdRange_run :
    (visitor.run thirdRange).answer.inExperiment = false ∧
      (visitor.run thirdRange).answer.hashUsed = true ∧
      ((visitor.run thirdRange).events.filterMap Event.exposure?).length = 1 ∧
      (visitor.run thirdRange).events.filterMap Event.saved? =
        [⟨"id", "1", Dictionary.ofList [("exp__0", "0")]⟩] := by
  decide +kernel

/-- The visitor falls beyond the second variation. -/
theorem thirdRange_overshoots :
    thirdRange.prerequisites = [] ∧ visitor.setting.Overshoots visitor.documents thirdRange := by
  refine ⟨rfl, Classical.byContradiction fun hover => ?_⟩
  have htrace := (no_trace_iff visitor thirdRange rfl).1.mpr hover thirdRange_run.1
  have hused := htrace.hashUsed
  rw [thirdRange_run.2.1] at hused
  cases hused

/-- A user outside an experiment may leave a trace: the visitor is tracked and stored. -/
theorem exists_trace_outside_experiment :
    ¬ ∀ (s : Session) (e : Experiment), e.prerequisites = [] →
      (s.run e).answer.inExperiment = false → s.NoTrace (s.run e) := by
  intro htrace
  have hused := (htrace visitor thirdRange rfl thirdRange_run.1).hashUsed
  rw [thirdRange_run.2.1] at hused
  cases hused

end Session
end FeatureFlags
