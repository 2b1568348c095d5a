/-
# Running an experiment again

An experiment that is run twice in a row gives the same answer both times, and the second run
stores nothing (`Session.run_again`), if the experiments that are run are such that their
assignments settle (`Setting.Steady`). Where assignments are not stored nothing is asked of
them.

The experiment that is asked for may depend on features, whose rules run experiments of their
own. So evaluations are compared part by part: whenever a part is evaluated again later, with
documents that the first evaluation led to, it comes to the same and stores nothing
(`Setting.Repeats`). A rule's experiment is decided by the documents alone, and its decision is
the same later. The experiment that is asked for is decided when its prerequisites have been
evaluated; but no experiment of a rule has its key, because these have no prerequisites, so on
the way nothing changes for it.

Key definitions: `Setting.Repeats`, `Setting.RunsFor`.
Key theorems: `Setting.repeats_run`, `Setting.repeats_evaluate`, `Session.run_again`.
-/
import FeatureFlags.Proofs.Isolation
import FeatureFlags.Proofs.NoTrace
import FeatureFlags.Proofs.Settling

namespace FeatureFlags

/-- The same outcome, but that an experiment may have assigned the user because of a stored
assignment now. -/
inductive FeatureResult.Matches : FeatureResult → FeatureResult → Prop where
  | refl (result : FeatureResult) : Matches result result
  | experiment (value : Json) (ruleId : Option String) (e : Experiment)
    {r r' : ExperimentResult} (h : r.Matches r') :
    Matches (.experiment value ruleId e r) (.experiment value ruleId e r')

theorem FeatureResult.Matches.source_eq {r r' : FeatureResult} (h : r.Matches r') :
    r'.source = r.source := by
  cases h <;> rfl

theorem FeatureResult.Matches.accepts_eq {r r' : FeatureResult} (h : r.Matches r')
    (prerequisite : Prerequisite) (groups : SavedGroups) :
    prerequisite.accepts groups r' = prerequisite.accepts groups r := by
  cases h <;> rfl

namespace Setting

variable {s : Setting} {kept : Experiment → Prop}

/-! ### Evaluating again -/

section Rules

variable {α β γ δ : Type} {R : α → β → Prop} {S : γ → δ → Prop}

/-- After the first computation, and whatever experiments have been run since then, the second
one comes to the same and stores nothing. -/
def Repeats (s : Setting) (kept : Experiment → Prop) (R : α → β → Prop) (c : Eval α)
    (c' : Eval β) : Prop :=
  ∀ p, s.Steady kept p.documents →
    s.Leads kept p.documents (c p).2.documents ∧
      ∀ q, s.Later kept (c p).2.documents q.documents →
        R (c p).1 (c' q).1 ∧ q.SameStored (c' q).2

theorem Repeats.pure {a : α} {b : β} (h : R a b) : s.Repeats kept R (pure a) (pure b) :=
  fun _ _ => ⟨.refl _, fun q _ => ⟨h, .refl q⟩⟩

theorem Repeats.bind {c : Eval α} {c' : Eval β} {f : α → Eval γ} {f' : β → Eval δ}
    (hc : s.Repeats kept R c c') (hf : ∀ a b, R a b → s.Repeats kept S (f a) (f' b)) :
    s.Repeats kept S (c >>= f) (c' >>= f') := by
  intro p hs
  obtain ⟨hleads, hagain⟩ := hc p hs
  have hs' := hs.later hleads.toLater
  obtain ⟨hleads', -⟩ := hf _ _ (hagain (c p).2 (.refl _)).1 (c p).2 hs'
  refine ⟨hleads.trans hleads', fun q hq => ?_⟩
  obtain ⟨hR, hsame⟩ := hagain q (hleads'.toLater.trans hq)
  obtain ⟨hS, hsame'⟩ := (hf _ _ hR (c p).2 hs').2 (c' q).2 (hsame.documents ▸ hq)
  exact ⟨hS, hsame.trans hsame'⟩

/-- What never stores anything is only asked for its answer. -/
theorem Repeats.of_sameStored {c : Eval α} {c' : Eval β} (hc : ∀ p : Progress, p.SameStored (c p).2)
    (hc' : ∀ q : Progress, q.SameStored (c' q).2) (hR : ∀ p q, R (c p).1 (c' q).1) :
    s.Repeats kept R c c' :=
  fun p _ => ⟨(hc p).documents ▸ .refl _, fun q _ => ⟨hR p q, hc' q⟩⟩

end Rules

/-- **An experiment without prerequisites comes to the same again.** -/
theorem repeats_run {x : Experiment} (hnil : x.prerequisites = [])
    (hx : s.sticks x.disableSticky = true → kept x) (evaluate : String → Eval FeatureResult)
    (feature : Option String) :
    s.Repeats kept ExperimentResult.Matches (s.run evaluate x feature)
      (s.run evaluate x feature) := by
  intro p hs
  simp only [run_eq_bind, Eval.bind_apply, decide_of_prerequisites_nil hnil]
  obtain ⟨hleads, hown⟩ := leads_conclude hs hx feature (d := s.decision p.documents x)
    fun _ _ _ _ => rfl
  refine ⟨hleads, fun q hq => ?_⟩
  have hagain := decision_later (hleads.toLater.trans hq) hx
  rw [conclude_fst]
  refine conclude_again hagain fun n bucket stored hd hsticks => ?_
  obtain ⟨hn, hstored⟩ := hown n bucket stored hd hsticks
  obtain ⟨-, -, hplace⟩ := decision_eq_assigned hd
  exact ⟨hn, hq.stored x (hx hsticks) n
    (hleads.toLater.takes (hx hsticks) ⟨bucket, stored, hplace⟩) hstored⟩

variable {evaluate : String → Eval FeatureResult}

theorem repeats_prerequisites (groups : SavedGroups) : ∀ {prerequisites : List Prerequisite},
    (∀ prerequisite ∈ prerequisites, s.Repeats kept FeatureResult.Matches
      (evaluate prerequisite.feature) (evaluate prerequisite.feature)) →
    s.Repeats kept Eq (Eval.prerequisites groups evaluate prerequisites)
      (Eval.prerequisites groups evaluate prerequisites)
  | [], _ => .pure rfl
  | prerequisite :: rest, h => by
    refine .bind (h prerequisite List.mem_cons_self) fun result result' hmatches => ?_
    rw [hmatches.source_eq, hmatches.accepts_eq]
    split
    · exact .pure rfl
    · split
      · exact repeats_prerequisites groups fun other hother =>
          h other (List.mem_cons_of_mem prerequisite hother)
      · exact .pure rfl

theorem repeats_outcomeOf? {feature : String} {rule : FeatureRule}
    (hrule : ∀ x, rule.experiment? feature = some x → s.sticks x.disableSticky = true → kept x) :
    s.Repeats kept (Option.Rel FeatureResult.Matches) (s.outcomeOf? evaluate feature rule)
      (s.outcomeOf? evaluate feature rule) := by
  unfold outcomeOf?
  split
  · exact .pure .none
  · split
    · split
      · refine .bind (R := Eq) (.of_sameStored (sameStored_trackAll rule.tracks)
          (sameStored_trackAll rule.tracks) fun _ _ => rfl) fun _ _ _ => ?_
        exact .pure (.some (.refl _))
      · exact .pure .none
    · split
      · exact .pure .none
      · rename_i x hx
        refine .bind (repeats_run (FeatureRule.prerequisites_experiment? hx) (hrule x hx) evaluate
          (some feature)) fun result result' hmatches => ?_
        have hin : result'.inExperiment = result.inExperiment := by rw [hmatches]
        have hpass : result'.passthrough = result.passthrough := by rw [hmatches]
        have hvalue : result'.value = result.value := by rw [hmatches]
        rw [hin, hpass, hvalue]
        split
        · exact .pure (.some (.experiment _ _ _ hmatches))
        · exact .pure .none

theorem repeats_serveFirst (feature : String) (defaultValue : Json) :
    ∀ {rules : List FeatureRule},
      (∀ rule ∈ rules, ∀ prerequisite ∈ rule.prerequisites,
        s.Repeats kept FeatureResult.Matches (evaluate prerequisite.feature)
          (evaluate prerequisite.feature)) →
      (∀ rule ∈ rules, ∀ x, rule.experiment? feature = some x →
        s.sticks x.disableSticky = true → kept x) →
      s.Repeats kept FeatureResult.Matches (s.serveFirst evaluate feature defaultValue rules)
        (s.serveFirst evaluate feature defaultValue rules)
  | [], _, _ => .pure (.refl _)
  | rule :: rest, hev, hkept => by
    have hserve : s.Repeats kept (Option.Rel FeatureResult.Matches)
        (s.serve? evaluate feature rule) (s.serve? evaluate feature rule) := by
      refine .bind (repeats_prerequisites _ (hev rule List.mem_cons_self)) fun outcome _ hsame => ?_
      cases hsame
      cases outcome with
      | cyclic => exact .pure (.some (.refl _))
      | failed gate =>
        cases gate with
        | false => exact .pure .none
        | true => exact .pure (.some (.refl _))
      | met => exact repeats_outcomeOf? (hkept rule List.mem_cons_self)
    refine .bind hserve fun outcome outcome' hmatches => ?_
    cases hmatches with
    | some hmatches => exact .pure hmatches
    | none =>
      exact repeats_serveFirst feature defaultValue
        (fun other hother => hev other (List.mem_cons_of_mem rule hother))
        fun other hother => hkept other (List.mem_cons_of_mem rule hother)

/-- A rule of the feature describes the experiment. -/
def OffersAt (s : Setting) (feature : String) (x : Experiment) : Prop :=
  ∃ definition rule, s.configuration.feature? feature = some definition ∧
    rule ∈ definition.rules ∧ rule.experiment? feature = some x

/-- **A feature comes to the same again**, if the experiments of the features that are reached
from it settle. -/
theorem repeats_evaluate (path : List String) (feature : String) (kind : Option ValueKind)
    (hkept : ∀ other x, s.Reaches feature other → s.OffersAt other x →
      s.sticks x.disableSticky = true → kept x) :
    s.Repeats kept FeatureResult.Matches (s.evaluate path feature kind)
      (s.evaluate path feature kind) := by
  have huse : ∀ path feature {result result' : FeatureResult}, result.Matches result' →
      s.Repeats kept FeatureResult.Matches (Eval.reportUse path feature result)
        (Eval.reportUse path feature result') := fun path feature result result' h =>
    .of_sameStored (sameStored_reportUse path feature result)
      (sameStored_reportUse path feature result') fun _ _ => h
  -- the recursion of `evaluate`: what is reached from a prerequisite is reached
  induction path, feature, kind using evaluate.induct (s := s) with
  | case1 path feature kind hpath =>
    rw [evaluate_of_mem s kind hpath]
    exact huse path feature (.refl _)
  | case2 path feature kind hpath result hoverride =>
    rw [evaluate_of_not_mem s kind hpath, hoverride]
    exact huse path feature (.refl _)
  | case3 path feature kind hpath hoverride hunknown =>
    rw [evaluate_of_not_mem s kind hpath, hoverride, hunknown]
    exact huse path feature (.refl _)
  | case4 path feature kind hpath hoverride definition hdef ih =>
    rw [evaluate_of_not_mem s kind hpath, hoverride, hdef]
    refine .bind (repeats_serveFirst feature definition.defaultValue ?_ ?_)
      fun _ _ hmatches => huse path feature hmatches
    · intro rule hrule prerequisite hprerequisite
      have hrequires := requires_of_mem hdef hrule hprerequisite
      exact ih prerequisite.feature fun other x hreaches => hkept other x (.head hrequires hreaches)
    · exact fun rule hrule x hx => hkept feature x .refl ⟨definition, rule, hdef, hrule, hx⟩

/-! ### The experiment that is asked for -/

/-- The experiments that may be run for the prerequisites of an experiment. -/
def RunsFor (s : Setting) (e x : Experiment) : Prop :=
  ∃ prerequisite ∈ e.prerequisites, ∃ feature, s.Reaches prerequisite.feature feature ∧
    s.OffersAt feature x

/-- The experiments that may store assignments when an experiment is run. -/
def Keeps (s : Setting) (e x : Experiment) : Prop :=
  s.sticks x.disableSticky = true ∧ (x = e ∨ s.RunsFor e x)

/-- The experiments that may store assignments when its prerequisites are evaluated. -/
def KeepsFor (s : Setting) (e x : Experiment) : Prop :=
  s.sticks x.disableSticky = true ∧ s.RunsFor e x

theorem KeepsFor.keeps {e x : Experiment} (h : s.KeepsFor e x) : s.Keeps e x := ⟨h.1, Or.inr h.2⟩

theorem OffersAt.prerequisites {feature : String} {x : Experiment} (h : s.OffersAt feature x) :
    x.prerequisites = [] := by
  obtain ⟨-, rule, -, -, hx⟩ := h
  exact FeatureRule.prerequisites_experiment? hx

variable {e : Experiment} {docs docs' : StickyDocuments}

/-- **No experiment that is run for the prerequisites has the key of the experiment**, because it
has no prerequisites itself. -/
theorem Steady.key_ne (hs : s.Steady (s.Keeps e) docs) (he : s.sticks e.disableSticky = true)
    {x : Experiment} (hx : s.KeepsFor e x) : x.key ≠ e.key := by
  intro hkey
  have hshape := hs.shared x e hx.keeps ⟨he, Or.inl rfl⟩ hkey
  have hprerequisites : x.shape.prerequisites = e.shape.prerequisites := by rw [hshape]
  obtain ⟨-, prerequisite, hmem, feature, -, hoffers⟩ := hx
  have hnil : e.prerequisites = [] := hprerequisites.symm.trans hoffers.prerequisites
  rw [hnil] at hmem
  cases hmem

/-- What is stored for the experiment does not change while its prerequisites are evaluated. -/
theorem Steady.stickyVariation_eq (hs : s.Steady (s.Keeps e) docs)
    (h : s.Leads (s.KeepsFor e) docs docs') :
    s.stickyVariation e docs' = s.stickyVariation e docs := by
  by_cases he : s.sticks e.disableSticky = true
  · exact h.others e (fun x hx => hs.key_ne he hx) (hs.truthful e ⟨he, Or.inl rfl⟩)
  · simp only [stickyVariation, he]
    rfl

theorem Steady.leads (hs : s.Steady (s.Keeps e) docs) (h : s.Leads (s.KeepsFor e) docs docs') :
    s.Steady (s.Keeps e) docs' where
  truthful x hx hnamed := h.truthful (hs.truthful x hx hnamed)
  settles x hx := by
    have hsame : s.decision docs' e = s.decision docs e := by
      simp only [decision, Meant, hs.stickyVariation_eq h]
    obtain ⟨hsticks, rfl | hruns⟩ := hx
    · rw [hsame]
      exact hs.settles x ⟨hsticks, Or.inl rfl⟩
    · have hs' : s.Steady (s.KeepsFor e) docs := hs.mono fun _ h => h.keeps
      exact (hs'.later h.toLater).settles x ⟨hsticks, hruns⟩
  shared := hs.shared

/-- Whether the experiment is for the user, when it is asked for. -/
def targets (s : Setting) (e : Experiment) : Eval Bool :=
  s.isTarget (fun feature => s.evaluate [] feature none) e

theorem repeats_targets (s : Setting) (e : Experiment) :
    s.Repeats (s.KeepsFor e) Eq (s.targets e) (s.targets e) := by
  unfold targets isTarget
  split
  · refine .bind (repeats_prerequisites _ fun prerequisite hmem => ?_) fun outcome _ hsame => ?_
    · exact repeats_evaluate [] prerequisite.feature none fun other x hreaches hoffers hsticks =>
        ⟨hsticks, prerequisite, hmem, other, hreaches, hoffers⟩
    · cases hsame
      exact .pure rfl
  · exact .pure rfl

variable {p q : Progress}

theorem meant_of_targets (h : (s.targets e p).1 = true) (docs : StickyDocuments) :
    s.Meant docs e := by
  unfold targets isTarget at h
  split at h
  · rename_i htarget
    exact Or.inr htarget
  · cases h

theorem runExperiment_of_stored (hearly : s.early? e = none)
    (hstored : (s.stickyVariation e p.documents).variation?.isSome = true) :
    s.runExperiment e p = s.conclude e none (s.place e (s.stickyVariation e p.documents)) p := by
  unfold runExperiment
  rw [run_eq_bind, Eval.bind_apply, decide_of_undecided hearly, if_pos hstored]

theorem runExperiment_of_not_stored (hearly : s.early? e = none)
    (hstored : ¬ (s.stickyVariation e p.documents).variation?.isSome = true) :
    s.runExperiment e p =
      s.conclude e none
        (if (s.targets e p).1 then s.place e (s.stickyVariation e p.documents) else .excluded)
        (s.targets e p).2 := by
  unfold runExperiment
  rw [run_eq_bind, Eval.bind_apply, decide_of_undecided hearly, if_neg hstored]
  rfl

/-- A stored assignment is found again. -/
theorem again_of_stored (hs : s.Steady (s.Keeps e) p.documents) (hearly : s.early? e = none)
    (hstored : (s.stickyVariation e p.documents).variation?.isSome = true)
    (hq : q.documents = (s.runExperiment e p).2.documents) :
    (s.runExperiment e p).1.Matches (s.runExperiment e q).1 ∧
      q.SameStored (s.runExperiment e q).2 := by
  rw [runExperiment_of_stored hearly hstored] at hq ⊢
  obtain ⟨hleads, hown⟩ := leads_conclude hs (fun h => ⟨h, Or.inl rfl⟩) none
    (d := s.place e (s.stickyVariation e p.documents)) fun _ _ _ _ => by
      have hmeant : s.Meant p.documents e := Or.inl hstored
      simp only [decision, hearly, hmeant, ↓reduceIte]
  have hsame : s.stickyVariation e q.documents = s.stickyVariation e p.documents := by
    rw [hq]
    refine (hleads.becomes fun h => ⟨h, Or.inl rfl⟩).resolve_right ?_
    rintro ⟨-, -, hnone, -⟩
    rw [hnone] at hstored
    cases hstored
  rw [conclude_fst, runExperiment_of_stored hearly (hsame ▸ hstored), hsame]
  exact conclude_again (Or.inl rfl) (hq ▸ hown)

/-- Without a stored assignment the prerequisites come to the same again, or nobody asks for them
any more because an assignment has been stored. -/
theorem again_of_not_stored (hs : s.Steady (s.Keeps e) p.documents) (hearly : s.early? e = none)
    (hstored : ¬ (s.stickyVariation e p.documents).variation?.isSome = true)
    (hq : q.documents = (s.runExperiment e p).2.documents) :
    (s.runExperiment e p).1.Matches (s.runExperiment e q).1 ∧
      q.SameStored (s.runExperiment e q).2 := by
  have hkept : s.sticks e.disableSticky = true → s.Keeps e e := fun h => ⟨h, Or.inl rfl⟩
  rw [runExperiment_of_not_stored hearly hstored] at hq ⊢
  obtain ⟨htargets, hagain⟩ := s.repeats_targets e p (hs.mono fun _ h => h.keeps)
  have hbefore := hs.stickyVariation_eq htargets
  -- what follows from the decision, and with it what is found in the second run
  obtain ⟨hleads, hown⟩ := leads_conclude (hs.leads htargets) hkept none
    (d := if (s.targets e p).1 = true then s.place e (s.stickyVariation e p.documents)
      else .excluded) fun _ _ _ hd => by
      split at hd
      · rename_i htarget
        simp only [decision, hearly, meant_of_targets htarget, hbefore, htarget, ↓reduceIte]
      · cases hd
  have hlater : s.Later (s.KeepsFor e) (s.targets e p).2.documents q.documents := by
    rw [hq]
    exact hleads.toLater.mono fun _ h => h.keeps
  obtain ⟨hsame, hquiet⟩ := hagain q hlater
  have hcases := hleads.becomes hkept
  rw [← hq] at hcases hown
  rw [conclude_fst]
  rcases hcases with hfound | ⟨n, bucket, hnone, hchance, -, hfound⟩
  · rw [hbefore] at hfound
    rw [runExperiment_of_not_stored hearly (hfound ▸ hstored), hfound, ← hsame]
    obtain ⟨hmatches, hstores⟩ := conclude_again (Or.inl rfl) (hquiet.documents ▸ hown)
    exact ⟨hmatches, hquiet.trans hstores⟩
  · have hstored' : (s.stickyVariation e q.documents).variation?.isSome = true := by
      rw [hfound]
      rfl
    rw [runExperiment_of_stored hearly hstored', hfound, place_assigned hchance]
    refine conclude_again (Or.inr ⟨n, bucket, ?_, rfl⟩) hown
    by_cases htarget : (s.targets e p).1 = true
    · rw [if_pos htarget, ← hbefore, hnone, hchance]
    · -- nothing follows from being excluded, so nothing would be found
      have hdocs : q.documents = (s.targets e p).2.documents := by
        rw [hq, if_neg htarget]
        rfl
      rw [hdocs, hnone] at hfound
      cases hfound

/-- **An experiment comes to the same when it is run again**, and then nothing is stored. -/
theorem runExperiment_again (hs : s.Steady (s.Keeps e) p.documents)
    (hq : q.documents = (s.runExperiment e p).2.documents) :
    (s.runExperiment e p).1.Matches (s.runExperiment e q).1 ∧
      q.SameStored (s.runExperiment e q).2 := by
  cases hearly : s.early? e with
  | some early =>
    have hrun : ∀ r, s.runExperiment e r = s.conclude e none early r := fun r => by
      unfold runExperiment
      rw [run_eq_bind, Eval.bind_apply, decide_of_early hearly]
    rw [hrun, hrun, conclude_fst]
    exact conclude_again (Or.inl rfl) fun n bucket stored hd => absurd hd (early_ne_assigned hearly)
  | none =>
    by_cases hstored : (s.stickyVariation e p.documents).variation?.isSome = true
    · exact again_of_stored hs hearly hstored hq
    · exact again_of_not_stored hs hearly hstored hq

end Setting

namespace Session

/-- **An experiment that is run twice in a row gives the same answer**, and the second run stores
nothing, if the experiments that store assignments settle. Only the reason for an assignment may
be another one. -/
theorem run_again (s : Session) (e : Experiment)
    (h : s.setting.Steady (s.setting.Keeps e) s.documents) :
    ((s.run e).next.run e).answer = { (s.run e).answer with
      stickyUsed := ((s.run e).next.run e).answer.stickyUsed } ∧
    ((s.run e).next.run e).handed = [] ∧
    ((s.run e).next.run e).next.documents = (s.run e).next.documents ∧
    ((s.run e).next.run e).next.service = (s.run e).next.service := by
  obtain ⟨hmatches, hquiet⟩ := Setting.runExperiment_again h
    (p := ⟨s.documents, s.tracker, []⟩)
    (q := ⟨(s.run e).next.documents, (s.run e).next.tracker, []⟩) rfl
  have hhanded : ((s.run e).next.run e).handed = [] := hquiet.saved
  refine ⟨hmatches, hhanded, hquiet.documents, ?_⟩
  show ((s.run e).next.run e).handed.foldl StickyDocuments.save (s.run e).next.service = _
  rw [hhanded, List.foldl_nil]

/-- A trial with two variations, as a feature. -/
def trial : Feature := ⟨.null, [{ FeatureRule.idle with variations := some [.str "a", .str "b"] }]⟩

/-- A user for whom a trial is run, and for whom assignments are stored. -/
def subscriber : Session where
  configuration := some { features := .ofList [("trial", .feature trial)], savedGroups := [] }
  service := .empty
  options := { sticky := true }
  tracker := .ofCapacity Tracker.defaultCapacity
  profile := { attributes := [("id", .str "1")] }
  documents := .empty

/-- An experiment for those who take part in the trial. -/
def survey : Experiment :=
  { Experiment.basic "survey" [.str "x", .str "y"] with
    prerequisites := [⟨"trial", ⟨.obj [("value", .obj [("$ne", .null)])]⟩, true⟩]
    fallbackAttribute := some "device"
    infos := some [⟨some "k0", none, none⟩, ⟨some "k1", none, none⟩]
    bucketVersion := some 1
    minBucketVersion := some 1 }

theorem keeps_survey {x : Experiment} (h : subscriber.setting.Keeps survey x) :
    x = survey ∨ x = Experiment.basic "trial" [.str "a", .str "b"] := by
  obtain ⟨-, hx | ⟨prerequisite, hmem, feature, hreaches, definition, rule, hdef, hrule, hx⟩⟩ := h
  · exact Or.inl hx
  · right
    rw [List.mem_singleton.mp hmem] at hreaches
    have hfeature : feature ∈ ["trial"] :=
      Setting.mem_of_reaches (by decide +kernel) hreaches List.mem_cons_self
    rw [List.mem_singleton.mp hfeature] at hdef hx
    have htrial : subscriber.setting.configuration.feature? "trial" = some trial := rfl
    rw [htrial] at hdef
    cases hdef
    rw [List.mem_singleton.mp hrule] at hx
    cases hx
    rfl

theorem steady_survey : subscriber.setting.Steady (subscriber.setting.Keeps survey)
    subscriber.documents where
  truthful _ _ _ _ _ hfind := by cases hfind
  settles x hx n bucket stored hd := by
    have hlt : n < x.variations.length := by
      refine Nat.lt_of_not_le fun hle => Setting.not_overshoots_of_length_le ?_ ?_
        (Setting.overshoots_iff.mpr ⟨n, bucket, stored, hd, hle⟩)
      · intro ranges hranges
        rcases keeps_survey hx with rfl | rfl <;> cases hranges
      · rcases keeps_survey hx with rfl | rfl <;> exact fun _ => by decide
    refine ⟨hlt, ?_, ?_⟩
    · rcases keeps_survey hx with rfl | rfl
      · have hkeys : ∀ n < 2, survey.sticky.variationWithKey? (survey.variationKey n) = some n := by
          decide
        intro m hm
        rw [hkeys n hlt] at hm
        exact (Option.some.inj hm).symm
      · rintro m hm
        cases hm
    · rcases keeps_survey hx with rfl | rfl <;> decide
  shared x y hx hy hkey := by
    rcases keeps_survey hx with rfl | rfl <;> rcases keeps_survey hy with rfl | rfl
    · rfl
    · exact absurd hkey (by decide)
    · exact absurd hkey (by decide)
    · rfl

/-- The subscriber takes part both times, in the survey and in the trial, and is stored once. -/
theorem survey_again :
    (subscriber.run survey).answer.inExperiment = true ∧
      (subscriber.run survey).handed.length = 2 ∧
      ((subscriber.run survey).next.run survey).answer = { (subscriber.run survey).answer with
        stickyUsed := ((subscriber.run survey).next.run survey).answer.stickyUsed } ∧
      ((subscriber.run survey).next.run survey).handed = [] := by
  obtain ⟨hanswer, hhanded, -⟩ := run_again subscriber survey steady_survey
  exact ⟨by decide +kernel, by decide +kernel, hanswer, hhanded⟩

/-- The second of two runs gives the same answer and stores nothing. -/
structure AnswersAgain (s : Session) (e : Experiment) : Prop where
  value : ((s.run e).next.run e).answer.value = (s.run e).answer.value
  variation : ((s.run e).next.run e).answer.variation = (s.run e).answer.variation
  inExperiment : ((s.run e).next.run e).answer.inExperiment = (s.run e).answer.inExperiment
  handed : ((s.run e).next.run e).handed = []
  documents : ((s.run e).next.run e).next.documents = (s.run e).next.documents

/-- An experiment under a version that blocks those who are assigned under it. -/
def outdated : Experiment :=
  { Experiment.basic "exp" [.str "a", .str "b"] with
    bucketVersion := some 0
    minBucketVersion := some 1 }

/-- A visitor who falls in the second variation. -/
def secondVisitor : Session := { visitor with profile := { attributes := [("id", .str "2")] } }

/-- An experiment whose variations have the same key. -/
def keyedAlike : Experiment :=
  { Experiment.basic "exp" [.str "a", .str "b"] with
    infos := some [⟨some "x", none, none⟩, ⟨some "x", none, none⟩] }

/-- An experiment for nobody, by a prerequisite, with the key of the experiment that is run for
the prerequisite. -/
def gated : Experiment :=
  { Experiment.basic "trial" [.str "a", .str "b"] with
    prerequisites := [⟨"trial", ⟨.obj [("value", .str "nobody")]⟩, true⟩]
    infos := some [⟨some "0", none, none⟩, ⟨some "1", none, none⟩] }

/-- A visitor for whom a document of somebody else is stored. -/
def borrower : Session :=
  { visitor with
    documents := Dictionary.ofList [("id||1", ⟨"id", "2", .ofList [("exp__1", "0")]⟩)] }

/-- An experiment that also asks for the documents of a fallback attribute. -/
def renewed : Experiment :=
  { Experiment.basic "exp" [.str "a", .str "b"] with
    fallbackAttribute := some "id"
    bucketVersion := some 2
    minBucketVersion := some 2 }

/-- **Not every experiment gives the same answer again.** An outdated one keeps out those whom it
has assigned. If keys are shared, by variations or by experiments, what is stored for one is
taken for the other. And a document of somebody else, stored for the user, hides others only
until it is replaced. -/
theorem exists_other_answer :
    ¬ visitor.AnswersAgain outdated ∧ ¬ secondVisitor.AnswersAgain keyedAlike ∧
      ¬ subscriber.AnswersAgain gated ∧ ¬ borrower.AnswersAgain renewed :=
  ⟨fun h => absurd h.inExperiment (by decide +kernel),
    fun h => absurd h.variation (by decide +kernel),
    fun h => absurd h.inExperiment (by decide +kernel),
    fun h => absurd h.inExperiment (by decide +kernel)⟩

end Session
end FeatureFlags
