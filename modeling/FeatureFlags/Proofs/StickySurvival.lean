/-
# Assignments survive new weights and new targeting

A user who has been assigned keeps the variation when the experiment is given other
weights, coverage, ranges, seeds, conditions, filters, name spaces or prerequisites
(`assignment_survives`). The documents must be those that were loaded for the user, and
then the stored assignment is found again: under the same document, because both runs
resolve the same identity; under the same key, because the bucket version is the same;
and it means the same variation, because the keys of variations are distinct.

What could stand in the way is that the user is blocked. But the new assignment is made
under a version that is not too low, and apart from it the same assignments count as
before, when the user was not blocked (`StickyExperiment.lookup_of_stored`).

Key definitions: `Experiment.Lasting`, `Experiment.Rerandomises`, `Setting.Undisturbed`.
Key theorems: `StickyExperiment.lookup_of_stored`, `Session.assignment_survives`.
-/
import FeatureFlags.Proofs.AssignmentKeys
import FeatureFlags.Proofs.Loaded

namespace FeatureFlags

/-! ### Assignments under a version -/

namespace StickyExperiment

variable {x : StickyExperiment} {docs docs' : StickyDocuments} {attributes : Attributes}

/-- An assignment under a version that is not too low blocks nobody. -/
theorem isBlocked_eq_false_of_find? {before after : Assignments}
    (hblocked : x.isBlocked before = false)
    (hversion : ¬ (0 ≤ x.bucketVersion.getD 0 ∧
      x.bucketVersion.getD 0 < x.minBucketVersion.getD 0))
    (hafter : ∀ key, assignmentKey x.key x.bucketVersion ≠ key →
      after.find? key = before.find? key) :
    x.isBlocked after = false := by
  rw [Bool.eq_false_iff, Ne, isBlocked_iff] at hblocked ⊢
  rintro ⟨version, hlt, hstored⟩
  have hne : assignmentKey x.key x.bucketVersion ≠ assignmentKey x.key (some (version : Int)) := by
    intro hkey
    -- the version of the new assignment is the bucket version
    have hsame := (assignmentKey_eq_iff.mp hkey).2
    rw [Option.getD_some] at hsame
    omega
  rw [hafter _ hne] at hstored
  exact hblocked ⟨version, hlt, hstored⟩

/-- **An assignment that is stored counts**, if otherwise the same assignments count as before. -/
theorem assigned_of_stored {before after : Assignments} {variation : String} {n : Nat}
    (hblocked : x.isBlocked before = false)
    (hversion : x.minBucketVersion.getD 0 ≤ x.bucketVersion.getD 0)
    (hafter : ∀ key, after.find? key =
      if assignmentKey x.key x.bucketVersion = key then some variation else before.find? key)
    (hkey : x.variationWithKey? variation = some n) :
    x.isBlocked after = false ∧ x.assignedIn? after = some n := by
  refine ⟨?_, ?_⟩
  · exact isBlocked_eq_false_of_find? hblocked (fun hlow => by omega) fun key hne =>
      (hafter key).trans (if_neg hne)
  · rw [assignedIn?, hafter, if_pos rfl]
    exact hkey

/-- A stored variation is found if nobody is kept out and its key is known. -/
theorem lookup_eq_assigned_iff {n : Nat} : x.lookup docs attributes = .assigned n ↔
    x.isBlocked (docs.assignmentsFor x.hashAttribute x.fallbackAttribute attributes) = false ∧
      x.assignedIn? (docs.assignmentsFor x.hashAttribute x.fallbackAttribute attributes) =
        some n := by
  simp only [lookup]
  split
  · rename_i hblocked
    simp [hblocked]
  · rename_i hfree
    cases hassigned : x.assignedIn?
        (docs.assignmentsFor x.hashAttribute x.fallbackAttribute attributes) <;> simp [hfree]

theorem lookup_eq_blocked_iff : x.lookup docs attributes = .blocked ↔
    x.isBlocked (docs.assignmentsFor x.hashAttribute x.fallbackAttribute attributes) = true := by
  simp only [lookup]
  split
  · rename_i hblocked
    simp [hblocked]
  · rename_i hfree
    cases hassigned : x.assignedIn?
        (docs.assignmentsFor x.hashAttribute x.fallbackAttribute attributes) <;> simp [hfree]

theorem isBlocked_eq_false_of_lookup (h : x.lookup docs attributes ≠ .blocked) :
    x.isBlocked (docs.assignmentsFor x.hashAttribute x.fallbackAttribute attributes) = false := by
  rw [Bool.eq_false_iff]
  exact fun hblocked => h (lookup_eq_blocked_iff.mpr hblocked)

/-- **A stored assignment is found again**, if otherwise the same assignments count as
before. -/
theorem lookup_of_stored {variation : String} {n : Nat}
    (hblocked : x.lookup docs attributes ≠ .blocked)
    (hversion : x.minBucketVersion.getD 0 ≤ x.bucketVersion.getD 0)
    (hafter : ∀ key,
      (docs'.assignmentsFor x.hashAttribute x.fallbackAttribute attributes).find? key =
        if assignmentKey x.key x.bucketVersion = key then some variation
        else (docs.assignmentsFor x.hashAttribute x.fallbackAttribute attributes).find? key)
    (hkey : x.variationWithKey? variation = some n) :
    x.lookup docs' attributes = .assigned n :=
  lookup_eq_assigned_iff.mpr
    (assigned_of_stored (isBlocked_eq_false_of_lookup hblocked) hversion hafter hkey)

end StickyExperiment

/-! ### Two experiments -/

namespace Experiment

variable {V : Type} {e e' : Experiment V}

/-- The experiment can assign a user for good. -/
structure Lasting (e : Experiment V) : Prop where
  prerequisites : e.prerequisites = []
  sticky : e.disableSticky = false
  /-- There is one info for each variation, and their keys are distinct. -/
  keys : ∃ keys : List String, (e.infos.getD []).map (·.key) = keys.map some ∧ keys.Nodup ∧
    keys.length = e.variations.length
  version : e.minBucketVersion.getD 0 ≤ e.bucketVersion.getD 0
  hashName : '|' ∉ ((Identity.named e.hashAttribute).getD Identity.defaultAttribute).toList
  fallbackName : ∀ name, Identity.named e.fallbackAttribute = some name → '|' ∉ name.toList

/-- The experiment is the other one with new weights, coverage, ranges, seed, condition,
filters, name space and prerequisites. -/
structure Rerandomises (e' e : Experiment V) : Prop where
  key : e'.key = e.key
  variations : e'.variations = e.variations
  infos : e'.infos = e.infos
  hashAttribute : e'.hashAttribute = e.hashAttribute
  fallbackAttribute : e'.fallbackAttribute = e.fallbackAttribute
  bucketVersion : e'.bucketVersion = e.bucketVersion
  minBucketVersion : e'.minBucketVersion = e.minBucketVersion
  active : e'.active = true
  force : e'.force = none
  sticky : e'.disableSticky = false
  hashVersion : e'.hashVersion.getD 1 = 1 ∨ e'.hashVersion.getD 1 = 2

theorem Rerandomises.sticky_eq (h : e'.Rerandomises e) : e'.sticky = e.sticky := by
  simp only [Experiment.sticky, h.key, h.infos, h.hashAttribute, h.fallbackAttribute,
    h.bucketVersion, h.minBucketVersion]

/-- The key that is stored for a variation. -/
def variationKey (e : Experiment V) (n : Nat) : String :=
  ((e.info? n).bind (·.key)).getD (toString n)

/-- With a known hash version everybody falls somewhere. -/
theorem exists_bucketOf? (h : e.hashVersion.getD 1 = 1 ∨ e.hashVersion.getD 1 = 2)
    (value : String) : ∃ bucket, e.bucketOf? value = some bucket := by
  unfold bucketOf? hashUnit
  rcases h with h | h
  · simp [h, hashSteps]
  · simp [h, hashSteps]

/-- The key of a variation means that variation. -/
theorem Lasting.variationWithKey?_variationKey (h : e.Lasting) {n : Nat}
    (hn : n < e.variations.length) : e.sticky.variationWithKey? (e.variationKey n) = some n := by
  obtain ⟨keys, hkeys, hnodup, hlen⟩ := h.keys
  have hinfo : e.info? n = (e.infos.getD [])[n]? := by
    cases hinfos : e.infos <;> simp [info?, hinfos]
  have hcount : (e.infos.getD []).length = keys.length := by
    have hlengths := congrArg List.length hkeys
    simpa using hlengths
  have hkey : ∀ i (hi : i < (e.infos.getD []).length) (hkeys : i < keys.length),
      ((e.infos.getD [])[i]).key = some keys[i] := by
    intro i hi hi'
    have hget := congrArg (·[i]?) hkeys
    simpa [List.getElem?_eq_getElem hi, List.getElem?_eq_getElem hi'] using hget
  have hin : n < (e.infos.getD []).length := by omega
  have hout : n < keys.length := by omega
  have hown : e.variationKey n = keys[n] := by
    rw [variationKey, hinfo, List.getElem?_eq_getElem hin, Option.bind_some, hkey n hin hout,
      Option.getD_some]
  rw [hown]
  refine List.findIdx?_eq_some_iff_getElem.mpr ⟨hin, ?_, fun i hi => ?_⟩
  · simp [Experiment.sticky, hkey n hin hout]
  · have hi' : i < (e.infos.getD []).length := by omega
    have hne : keys[i] ≠ keys[n] :=
      List.pairwise_iff_getElem.mp hnodup i n (by omega) hout hi
    simp [Experiment.sticky, hkey i hi' (by omega), hne]

end Experiment

namespace Setting

variable {s s' : Setting} {e e' : Experiment}

/-- Nothing that is set from outside keeps the user from being placed, and assignments are
stored. -/
structure Undisturbed (s : Setting) (e : Experiment) : Prop where
  sticky : s.options.sticky = true
  enabled : s.options.enabled = true
  qaMode : s.options.qaMode = false
  url : s.urlVariation? e.key e.variations.length = none
  forced : s.forcedVariation? e.key = none

theorem identityFor_of_sticks (h : s.sticks e.disableSticky = true) :
    s.identityFor e = .resolve e.hashAttribute e.fallbackAttribute s.attributes := by
  unfold identityFor fallback
  rw [if_pos h]

theorem key_resultOf_assigned {feature : Option String} {n : Nat} {bucket : Float} {stored : Bool}
    (hn : n < e.variations.length) :
    (s.resultOf e feature (.assigned n bucket stored)).key = e.variationKey n := by
  simp [resultOf, Option.filter, Experiment.variationKey, hn]

/-- The same assignment means the same to the user, wherever the user falls now. -/
theorem resultOf_rerandomised (h : e'.Rerandomises e) (hwho : s'.identityFor e' = s.identityFor e)
    (feature : Option String) (n : Nat) (bucket bucket' : Float) (stored stored' : Bool) :
    s'.resultOf e' feature (.assigned n bucket' stored') =
      { s.resultOf e feature (.assigned n bucket stored) with
        bucket := some bucket', stickyUsed := stored' } := by
  have hinfo : ∀ i, e'.info? i = e.info? i := fun i => by simp only [Experiment.info?, h.infos]
  simp only [resultOf, h.variations, hwho, hinfo]

/-- After an assignment it is stored for the user, and the user is found to have it. -/
theorem lookup_assign {p : Progress} (hcurrent : p.documents.Current s.attributes) (h : e.Lasting)
    (hsticks : s.sticks e.disableSticky = true) {n : Nat} {bucket : Float} {stored : Bool}
    (hd : s.decision p.documents e = .assigned n bucket stored) (hn : n < e.variations.length) :
    let docs := (Eval.assign (s.identityFor e) (assignmentKey e.key e.bucketVersion)
      (e.variationKey n) p).2.documents
    (docs.assignmentsOf (s.identityFor e)).find? (assignmentKey e.key e.bucketVersion) =
        some (e.variationKey n) ∧
      e.sticky.lookup docs s.attributes = .assigned n := by
  intro docs
  have hwho := identityFor_of_sticks hsticks
  obtain ⟨hearly, -, hplace⟩ := decision_eq_assigned hd
  obtain ⟨-, hblocked, -⟩ := place_eq_assigned_iff.mp hplace
  rw [stickyVariation, if_pos hsticks] at hblocked
  obtain ⟨-, -, -, -, -, hvalue, -⟩ := early?_eq_none_iff.mp hearly
  rw [hwho] at hvalue
  refine ⟨?_, StickyExperiment.lookup_of_stored hblocked h.version (fun key' => ?_)
    (h.variationWithKey?_variationKey hn)⟩
  · rw [Eval.find?_assign, if_pos ⟨rfl, rfl⟩]
  · show (StickyDocuments.assignmentsFor (Eval.assign (s.identityFor e) _ _ p).2.documents _ _
      _).find? key' = _
    rw [hwho]
    exact hcurrent.find?_assignmentsFor_assign h.hashName h.fallbackName hvalue _ _ key'

/-- What is stored already is only reported when the user is assigned again. -/
theorem conclude_of_known {feature : Option String} {n : Nat} {bucket : Float} {stored : Bool}
    {p : Progress}
    (h : (p.documents.assignmentsOf (s.identityFor e)).find? (assignmentKey e.key e.bucketVersion) =
      some (s.resultOf e feature (.assigned n bucket stored)).key) :
    s.conclude e feature (.assigned n bucket stored) p =
      (s.resultOf e feature (.assigned n bucket stored),
        (Eval.track e (s.resultOf e feature (.assigned n bucket stored)) p).2) := by
  have hkeep : s.keep e (s.resultOf e feature (.assigned n bucket stored)) p = p := by
    unfold keep
    rw [Eval.assign_of_known h]
    exact ite_self p
  rw [conclude_assigned]
  simp only [hkeep]

/-- Who has a stored assignment, and can be placed at all, is assigned by it. -/
theorem runExperiment_of_known {n : Nat} {bucket : Float} {p : Progress}
    (hearly : s.early? e = none) (hstored : s.stickyVariation e p.documents = .assigned n)
    (hbucket : e.bucketOf? (s.identityFor e).value = some bucket) (hforce : e.force = none)
    (hqa : s.options.qaMode = false)
    (hknown : (p.documents.assignmentsOf (s.identityFor e)).find?
        (assignmentKey e.key e.bucketVersion) =
      some (s.resultOf e none (.assigned n bucket true)).key) :
    s.runExperiment e p =
      (s.resultOf e none (.assigned n bucket true),
        (Eval.track e (s.resultOf e none (.assigned n bucket true)) p).2) := by
  have hplace : s.place e (.assigned n) = .assigned n bucket true :=
    place_eq_assigned_iff.mpr ⟨hbucket, StickyVariation.noConfusion, rfl, hforce, hqa, rfl⟩
  unfold runExperiment
  rw [run_eq_bind, Eval.bind_apply, decide_of_stored hearly hstored, hplace]
  exact conclude_of_known hknown

end Setting

/-! ### Two runs -/

namespace Session

variable {attributes : Attributes} {s s' : Session} {e e' : Experiment}

theorem sticks_of_sticky (hsticky : s.options.sticky = true) (h : e.disableSticky = false) :
    s.setting.sticks e.disableSticky = true := by
  rw [Setting.sticks, h]
  exact congrArg (· && true) hsticky

/-- What an assignment does to the documents. -/
theorem documents_run_of_assigned (h : e.prerequisites = [])
    (hsticks : s.setting.sticks e.disableSticky = true) {n : Nat} {bucket : Float} {stored : Bool}
    (hd : s.setting.decision s.documents e = .assigned n bucket stored) :
    (s.run e).next.documents =
      (Eval.assign (s.setting.identityFor e) (assignmentKey e.key e.bucketVersion)
        (s.setting.resultOf e none (.assigned n bucket stored)).key
        ⟨s.documents, s.tracker, []⟩).2.documents := by
  rw [run_of_prerequisites_nil h, compute_eq]
  simp only [hd, Setting.conclude_assigned, Eval.documents_track, Setting.keep, hsticks, ↓reduceIte]

/-- After an assignment it is stored for the user, and the user is found to have it. -/
theorem stickyVariation_run (hloaded : Loaded s.profile.attributes s.documents) (h : e.Lasting)
    (hsticky : s.options.sticky = true) {n : Nat} {bucket : Float} {stored : Bool}
    (hd : s.setting.decision s.documents e = .assigned n bucket stored)
    (hn : n < e.variations.length) :
    ((s.run e).next.documents.assignmentsOf (s.setting.identityFor e)).find?
        (assignmentKey e.key e.bucketVersion) =
      some (s.setting.resultOf e none (.assigned n bucket stored)).key ∧
    e.sticky.lookup (s.run e).next.documents s.profile.attributes = .assigned n := by
  have hsticks := sticks_of_sticky hsticky h.sticky
  rw [documents_run_of_assigned h.prerequisites hsticks hd, Setting.key_resultOf_assigned hn]
  exact Setting.lookup_assign (s := s.setting) (p := ⟨s.documents, s.tracker, []⟩) hloaded.current h
    hsticks hd hn

/-- A run that does no more than report an exposure saves nothing. -/
theorem run_of_track {result : ExperimentResult}
    (h : s.setting.runExperiment e ⟨s.documents, s.tracker, []⟩ =
      (result, (Eval.track e result ⟨s.documents, s.tracker, []⟩).2)) :
    (s.run e).answer = result ∧ (s.run e).handed = [] ∧
      (s.run e).next.documents = s.documents ∧ (s.run e).next.service = s.service := by
  have hhanded : (s.run e).handed = [] := by
    rw [run, compute_eq, h]
    exact Eval.saved_track _ _ _
  refine ⟨?_, hhanded, ?_, ?_⟩
  · rw [run, compute_eq, h]
  · rw [run, compute_eq, h]
    exact Eval.documents_track _ _ _
  · show (s.run e).handed.foldl StickyDocuments.save s.service = s.service
    rw [hhanded, List.foldl_nil]

/-- **A user who has been assigned keeps the variation**, whatever has become of weights and
targeting, and nothing more is stored. -/
theorem assignment_survives
    (hloaded : Loaded s.profile.attributes s.documents) (hsticky : s.options.sticky = true)
    (h : e.Lasting) (hin : (s.run e).answer.inExperiment = true)
    (hused : (s.run e).answer.hashUsed = true)
    (hdocuments : s'.documents = (s.run e).next.documents)
    (hattributes : s'.profile.attributes = s.profile.attributes)
    (h' : e'.Rerandomises e) (hopen : s'.setting.Undisturbed e') :
    (s'.run e').answer = { (s.run e).answer with
      bucket := e'.bucketOf? (s.run e).answer.hashValue, stickyUsed := true } ∧
    (s'.run e').handed = [] ∧
    (s'.run e').next.documents = s'.documents ∧ (s'.run e').next.service = s'.service := by
  obtain ⟨n, bucket, stored, hd⟩ := exists_assigned h.prerequisites hused
  have hanswer := answer_of_assigned h.prerequisites hd
  have hn : n < e.variations.length := by
    rw [hanswer] at hin
    exact Setting.inExperiment_assigned_iff.mp hin
  obtain ⟨hknown, hlookup⟩ := stickyVariation_run hloaded h hsticky hd hn
  rw [← hdocuments] at hknown hlookup
  -- both runs are for the same identity
  have hsticks := sticks_of_sticky hsticky h.sticky
  have hsticks' := sticks_of_sticky hopen.sticky h'.sticky
  have hwho : s'.setting.identityFor e' = s.setting.identityFor e := by
    rw [Setting.identityFor_of_sticks hsticks', Setting.identityFor_of_sticks hsticks,
      h'.hashAttribute, h'.fallbackAttribute]
    exact congrArg _ hattributes
  -- the second run finds what the first one has stored, and the user can still be placed
  have hstored : s'.setting.stickyVariation e' s'.documents = .assigned n := by
    rw [Setting.stickyVariation, if_pos hsticks', h'.sticky_eq, ← hlookup]
    exact congrArg _ hattributes
  have hearly : s'.setting.early? e' = none := by
    obtain ⟨hearly, -, -⟩ := Setting.decision_eq_assigned hd
    obtain ⟨hcount, -, -, -, -, hvalue, hnull⟩ := Setting.early?_eq_none_iff.mp hearly
    refine Setting.early?_eq_none_iff.mpr ⟨?_, hopen.enabled, hopen.url, hopen.forced, h'.active, ?_⟩
    · rw [h'.variations]
      exact hcount
    · rw [hwho]
      exact ⟨hvalue, hnull⟩
  obtain ⟨bucket', hbucket⟩ :=
    Experiment.exists_bucketOf? h'.hashVersion (s'.setting.identityFor e').value
  have hsame := Setting.resultOf_rerandomised h' hwho none n bucket bucket' stored true
  have hkey : (s'.documents.assignmentsOf (s'.setting.identityFor e')).find?
        (assignmentKey e'.key e'.bucketVersion) =
      some (s'.setting.resultOf e' none (.assigned n bucket' true)).key := by
    rw [hwho, h'.key, h'.bucketVersion, hsame]
    exact hknown
  have hrun := Setting.runExperiment_of_known (p := ⟨s'.documents, s'.tracker, []⟩) hearly hstored
    hbucket h'.force hopen.qaMode hkey
  obtain ⟨hanswer', hrest⟩ := run_of_track hrun
  refine ⟨?_, hrest⟩
  rw [hanswer', hanswer, hsame, ← hbucket, hwho]
  rfl

/-- A guest, who is known by a device only. -/
def guest : Session where
  configuration := none
  service := .empty
  options := { sticky := true }
  tracker := .ofCapacity Tracker.defaultCapacity
  profile := { attributes := [("device", .str "d1")] }
  documents := .empty

/-- An experiment for users, and for devices of guests. -/
def welcome : Experiment :=
  { Experiment.basic "welcome" [.str "a", .str "b"] with
    fallbackAttribute := some "device"
    infos := some [⟨some "x", none, none⟩, ⟨some "y", none, none⟩]
    bucketVersion := some 1
    minBucketVersion := some 1 }

/-- The same experiment, released to nobody new. -/
def closed : Experiment := { welcome with coverage := some 0, seed := some "closed" }

theorem welcome_run :
    (guest.refresh.run welcome).answer.inExperiment = true ∧
      (guest.refresh.run welcome).answer.hashUsed = true := by
  decide +kernel

/-- The guest stays in the experiment after it has been closed. -/
theorem guest_stays :
    ((guest.refresh.run welcome).next.run closed).answer.variation =
        (guest.refresh.run welcome).answer.variation ∧
      ((guest.refresh.run welcome).next.run closed).answer.inExperiment = true ∧
      ((guest.refresh.run welcome).next.run closed).answer.stickyUsed = true := by
  obtain ⟨hin, hused⟩ := welcome_run
  have hloaded : Loaded guest.refresh.profile.attributes guest.refresh.documents :=
    .refresh [] rfl rfl rfl fun _ h => absurd h List.not_mem_nil
  have hlasting : welcome.Lasting := by
    refine ⟨rfl, rfl, ⟨["x", "y"], rfl, by decide, rfl⟩, by decide, by decide, fun name h => ?_⟩
    cases h
    decide
  have hclosed : closed.Rerandomises welcome :=
    ⟨rfl, rfl, rfl, rfl, rfl, rfl, rfl, rfl, rfl, rfl, Or.inl rfl⟩
  have hopen : (guest.refresh.run welcome).next.setting.Undisturbed closed :=
    ⟨rfl, rfl, rfl, rfl, rfl⟩
  obtain ⟨hanswer, -⟩ :=
    assignment_survives hloaded rfl hlasting hin hused rfl rfl hclosed hopen
  rw [hanswer]
  exact ⟨rfl, hin, rfl⟩

end Session
end FeatureFlags
