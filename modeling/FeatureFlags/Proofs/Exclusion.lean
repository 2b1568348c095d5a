/-
# Experiments that share no user

Two experiments exclude each other if they test users by the same place and let no place pass
both tests. The place of a user depends on nothing but a seed, a text and a hash version. So if
these are the same, a user who passes one of the tests does not pass the other one
(`Filter.Opposes.not_admits`, `Namespace.Opposes.not_admits`).

Where neither stored assignments nor the page address nor forced variations come before, whoever
takes part in an experiment has passed its tests (`Setting.Open.admits_of_inExperiment`), also if
the experiment forces a variation or gives ranges of its own. So nobody takes part in two
experiments that exclude each other (`Session.shares_no_user`), whenever and under whatever
configuration each of them is run.

Filters take the place of the name space: the slice is asked only where there is no list of them
(`Experiment.admits_iff`). Even an empty list switches the name space off. Everybody passes it,
whatever the slice is (`Experiment.admits_of_filters_nil`), so an experiment with an empty list
excludes no other one (`Experiment.Excludes.filters_ne_nil`).

Key definitions: `Filter.Opposes`, `Namespace.Opposes`, `Experiment.Excludes`, `Setting.Open`.
Key theorems: `Experiment.admits_iff`, `Experiment.Excludes.not_admits`,
`Setting.Open.admits_of_inExperiment`, `Session.shares_no_user`.
-/
import FeatureFlags.Proofs.FloatOrder
import FeatureFlags.Proofs.NoTrace

namespace FeatureFlags

/-! ### Tests by place -/

/-- A user passes a filter by falling in one of its ranges. -/
theorem Filter.admits_iff {f : Filter} {attributes : Attributes} :
    f.admits attributes = true ↔
      (Identity.resolve f.hashAttribute none attributes).value ≠ "" ∧
        ∃ x, hashUnit Float f.seed (Identity.resolve f.hashAttribute none attributes).value
            (f.hashVersion.getD 2) = some x ∧ ∃ range ∈ f.ranges, range.contains x = true := by
  unfold Filter.admits
  by_cases hvalue : (Identity.resolve f.hashAttribute none attributes).value = ""
  · simp [hvalue]
  · cases hplace : hashUnit Float f.seed (Identity.resolve f.hashAttribute none attributes).value
      (f.hashVersion.getD 2) with
    | none => simp [hplace]
    | some x => simp [hplace, hvalue]

/-- A user lies in a slice by falling between its ends. -/
theorem Namespace.admits_iff {slice : Namespace} {value : String} :
    slice.admits value = true ↔ ∃ x, hashUnit Float ("__" ++ slice.id) value 1 = some x ∧
      BucketRange.contains ⟨slice.start, slice.stop⟩ x = true := by
  unfold Namespace.admits
  cases hashUnit Float ("__" ++ slice.id) value 1 with
  | none => simp
  | some x => simp

/-- Two filters look at the same place of a user, and no place passes both. -/
structure Filter.Opposes (f g : Filter) : Prop where
  seed : g.seed = f.seed
  hashAttribute : (Identity.named g.hashAttribute).getD Identity.defaultAttribute =
    (Identity.named f.hashAttribute).getD Identity.defaultAttribute
  hashVersion : g.hashVersion.getD 2 = f.hashVersion.getD 2
  apart : ∀ x : Float, ∀ range ∈ f.ranges, range.contains x = true →
    ∀ range' ∈ g.ranges, range'.contains x = false

/-- Two slices are of the same name space, and no place lies in both. -/
structure Namespace.Opposes (a b : Namespace) : Prop where
  id : b.id = a.id
  apart : ∀ x : Float, BucketRange.contains ⟨a.start, a.stop⟩ x = true →
    BucketRange.contains ⟨b.start, b.stop⟩ x = false

/-- Whoever passes the one filter does not pass the other one. -/
theorem Filter.Opposes.not_admits {f g : Filter} (h : f.Opposes g) {attributes : Attributes}
    (hf : f.admits attributes = true) : g.admits attributes = false := by
  obtain ⟨-, x, hx, range, hrange, hcontains⟩ := Filter.admits_iff.mp hf
  have hsame := Identity.resolve_eq_of_named h.hashAttribute attributes
  rw [Bool.eq_false_iff]
  intro hg
  obtain ⟨-, x', hx', range', hrange', hcontains'⟩ := Filter.admits_iff.mp hg
  have hplace : x' = x := by
    rw [hsame, h.seed, h.hashVersion, hx] at hx'
    exact (Option.some.inj hx').symm
  rw [hplace, h.apart x range hrange hcontains range' hrange'] at hcontains'
  cases hcontains'

/-- Whoever lies in the one slice does not lie in the other one. -/
theorem Namespace.Opposes.not_admits {a b : Namespace} (h : a.Opposes b) {value : String}
    (ha : a.admits value = true) : b.admits value = false := by
  obtain ⟨x, hx, hcontains⟩ := Namespace.admits_iff.mp ha
  rw [Bool.eq_false_iff]
  intro hb
  obtain ⟨x', hx', hcontains'⟩ := Namespace.admits_iff.mp hb
  have hplace : x' = x := by
    rw [h.id, hx] at hx'
    exact (Option.some.inj hx').symm
  rw [hplace, h.apart x hcontains] at hcontains'
  cases hcontains'

/-! ### Experiments that test by place -/

namespace Experiment

variable {V W : Type} {e : Experiment V} {e' : Experiment W} {identity : Identity}
  {attributes : Attributes}

/-- **A user passes by the filters, or by the slice where there is no list of filters.** -/
theorem admits_iff : e.admits identity attributes = true ↔
    (∀ fs, e.filters = some fs → ∀ f ∈ fs, f.admits attributes = true) ∧
      (e.filters = none → ∀ slice, e.slice = some slice →
        slice.admits identity.value = true) := by
  unfold admits
  cases hfilters : e.filters with
  | some fs => simp
  | none => cases hslice : e.slice <;> simp

/-- An empty list of filters switches the name space off: everybody passes. -/
theorem admits_of_filters_nil (h : e.filters = some []) :
    e.admits identity attributes = true := by
  refine admits_iff.mpr ⟨fun fs hfilters f hf => ?_, fun hnone => ?_⟩
  · rw [h] at hfilters
    cases hfilters
    cases hf
  · rw [h] at hnone
    cases hnone

/-- The experiments exclude each other: by two of their filters, or if they have none by their
name spaces. -/
inductive Excludes (e : Experiment V) (e' : Experiment W) : Prop where
  | filters {fs gs : List Filter} {f g : Filter} (hfilters : e.filters = some fs)
    (hfilters' : e'.filters = some gs) (hf : f ∈ fs) (hg : g ∈ gs) (hopposes : f.Opposes g)
  | slices {a b : Namespace} (hfilters : e.filters = none) (hfilters' : e'.filters = none)
    (hslice : e.slice = some a) (hslice' : e'.slice = some b)
    (hashAttribute : (Identity.named e'.hashAttribute).getD Identity.defaultAttribute =
      (Identity.named e.hashAttribute).getD Identity.defaultAttribute) (hopposes : a.Opposes b)

/-- An experiment with an empty list of filters excludes no other one and is excluded by none,
whatever the slices are. -/
theorem Excludes.filters_ne_nil (h : e.Excludes e') :
    e.filters ≠ some [] ∧ e'.filters ≠ some [] := by
  cases h with
  | filters hfilters hfilters' hf hg hopposes =>
    rw [hfilters, hfilters', ne_eq, ne_eq, Option.some.injEq, Option.some.injEq]
    exact ⟨List.ne_nil_of_mem hf, List.ne_nil_of_mem hg⟩
  | slices hfilters hfilters' hslice hslice' hashAttribute hopposes =>
    rw [hfilters, hfilters']
    exact ⟨nofun, nofun⟩

/-- **No user passes the tests of both.** -/
theorem Excludes.not_admits (h : e.Excludes e')
    (he : e.admits (.resolve e.hashAttribute none attributes) attributes = true) :
    e'.admits (.resolve e'.hashAttribute none attributes) attributes = false := by
  rw [Bool.eq_false_iff]
  intro he'
  rw [admits_iff] at he he'
  cases h with
  | filters hfilters hfilters' hf hg hopposes =>
    have hpasses := he'.1 _ hfilters' _ hg
    rw [hopposes.not_admits (he.1 _ hfilters _ hf)] at hpasses
    cases hpasses
  | slices hfilters hfilters' hslice hslice' hashAttribute hopposes =>
    have hpasses := he'.2 hfilters' _ hslice'
    rw [Identity.resolve_eq_of_named hashAttribute attributes,
      hopposes.not_admits (he.2 hfilters _ hslice)] at hpasses
    cases hpasses

end Experiment

/-! ### Whoever takes part -/

namespace Setting

variable {s : Setting} {evaluate : String → Eval FeatureResult} {e : Experiment}

/-- No stored assignments are used for the experiment, and no variation is set from outside. -/
structure Open (s : Setting) (e : Experiment) : Prop where
  sticks : s.sticks e.disableSticky = false
  unset : ¬ s.SetsVariation e

/-- The fallback attribute is for stored assignments only. -/
theorem Open.identityFor_eq (h : s.Open e) :
    s.identityFor e = .resolve e.hashAttribute none s.attributes := by
  unfold identityFor fallback
  rw [h.sticks]
  rfl

theorem admits_of_isTarget {p : Progress} (h : (s.isTarget evaluate e p).1 = true) :
    e.admits (s.identityFor e) s.attributes = true := by
  unfold isTarget at h
  split at h
  · rename_i htarget
    exact htarget.1
  · cases h

/-- **Whoever takes part has passed the filters**, or lies in the slice, however the variation
was found then. -/
theorem Open.admits_of_inExperiment (h : s.Open e) {feature : Option String} {p : Progress}
    (hin : (s.run evaluate e feature p).1.inExperiment = true) :
    e.admits (.resolve e.hashAttribute none s.attributes) s.attributes = true := by
  rw [run_eq_bind, Eval.bind_apply, conclude_fst] at hin
  rw [← h.identityFor_eq]
  cases hearly : s.early? e with
  | some early =>
    rw [decide_of_early hearly, early_eq_excluded h.unset hearly] at hin
    cases hin
  | none =>
    rw [decide_of_undecided hearly, stickyVariation_of_not_sticks h.sticks] at hin
    simp only [StickyVariation.variation?, Option.isSome_none, Bool.false_eq_true, ↓reduceIte]
      at hin
    by_cases htarget : (s.isTarget evaluate e p).1 = true
    · exact admits_of_isTarget htarget
    · rw [if_neg htarget] at hin
      cases hin

end Setting

namespace Session

/-- **Experiments that exclude each other share no user.** The user has the same attributes in
both sessions; the second one may be what the run in the first one leaves, or any other one. -/
theorem shares_no_user {s s' : Session} {e e' : Experiment}
    (hattributes : s'.profile.attributes = s.profile.attributes) (hexcludes : e.Excludes e')
    (hopen : s.setting.Open e) (hopen' : s'.setting.Open e') :
    ¬ ((s.run e).answer.inExperiment = true ∧ (s'.run e').answer.inExperiment = true) := by
  rintro ⟨hin, hin'⟩
  have hadmits : e.admits (.resolve e.hashAttribute none s.profile.attributes)
      s.profile.attributes = true :=
    hopen.admits_of_inExperiment (p := ⟨s.documents, s.tracker, []⟩) hin
  have hadmits' : e'.admits (.resolve e'.hashAttribute none s'.profile.attributes)
      s'.profile.attributes = true :=
    hopen'.admits_of_inExperiment (p := ⟨s'.documents, s'.tracker, []⟩) hin'
  rw [hattributes, hexcludes.not_admits hadmits] at hadmits'
  cases hadmits'

end Session

/-! ### Ranges that adjoin -/

/-- A range that begins where another one stops has no number in common with it. -/
theorem BucketRange.not_contains_of_adjoin {start middle stop x : Float}
    (h : BucketRange.contains ⟨start, middle⟩ x = true) :
    BucketRange.contains ⟨middle, stop⟩ x = false := by
  have hlt : x < middle := (of_decide_eq_true h).2
  exact decide_eq_false fun hboth => float_not_le_of_lt hlt hboth.1

namespace Session

/-- A user for whom no assignments are stored. -/
def stranger : Session := { visitor with options := {} }

/-- An experiment on the lower half of the users under a seed. -/
def lowerHalf : Experiment :=
  { Experiment.basic "lower" [.str "a", .str "b"] with
    filters := some [⟨"layer", [⟨0, 0.5⟩], none, none⟩] }

/-- An experiment on the upper half of them, which puts everybody into one variation. -/
def upperHalf : Experiment :=
  { Experiment.basic "upper" [.str "a", .str "b"] with
    filters := some [⟨"layer", [⟨0.5, 1⟩], some "id", some 2⟩]
    force := some 1 }

/-- An experiment on the lower half of a name space. -/
def lowerSlice : Experiment :=
  { Experiment.basic "lower" [.str "a", .str "b"] with slice := some ⟨"layer", 0, 0.5⟩ }

/-- An experiment on the upper half of it. -/
def upperSlice : Experiment :=
  { Experiment.basic "upper" [.str "a", .str "b"] with slice := some ⟨"layer", 0.5, 1⟩ }

/-- The stranger takes part in the lower experiment of each pair, and so not in the upper one. -/
theorem halves_share_no_user :
    lowerHalf.Excludes upperHalf ∧ lowerSlice.Excludes upperSlice ∧
      (stranger.run lowerHalf).answer.inExperiment = true ∧
      (stranger.run lowerSlice).answer.inExperiment = true ∧
      ((stranger.run lowerHalf).next.run upperHalf).answer.inExperiment = false ∧
      ((stranger.run lowerSlice).next.run upperSlice).answer.inExperiment = false := by
  have hhalves : lowerHalf.Excludes upperHalf := by
    refine .filters rfl rfl List.mem_cons_self List.mem_cons_self ⟨rfl, by decide, rfl, ?_⟩
    intro x range hrange hcontains range' hrange'
    cases List.mem_singleton.mp hrange
    cases List.mem_singleton.mp hrange'
    exact BucketRange.not_contains_of_adjoin hcontains
  have hslices : lowerSlice.Excludes upperSlice :=
    .slices rfl rfl rfl rfl rfl ⟨rfl, fun x hcontains => BucketRange.not_contains_of_adjoin hcontains⟩
  have hin : (stranger.run lowerHalf).answer.inExperiment = true := by decide +kernel
  have hin' : (stranger.run lowerSlice).answer.inExperiment = true := by decide +kernel
  have hopen : ∀ e, stranger.setting.Open e := fun e => ⟨rfl, by rintro (h | h) <;> cases h⟩
  refine ⟨hhalves, hslices, hin, hin', ?_, ?_⟩
  · have hnext : (stranger.run lowerHalf).next.setting.Open upperHalf := hopen upperHalf
    rw [Bool.eq_false_iff]
    intro hboth
    exact shares_no_user (by rfl) hhalves (hopen lowerHalf) hnext ⟨hin, hboth⟩
  · have hnext : (stranger.run lowerSlice).next.setting.Open upperSlice := hopen upperSlice
    rw [Bool.eq_false_iff]
    intro hboth
    exact shares_no_user (by rfl) hslices (hopen lowerSlice) hnext ⟨hin', hboth⟩

end Session
end FeatureFlags
