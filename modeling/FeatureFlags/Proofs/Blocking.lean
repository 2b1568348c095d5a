/-
# Users who are kept out stay out

A user who has been assigned under a bucket version below the least one is kept out of an
experiment. The user stays so, whatever is evaluated in the meantime: assignments that are stored
are never dropped, and those that are put in belong to the user, so the documents do not begin to
look like somebody else's (`StickyDocuments.isSome_find?_assignmentsFor_save`). A later version
of the experiment keeps out whom an earlier one has kept out, if its least bucket version is no
lower (`StickyExperiment.Succeeds.isBlocked`).

So no step of an evaluation lets the user in (`Setting.Step.lookup_blocked`), and hence no
sequence of evaluations does (`Session.Onward.lookup_blocked`). When such an experiment is run,
for itself or for a feature, the user takes part only if a variation is set from outside, and
nothing is stored or reported (`Session.blocked_stays_out`).

Key definitions: `StickyExperiment.Succeeds`, `Setting.KeepsOut`, `Session.Onward`.
Key theorems: `Setting.Step.lookup_blocked`, `Session.Onward.lookup_blocked`,
`Session.blocked_stays_out`.
-/
import FeatureFlags.Proofs.Lookup
import FeatureFlags.Proofs.NoTrace

namespace FeatureFlags

open Relation

/-! ### Assignments that count -/

namespace StickyDocuments

variable {docs : StickyDocuments} {attributes : Attributes} {who : Identity}

/-- **What counts for the user goes on to count when an assignment of the user is stored.** -/
theorem isSome_find?_assignmentsFor_save
    (hwho : who.value = Identity.textOf attributes who.name) (key variation : String)
    {primary fallback : Option String} {key' : String}
    (h : ((docs.assignmentsFor primary fallback attributes).find? key').isSome) :
    (((docs.save (docs.updated who key variation)).assignmentsFor primary fallback
      attributes).find? key').isSome := by
  unfold assignmentsFor at h ⊢
  cases hnamed : Identity.named fallback with
  | none =>
    rw [hnamed] at h
    exact isSome_find?_save_updated docs who key variation h
  | some name =>
    simp only [hnamed, Identity.resolve_some (Identity.ne_empty_of_named hnamed)] at h ⊢
    by_cases hother : docs.hasOther ⟨name, Identity.textOf attributes name⟩ = true
    · rw [if_pos hother] at h
      cases h
    · have hother' : ¬ (docs.save (docs.updated who key variation)).hasOther
          ⟨name, Identity.textOf attributes name⟩ = true := fun hnew =>
        hother (hasOther_of_save hwho hnew)
      rw [if_neg hother] at h
      rw [if_neg hother']
      split
      · rename_i hempty
        rw [if_pos hempty] at h
        exact isSome_find?_save_updated docs who key variation h
      · rename_i hvalue
        rw [if_neg hvalue, Dictionary.find?_overlay, Option.isSome_or, Bool.or_eq_true] at h
        rw [Dictionary.find?_overlay, Option.isSome_or, Bool.or_eq_true]
        exact h.imp (isSome_find?_save_updated docs who key variation)
          (isSome_find?_save_updated docs who key variation)

end StickyDocuments

/-! ### Experiments that keep out the same users -/

namespace StickyExperiment

variable {x x' : StickyExperiment} {docs docs' : StickyDocuments} {attributes : Attributes}

/-- One experiment is a later version of another one: the key and the attributes are the same,
and the least bucket version is no lower. -/
structure Succeeds (x' x : StickyExperiment) : Prop where
  key : x'.key = x.key
  hashAttribute : (Identity.named x'.hashAttribute).getD Identity.defaultAttribute =
    (Identity.named x.hashAttribute).getD Identity.defaultAttribute
  fallbackAttribute : Identity.named x'.fallbackAttribute = Identity.named x.fallbackAttribute
  minBucketVersion : x.minBucketVersion.getD 0 ≤ x'.minBucketVersion.getD 0

theorem Succeeds.refl (x : StickyExperiment) : x.Succeeds x := ⟨rfl, rfl, rfl, Int.le_refl _⟩

/-- **Whoever is kept out is kept out by a later version**, and if more assignments count. -/
theorem Succeeds.isBlocked (h : x'.Succeeds x) {before after : Assignments}
    (hkept : ∀ key, (before.find? key).isSome → (after.find? key).isSome)
    (hblocked : x.isBlocked before = true) : x'.isBlocked after = true := by
  obtain ⟨version, hlt, hstored⟩ := isBlocked_iff.mp hblocked
  refine isBlocked_iff.mpr ⟨version, ?_, ?_⟩
  · have hle := h.minBucketVersion
    omega
  · rw [h.key]
    exact hkept _ hstored

/-- For a later version the same assignments count. -/
theorem Succeeds.assignmentsFor_eq (h : x'.Succeeds x) (docs : StickyDocuments)
    (attributes : Attributes) :
    docs.assignmentsFor x'.hashAttribute x'.fallbackAttribute attributes =
      docs.assignmentsFor x.hashAttribute x.fallbackAttribute attributes := by
  unfold StickyDocuments.assignmentsFor
  rw [h.fallbackAttribute, Identity.resolve_eq_of_named h.hashAttribute]

theorem Succeeds.lookup_blocked (h : x'.Succeeds x)
    (hblocked : x.lookup docs attributes = .blocked) : x'.lookup docs attributes = .blocked := by
  rw [lookup_eq_blocked_iff] at hblocked ⊢
  rw [h.assignmentsFor_eq]
  exact h.isBlocked (fun _ hkey => hkey) hblocked

end StickyExperiment

/-! ### Along an evaluation -/

namespace Setting

variable {s : Setting} {runs : Experiment → Prop} {p q : Progress}

/-- **No step lets a user in who is kept out.** -/
theorem Step.lookup_blocked {x : StickyExperiment} (h : s.Step runs p q)
    (hblocked : x.lookup p.documents s.attributes = .blocked) :
    x.lookup q.documents s.attributes = .blocked := by
  rcases h.documents_cases with ⟨hdocs, -⟩ | ⟨who, key, variation, hassigns, -, hdocs, -⟩
  · rw [hdocs]
    exact hblocked
  · have hwho : who.value = Identity.textOf s.attributes who.name := by
      cases hassigns with
      | @place e _ _ _ _ _ _ _ _ _ => exact s.value_identityFor e
    rw [StickyExperiment.lookup_eq_blocked_iff] at hblocked ⊢
    rw [hdocs]
    refine (StickyExperiment.Succeeds.refl x).isBlocked (fun key' hkey' => ?_) hblocked
    exact StickyDocuments.isSome_find?_assignmentsFor_save hwho key variation hkey'

theorem lookup_blocked_of_steps {x : StickyExperiment} (h : ReflTransGen (s.Step runs) p q)
    (hblocked : x.lookup p.documents s.attributes = .blocked) :
    x.lookup q.documents s.attributes = .blocked := by
  induction h with
  | refl => exact hblocked
  | tail _ hlast ih => exact hlast.lookup_blocked ih

variable {e : Experiment}

/-- A user who is kept out takes part only if a variation is set from outside. -/
theorem decision_of_blocked {docs : StickyDocuments} (h : s.stickyVariation e docs = .blocked) :
    s.decision docs e = .excluded ∨ s.decision docs e = .blocked ∨
      ∃ variation, s.decision docs e = .forced variation ∧ s.SetsVariation e := by
  unfold decision
  cases hearly : s.early? e with
  | some early =>
    rcases early?_cases hearly with rfl | ⟨variation, rfl, hsets⟩
    · exact Or.inl rfl
    · exact Or.inr (Or.inr ⟨variation, rfl, hsets⟩)
  | none =>
    simp only [h]
    split
    · unfold place
      cases e.bucketOf? (s.identityFor e).value with
      | none => exact Or.inl rfl
      | some bucket => exact Or.inr (Or.inl rfl)
    · exact Or.inl rfl

theorem decision_ne_assigned_of_blocked {docs : StickyDocuments}
    (h : s.stickyVariation e docs = .blocked) (variation : Nat) (bucket : Float) (stored : Bool) :
    s.decision docs e ≠ .assigned variation bucket stored := by
  intro hd
  obtain ⟨-, -, hplace⟩ := decision_eq_assigned hd
  obtain ⟨-, hfree, -⟩ := place_eq_assigned_iff.mp hplace
  exact hfree h

/-- When the experiment is run from `p`, whatever for, nothing happens, and the user takes part
only if a variation is set from outside. -/
def KeepsOut (s : Setting) (e : Experiment) (p : Progress) : Prop :=
  ∀ (evaluate : String → Eval FeatureResult) (feature : Option String),
    (s.run evaluate e feature p).2 = p ∧
      ((s.run evaluate e feature p).1.inExperiment = true → s.SetsVariation e)

theorem keepsOut_of_blocked (h : e.prerequisites = [])
    (hblocked : s.stickyVariation e p.documents = .blocked) : s.KeepsOut e p := by
  intro evaluate feature
  rw [run_eq_bind, Eval.bind_apply, decide_of_prerequisites_nil h]
  rcases decision_of_blocked hblocked with hd | hd | ⟨variation, hd, hsets⟩
  · rw [hd]
    exact ⟨rfl, fun hin => absurd hin Bool.false_ne_true⟩
  · rw [hd]
    exact ⟨rfl, fun hin => absurd hin Bool.false_ne_true⟩
  · rw [hd]
    exact ⟨rfl, fun _ => hsets⟩

end Setting

/-! ### After any evaluations -/

namespace Session

/-- The documents that a user who has `docs` can have after further evaluations. The attributes
stay as they are; anything else may change in between. -/
inductive Onward (attributes : Attributes) (docs : StickyDocuments) : StickyDocuments → Prop where
  | start : Onward attributes docs docs
  | evaluate {s : Session} (feature : String) (kind : Option ValueKind)
    (hattributes : s.profile.attributes = attributes)
    (honward : Onward attributes docs s.documents) :
    Onward attributes docs (s.evaluate feature kind).next.documents
  | run {s : Session} (e : Experiment) (hattributes : s.profile.attributes = attributes)
    (honward : Onward attributes docs s.documents) :
    Onward attributes docs (s.run e).next.documents

/-- **No evaluations let a user in who is kept out.** -/
theorem Onward.lookup_blocked {attributes : Attributes} {docs docs' : StickyDocuments}
    {x : StickyExperiment} (h : Onward attributes docs docs')
    (hblocked : x.lookup docs attributes = .blocked) : x.lookup docs' attributes = .blocked := by
  induction h with
  | start => exact hblocked
  | @evaluate s feature kind hattributes _ ih =>
    subst hattributes
    have hmoves := Setting.moves_evaluateFeature (s := s.setting) feature kind
      ⟨s.documents, s.tracker, []⟩
    have hnext := Setting.lookup_blocked_of_steps hmoves ih
    exact hnext
  | @run s e hattributes _ ih =>
    subst hattributes
    have hmoves := Setting.moves_runExperiment (s := s.setting) e ⟨s.documents, s.tracker, []⟩
    have hnext := Setting.lookup_blocked_of_steps hmoves ih
    exact hnext

/-- **Whoever is kept out of an experiment stays out of it**, and of later versions of it, after
any evaluations. Running it by itself leaves no trace, and nothing happens when it is run
somewhere in the course of an evaluation. The user takes part, or has the value of a feature by
it, only if a variation is set from outside. -/
theorem blocked_stays_out {s t : Session} {e e' : Experiment}
    (hblocked : e.sticky.lookup s.documents s.profile.attributes = .blocked)
    (honward : Onward s.profile.attributes s.documents t.documents)
    (hattributes : t.profile.attributes = s.profile.attributes) (hsticky : t.options.sticky = true)
    (hlater : e'.sticky.Succeeds e.sticky) (henabled : e'.disableSticky = false)
    (h : e'.prerequisites = []) :
    t.NoTrace (t.run e') ∧
      ((t.run e').answer.inExperiment = true → t.setting.SetsVariation e') ∧
      (∀ runs q, ReflTransGen (t.setting.Step runs) ⟨t.documents, t.tracker, []⟩ q →
        t.setting.KeepsOut e' q) ∧
      ∀ feature kind value id result,
        (t.evaluate feature kind).answer = .experiment value id e' result →
          t.setting.SetsVariation e' := by
  have hsticks := sticks_of_sticky hsticky henabled
  have hfound : e'.sticky.lookup t.documents t.setting.attributes = .blocked := by
    have hnow := hlater.lookup_blocked (honward.lookup_blocked hblocked)
    rw [← hattributes] at hnow
    exact hnow
  have hvariation : ∀ docs, e'.sticky.lookup docs t.setting.attributes = .blocked →
      t.setting.stickyVariation e' docs = .blocked := fun docs hdocs => by
    rw [Setting.stickyVariation, if_pos hsticks, hdocs]
  have hway : ∀ runs q, ReflTransGen (t.setting.Step runs) ⟨t.documents, t.tracker, []⟩ q →
      t.setting.KeepsOut e' q := fun runs q hsteps =>
    Setting.keepsOut_of_blocked h (hvariation _ (Setting.lookup_blocked_of_steps hsteps hfound))
  have hstart := hway (fun _ => True) _ .refl
  refine ⟨?_, (hstart _ none).2, hway, ?_⟩
  · exact noTrace_of_ne_assigned h
      (Setting.decision_ne_assigned_of_blocked (hvariation t.documents hfound))
  · intro feature kind value id result hanswer
    -- somewhere on the way the feature has run the experiment
    obtain ⟨q, hsteps, hrun, hin⟩ := Setting.enters_of_evaluate (fun _ hoffers => hoffers) hanswer
    rw [← hrun] at hin
    exact (hway _ q hsteps _ (some feature)).2 hin

/-- A user who was assigned before the experiment was started anew. -/
def veteran : Session :=
  { visitor with
    service := .ofList [⟨"id", "1", .ofList [("exp__0", "0")]⟩]
    profile := { attributes := [("device", .str "d1"), ("id", .str "1")] }
    documents := .ofList [⟨"id", "1", .ofList [("exp__0", "0")]⟩] }

/-- The experiment, started anew for those who were not assigned before. -/
def relaunched : Experiment :=
  { Experiment.basic "exp" [.str "a", .str "b"] with
    fallbackAttribute := some "device"
    bucketVersion := some 1
    minBucketVersion := some 1 }

/-- The experiment, started once more and put into one variation. -/
def concluded : Experiment :=
  { relaunched with bucketVersion := some 2, minBucketVersion := some 2, force := some 1 }

/-- Another experiment, which stores an assignment for the fallback attribute. -/
def onDevices : Experiment :=
  { Experiment.basic "devices" [.str "a", .str "b"] with hashAttribute := some "device" }

/-- The veteran stays out of both, also when something else has been stored in the meantime. -/
theorem veteran_stays_out :
    relaunched.sticky.lookup veteran.documents veteran.profile.attributes = .blocked ∧
      (veteran.run onDevices).next.documents ≠ veteran.documents ∧
      ((veteran.run onDevices).next.run relaunched).answer.inExperiment = false ∧
      ((veteran.run onDevices).next.run concluded).answer.inExperiment = false := by
  have hblocked : relaunched.sticky.lookup veteran.documents veteran.profile.attributes =
      .blocked := by decide +kernel
  have honward : Onward veteran.profile.attributes veteran.documents
      (veteran.run onDevices).next.documents := .run onDevices rfl .start
  have hset : ∀ e : Experiment, ¬ (veteran.run onDevices).next.setting.SetsVariation e := by
    rintro e (hurl | hforced)
    · cases hurl
    · cases hforced
  obtain ⟨-, hrelaunched, -⟩ :=
    blocked_stays_out hblocked honward rfl rfl (.refl relaunched.sticky) rfl rfl
  obtain ⟨-, hconcluded, -⟩ :=
    blocked_stays_out hblocked honward rfl rfl
      (⟨rfl, rfl, rfl, by decide⟩ : concluded.sticky.Succeeds relaunched.sticky) rfl rfl
  refine ⟨hblocked, by decide +kernel, ?_, ?_⟩
  · rw [Bool.eq_false_iff]
    exact fun hin => hset relaunched (hrelaunched hin)
  · rw [Bool.eq_false_iff]
    exact fun hin => hset concluded (hconcluded hin)

end Session
end FeatureFlags
