/-
# What a look-up depends on

What is looked up for an experiment are the assignments under its own key
(`StickyExperiment.lookup_congr`). The key of an assignment tells the experiment
(`experiment_eq_of_assignmentKey`), so assignments of other experiments make no difference. After
an assignment of the experiment itself the look-up finds what it found before, or else the
variation that has the key that was stored (`StickyExperiment.lookup_cases`).

Which documents count for a user could change when one of them is replaced, because a document
of somebody else is a sign that the others are not the user's either. But where documents are
truthful (`StickyDocuments.Truthful`, and for one identity `StickyDocuments.TruthfulFor`), none of
somebody else is ever replaced, and all that storing an assignment does is to put it in, where it
may be hidden by another one (`find?_assignmentsFor_save`).

Key definitions: `StickyDocuments.Truthful`, `StickyDocuments.TruthfulFor`.
Key theorems: `StickyExperiment.lookup_congr`, `StickyExperiment.lookup_cases`,
`StickyDocuments.find?_assignmentsFor_save`, `Setting.stickyVariation_save_of_ne`.
-/
import FeatureFlags.Proofs.StickySurvival

namespace FeatureFlags

/-! ### Documents that are truthful -/

/-- The user has the value of the attribute in use. -/
theorem Identity.value_resolve (primary fallback : Option String) (attributes : Attributes) :
    (resolve primary fallback attributes).value =
      textOf attributes (resolve primary fallback attributes).name := by
  rcases resolve_cases primary fallback attributes with h | ⟨-, name, hname, h⟩
  · rw [h, resolve_none]
  · rw [h, resolve_some (ne_empty_of_named hname)]

namespace StickyDocuments

variable {docs : StickyDocuments} {attributes : Attributes} {who : Identity}

/-- What is stored under a name and the value that the user has for it tells the value that the
user has. -/
def Truthful (docs : StickyDocuments) (attributes : Attributes) : Prop :=
  ∀ name doc, docs.find? (documentKey name (Identity.textOf attributes name)) = some doc →
    doc.attributeValue = Identity.textOf attributes doc.attributeName

/-- The document at hand for an identity, if there is one, tells the value that the user has. -/
def TruthfulFor (docs : StickyDocuments) (attributes : Attributes) (who : Identity) : Prop :=
  ∀ doc, docs.find? who.storageKey = some doc →
    doc.attributeValue = Identity.textOf attributes doc.attributeName

theorem Truthful.truthfulFor (h : docs.Truthful attributes)
    (hwho : who.value = Identity.textOf attributes who.name) : docs.TruthfulFor attributes who := by
  intro doc hfind
  refine h who.name doc ?_
  rw [← hwho]
  exact hfind

theorem Truthful.save (h : docs.Truthful attributes)
    (hwho : who.value = Identity.textOf attributes who.name) (key variation : String) :
    (docs.save (docs.updated who key variation)).Truthful attributes := by
  intro name doc hfind
  rw [find?_save] at hfind
  split at hfind
  · cases hfind
    exact hwho
  · exact h name doc hfind

theorem hasOther_eq_true_iff : docs.hasOther who = true ↔ ∃ key doc, docs.find? key = some doc ∧
    doc.attributeName = who.name ∧ doc.attributeValue ≠ who.value := by
  unfold hasOther
  rw [List.any_eq_true]
  constructor
  · rintro ⟨doc, hdoc, hother⟩
    obtain ⟨key, hfind⟩ := Dictionary.exists_find?_of_mem_values hdoc
    exact ⟨key, doc, hfind, by simpa using hother⟩
  · rintro ⟨key, doc, hfind, hname, hvalue⟩
    exact ⟨doc, Dictionary.mem_values_of_find? hfind, by simpa using ⟨hname, hvalue⟩⟩

/-- Storing an assignment of the user makes nobody else appear. -/
theorem hasOther_of_save (hwho : who.value = Identity.textOf attributes who.name)
    {key variation name : String}
    (h : (docs.save (docs.updated who key variation)).hasOther
      ⟨name, Identity.textOf attributes name⟩ = true) :
    docs.hasOther ⟨name, Identity.textOf attributes name⟩ = true := by
  obtain ⟨key', doc, hfind, hname, hvalue⟩ := hasOther_eq_true_iff.mp h
  rw [find?_save] at hfind
  split at hfind
  · -- the new document is not somebody else's
    cases hfind
    cases hname
    exact absurd hwho hvalue
  · exact hasOther_eq_true_iff.mpr ⟨key', doc, hfind, hname, hvalue⟩

/-- And nobody else disappears. -/
theorem TruthfulFor.hasOther_save (h : docs.TruthfulFor attributes who)
    (hwho : who.value = Identity.textOf attributes who.name) (key variation name : String) :
    (docs.save (docs.updated who key variation)).hasOther
        ⟨name, Identity.textOf attributes name⟩ =
      docs.hasOther ⟨name, Identity.textOf attributes name⟩ := by
  rw [Bool.eq_iff_iff]
  refine ⟨hasOther_of_save hwho, fun hother => ?_⟩
  obtain ⟨key', doc, hfind, hname, hvalue⟩ := hasOther_eq_true_iff.mp hother
  refine hasOther_eq_true_iff.mpr ⟨key', doc, ?_, hname, hvalue⟩
  have hkey : (docs.updated who key variation).storageKey ≠ key' := by
    -- the document that is replaced is not somebody else's either
    rintro rfl
    cases hname
    exact hvalue (h doc hfind)
  rw [find?_save, if_neg hkey, hfind]

/-- **Storing an assignment of the user puts it in**, unless another one under the same key goes
first, and leaves all that is stored under other keys. -/
theorem find?_assignmentsFor_save {fallback : Option String}
    (h : (Identity.named fallback).isSome → docs.TruthfulFor attributes who)
    (hwho : who.value = Identity.textOf attributes who.name) (key variation : String)
    (primary : Option String) (key' : String) :
    ((docs.save (docs.updated who key variation)).assignmentsFor primary fallback
          attributes).find? key' =
        (docs.assignmentsFor primary fallback attributes).find? key' ∨
      key = key' ∧ ((docs.save (docs.updated who key variation)).assignmentsFor primary fallback
        attributes).find? key' = some variation := by
  have hof : ∀ other, ((docs.save (docs.updated who key variation)).assignmentsOf other).find? key' =
        (docs.assignmentsOf other).find? key' ∨
      key = key' ∧
        ((docs.save (docs.updated who key variation)).assignmentsOf other).find? key' =
          some variation := by
    intro other
    rw [find?_save_updated]
    split
    · rename_i hboth
      exact Or.inr ⟨hboth.2, rfl⟩
    · exact Or.inl rfl
  unfold assignmentsFor
  cases hnamed : Identity.named fallback with
  | none => exact hof _
  | some name =>
    have htrue := h (hnamed ▸ rfl)
    simp only [Identity.resolve_some (Identity.ne_empty_of_named hnamed), htrue.hasOther_save hwho]
    split
    · exact Or.inl rfl
    · split
      · exact hof _
      · simp only [Dictionary.find?_overlay]
        rcases hof (.resolve primary none attributes) with hown | ⟨hkey, hown⟩
        · rw [hown]
          rcases hof ⟨name, Identity.textOf attributes name⟩ with hsecond | ⟨hkey, hsecond⟩
          · exact Or.inl (by rw [hsecond])
          · rw [hsecond]
            cases (docs.assignmentsOf (.resolve primary none attributes)).find? key' with
            | none => exact Or.inr ⟨hkey, rfl⟩
            | some _ => exact Or.inl rfl
        · exact Or.inr ⟨hkey, by rw [hown, Option.some_or]⟩

end StickyDocuments

/-! ### Looking up -/

namespace StickyExperiment

variable {x : StickyExperiment} {docs docs' : StickyDocuments} {attributes : Attributes}

/-- **A look-up depends on the assignments under the key of the experiment**, whatever the
version. -/
theorem lookup_congr
    (h : ∀ version,
      (docs'.assignmentsFor x.hashAttribute x.fallbackAttribute attributes).find?
          (assignmentKey x.key version) =
        (docs.assignmentsFor x.hashAttribute x.fallbackAttribute attributes).find?
          (assignmentKey x.key version)) :
    x.lookup docs' attributes = x.lookup docs attributes := by
  have hassigned : x.assignedIn?
        (docs'.assignmentsFor x.hashAttribute x.fallbackAttribute attributes) =
      x.assignedIn? (docs.assignmentsFor x.hashAttribute x.fallbackAttribute attributes) := by
    rw [assignedIn?, assignedIn?, h]
  simp only [lookup, isBlocked_congr h, hassigned]

/-- **After an assignment under the current version** the look-up finds what it found before, or
else the variation that has the key that was stored. -/
theorem lookup_cases {variation : String} (hblocked : x.lookup docs attributes ≠ .blocked)
    (hversion : ¬ (0 ≤ x.bucketVersion.getD 0 ∧
      x.bucketVersion.getD 0 < x.minBucketVersion.getD 0))
    (hafter : ∀ key,
      (docs'.assignmentsFor x.hashAttribute x.fallbackAttribute attributes).find? key =
          (docs.assignmentsFor x.hashAttribute x.fallbackAttribute attributes).find? key ∨
        assignmentKey x.key x.bucketVersion = key ∧
          (docs'.assignmentsFor x.hashAttribute x.fallbackAttribute attributes).find? key =
            some variation) :
    x.lookup docs' attributes = x.lookup docs attributes ∨
      x.lookup docs' attributes =
        ((x.variationWithKey? variation).map StickyVariation.assigned).getD .unassigned := by
  have hbefore := isBlocked_eq_false_of_lookup hblocked
  have hfree : x.isBlocked
      (docs'.assignmentsFor x.hashAttribute x.fallbackAttribute attributes) = false :=
    isBlocked_eq_false_of_find? hbefore hversion fun key hne =>
      (hafter key).resolve_right fun hown => hne hown.1
  simp only [lookup, hbefore, hfree, Bool.false_eq_true, ↓reduceIte, assignedIn?]
  rcases hafter (assignmentKey x.key x.bucketVersion) with hsame | ⟨-, hnew⟩
  · rw [hsame]
    exact Or.inl rfl
  · rw [hnew, Option.bind_some]
    right
    cases x.variationWithKey? variation <;> rfl

end StickyExperiment

namespace Setting

variable {V W : Type} {s : Setting} {docs : StickyDocuments} {who : Identity}

theorem value_identityFor (s : Setting) (e : Experiment V) :
    (s.identityFor e).value = Identity.textOf s.attributes (s.identityFor e).name :=
  Identity.value_resolve _ _ _

/-- **An assignment of another experiment makes no difference.** -/
theorem stickyVariation_save_of_ne {x : Experiment V} {z : Experiment W}
    (h : (Identity.named x.fallbackAttribute).isSome → docs.TruthfulFor s.attributes who)
    (hwho : who.value = Identity.textOf s.attributes who.name) (hkey : x.key ≠ z.key)
    (version : Option Int) (variation : String) :
    s.stickyVariation x (docs.save (docs.updated who (assignmentKey z.key version) variation)) =
      s.stickyVariation x docs := by
  unfold stickyVariation
  split
  · refine StickyExperiment.lookup_congr fun version' => ?_
    refine (StickyDocuments.find?_assignmentsFor_save h hwho _ _ _ _).resolve_right ?_
    exact fun hboth => hkey (experiment_eq_of_assignmentKey hboth.1).symm
  · rfl

end Setting
end FeatureFlags
