/-
# Documents that were loaded for a user

Documents that are loaded for a user belong to values that the user has, and never to
an empty value. Assignments that are made since go into such documents, too. So while the
attributes stay as they are, all documents at hand are those of the user
(`Session.Loaded.current`).

With such documents the fallback attribute never belongs to somebody else, and what counts
for the user is what is stored for the attribute of the experiment, or else what is
stored for the fallback attribute (`Current.find?_assignmentsFor`).

Key definitions: `StickyDocuments.Current`, `Session.Loaded`.
Key theorems: `Session.Loaded.current`, `StickyDocuments.Current.find?_assignmentsFor`.
-/
import FeatureFlags.Proofs.Documents

namespace FeatureFlags

/-! ### Identities -/

namespace Identity

theorem ne_empty_of_named {name : Option String} {text : String} (h : named name = some text) :
    text ≠ "" := by
  unfold named at h
  exact of_decide_eq_true (Option.filter_eq_some_iff.mp h).2

/-- Without a fallback the first name is the one in use. -/
theorem resolve_none (primary : Option String) (attributes : Attributes) :
    resolve primary none attributes =
      ⟨(named primary).getD defaultAttribute,
        textOf attributes ((named primary).getD defaultAttribute)⟩ := rfl

/-- A name that is given is the one in use. -/
theorem resolve_some {name : String} (h : name ≠ "") (attributes : Attributes) :
    resolve (some name) none attributes = ⟨name, textOf attributes name⟩ := by
  have hnamed : named (some name) = some name := by
    simp [named, Option.filter, h]
  rw [resolve_none, hnamed]
  rfl

theorem getD_named_ne_empty (primary : Option String) :
    (named primary).getD defaultAttribute ≠ "" := by
  cases h : named primary with
  | none => decide
  | some name => exact ne_empty_of_named h

/-- The fallback steps in only for a user without a value of the first name. -/
theorem resolve_cases (primary fallback : Option String) (attributes : Attributes) :
    resolve primary fallback attributes = resolve primary none attributes ∨
    (resolve primary none attributes).value = "" ∧ ∃ name, named fallback = some name ∧
      resolve primary fallback attributes = resolve (some name) none attributes := by
  cases hfallback : named fallback with
  | none =>
    left
    unfold resolve
    rw [hfallback]
    rfl
  | some name =>
    have hsecond := resolve_some (ne_empty_of_named hfallback) attributes
    by_cases hempty : (resolve primary none attributes).value = "" ∧ textOf attributes name ≠ ""
    · refine Or.inr ⟨hempty.1, name, rfl, ?_⟩
      rw [hsecond, resolve, hfallback]
      exact if_pos hempty
    · left
      rw [resolve, hfallback]
      exact if_neg hempty

/-- The user has the value of the name in use. -/
theorem resolve_eq_some (primary fallback : Option String) (attributes : Attributes) :
    resolve primary fallback attributes =
      resolve (some (resolve primary fallback attributes).name) none attributes := by
  have hfirst : resolve primary none attributes =
      resolve (some (resolve primary none attributes).name) none attributes := by
    rw [resolve_none, resolve_some (getD_named_ne_empty primary)]
  rcases resolve_cases primary fallback attributes with h | ⟨-, name, hname, h⟩
  · rw [h]
    exact hfirst
  · rw [h, resolve_some (ne_empty_of_named hname)]
    exact (resolve_some (ne_empty_of_named hname) attributes).symm

end Identity

/-! ### Documents of a user -/

namespace StickyDocuments

/-- All documents belong to the user. -/
structure Current (docs : StickyDocuments) (attributes : Attributes) : Prop where
  /-- None is stored for an empty value. -/
  valued : ∀ key doc, docs.find? key = some doc →
    ∃ name value, value ≠ "" ∧ key = documentKey name value
  /-- A document tells the value that the user has. -/
  own : ∀ key doc, docs.find? key = some doc → '|' ∉ doc.attributeName.toList →
    doc.attributeValue = (Identity.resolve (some doc.attributeName) none attributes).value

/-- Every document is stored under its own key. -/
def WellKept (service : StickyDocuments) : Prop :=
  ∀ key doc, service.find? key = some doc → doc.storageKey = key

theorem WellKept.save {service : StickyDocuments} (h : service.WellKept) (doc : StickyDocument) :
    (service.save doc).WellKept := by
  intro key doc' hfind
  rw [find?_save] at hfind
  split at hfind
  · rename_i hkey
    cases hfind
    exact hkey
  · exact h key doc' hfind

/-- A service that began with nothing keeps every document under its own key. -/
theorem wellKept_ofList (saved : List StickyDocument) : (ofList saved).WellKept := by
  have hempty : WellKept .empty := fun key doc hfind => by cases hfind
  unfold ofList
  generalize (Dictionary.empty : StickyDocuments) = service at hempty
  induction saved generalizing service with
  | nil => exact hempty
  | cons doc rest ih => exact ih _ (hempty.save doc)

/-- What is loaded is what the service has for a value that is asked for. -/
theorem find?_loadAll {service : StickyDocuments} {values : List (String × String)} {key : String}
    {doc : StickyDocument} (h : (service.loadAll values).find? key = some doc) :
    ∃ entry ∈ values, entry.2 ≠ "" ∧
      service.find? (documentKey entry.1 entry.2) = some doc ∧ doc.storageKey = key := by
  obtain ⟨entry, hentry, hpair⟩ := List.mem_filterMap.mp (Dictionary.mem_of_find?_ofList h)
  refine ⟨entry, hentry, ?_⟩
  split at hpair
  · cases hpair
  · rename_i hvalue
    obtain ⟨found, hfound, hkey⟩ := Option.map_eq_some_iff.mp hpair
    cases hkey
    exact ⟨hvalue, hfound, rfl⟩

/-- Loading makes copies. -/
theorem find?_of_loadAll {service : StickyDocuments} (h : service.WellKept)
    {values : List (String × String)} {key : String} {doc : StickyDocument}
    (hfind : (service.loadAll values).find? key = some doc) : service.find? key = some doc := by
  obtain ⟨entry, -, -, hservice, hkey⟩ := find?_loadAll hfind
  rw [← hkey, h _ doc hservice]
  exact hservice

/-- What is asked for is loaded, if the service has it. -/
theorem find?_loadAll_of_mem {service : StickyDocuments} (h : service.WellKept)
    {values : List (String × String)} {name value : String} (hentry : (name, value) ∈ values)
    (hvalue : value ≠ "") :
    (service.loadAll values).find? (documentKey name value) =
      service.find? (documentKey name value) := by
  cases hfind : service.find? (documentKey name value) with
  | none =>
    rw [Option.eq_none_iff_forall_ne_some]
    intro doc hloaded
    rw [find?_of_loadAll h hloaded] at hfind
    cases hfind
  | some doc =>
    have hpair : (documentKey name value, doc) ∈ values.filterMap fun entry =>
        if entry.2 = "" then none
        else (service.documentOf? entry.1 entry.2).map fun doc => (doc.storageKey, doc) := by
      refine List.mem_filterMap.mpr ⟨(name, value), hentry, ?_⟩
      rw [if_neg hvalue, documentOf?, hfind, Option.map_some, h _ doc hfind]
    have hkey := Dictionary.mem_keys_iff.mp
      (Dictionary.mem_keys_ofList.mpr (List.mem_map_of_mem hpair))
    obtain ⟨found, hfound⟩ := Option.isSome_iff_exists.mp hkey
    have hsame := (find?_of_loadAll h hfound).symm.trans hfind
    rw [← hsame]
    exact hfound

/-- **Documents that are loaded for a user belong to the user.** -/
theorem current_loadAll {service : StickyDocuments} (h : service.WellKept)
    {attributes : Attributes} {names : List String}
    (hnames : ∀ name ∈ names, (Identity.resolve (some name) none attributes).value ≠ "" →
      '|' ∉ name.toList) :
    (service.loadAll (Identity.valuesOf names attributes)).Current attributes := by
  -- a loaded document is stored under a name that was asked for, and the user's value of it
  have hloaded : ∀ key doc,
      (service.loadAll (Identity.valuesOf names attributes)).find? key = some doc →
      ∃ name ∈ names, (Identity.resolve (some name) none attributes).value ≠ "" ∧
        doc.storageKey =
          documentKey name (Identity.resolve (some name) none attributes).value ∧
        doc.storageKey = key := by
    intro key doc hfind
    obtain ⟨entry, hentry, hvalue, hservice, hkey⟩ := find?_loadAll hfind
    obtain ⟨name, hname, rfl⟩ := List.mem_map.mp hentry
    exact ⟨name, hname, hvalue, h _ doc hservice, hkey⟩
  refine ⟨fun key doc hfind => ?_, fun key doc hfind hbar => ?_⟩
  · obtain ⟨name, -, hvalue, hstorage, hkey⟩ := hloaded key doc hfind
    exact ⟨name, _, hvalue, hkey.symm.trans hstorage⟩
  · obtain ⟨name, hname, hvalue, hstorage, -⟩ := hloaded key doc hfind
    obtain ⟨hsame, hown⟩ := documentKey_inj hbar (hnames name hname hvalue) hstorage
    rw [hown, hsame]

variable {docs : StickyDocuments} {attributes : Attributes}

/-- A document of the user that is put in leaves all of them the user's. -/
theorem Current.save_updated (h : docs.Current attributes) {who : Identity}
    (hvalue : who.value ≠ "")
    (hwho : who.value = (Identity.resolve (some who.name) none attributes).value)
    (key variation : String) : (docs.save (docs.updated who key variation)).Current attributes := by
  refine ⟨fun key' doc hfind => ?_, fun key' doc hfind hbar => ?_⟩
  · rw [find?_save] at hfind
    split at hfind
    · rename_i hkey
      exact ⟨who.name, who.value, hvalue, hkey.symm⟩
    · exact h.valued key' doc hfind
  · rw [find?_save] at hfind
    split at hfind
    · cases hfind
      exact hwho
    · exact h.own key' doc hfind hbar

/-- Nothing is stored for an empty value. -/
theorem Current.assignmentsOf_empty (h : docs.Current attributes) {who : Identity}
    (hname : '|' ∉ who.name.toList) (hvalue : who.value = "") :
    docs.assignmentsOf who = .empty := by
  rw [assignmentsOf_eq]
  cases hfind : docs.find? who.storageKey with
  | none => rfl
  | some doc =>
    obtain ⟨name, value, hne, hkey⟩ := h.valued _ doc hfind
    rw [Identity.storageKey, hvalue] at hkey
    exact absurd (documentKey_value_eq_empty hname hkey) hne

/-- No document shows that the others belong to somebody else. -/
theorem Current.hasOther_eq_false (h : docs.Current attributes) {name : String} (hne : name ≠ "")
    (hname : '|' ∉ name.toList) :
    docs.hasOther (.resolve (some name) none attributes) = false := by
  rw [Identity.resolve_some hne]
  unfold hasOther
  rw [List.any_eq_false]
  intro doc hdoc hother
  obtain ⟨key, hfind⟩ := Dictionary.exists_find?_of_mem_values hdoc
  simp only [Bool.and_eq_true, beq_iff_eq, bne_iff_ne] at hother
  obtain ⟨hsame, hvalue⟩ := hother
  have hown := h.own key doc hfind (hsame ▸ hname)
  rw [hsame, Identity.resolve_some hne] at hown
  exact hvalue hown

/-- What counts is stored for the first attribute, or else for the fallback attribute. -/
theorem Current.find?_assignmentsFor (h : docs.Current attributes) (primary : Option String)
    {fallback : Option String}
    (hfallback : ∀ name, Identity.named fallback = some name → '|' ∉ name.toList) (key : String) :
    (docs.assignmentsFor primary fallback attributes).find? key =
      ((docs.assignmentsOf (.resolve primary none attributes)).find? key).or
        ((Identity.named fallback).bind fun name =>
          (docs.assignmentsOf (.resolve (some name) none attributes)).find? key) := by
  unfold assignmentsFor
  cases hnamed : Identity.named fallback with
  | none => simp
  | some name =>
    have hne := Identity.ne_empty_of_named hnamed
    have hname := hfallback name hnamed
    simp only [h.hasOther_eq_false hne hname, Bool.false_eq_true, ↓reduceIte, Option.bind_some]
    split
    · rename_i hvalue
      rw [h.assignmentsOf_empty (by rwa [Identity.resolve_some hne]) hvalue]
      simp
    · exact Dictionary.find?_overlay _ _ key

/-- Documents stay the user's if the user is assigned. -/
theorem Current.assign {p : Progress} (h : p.documents.Current attributes)
    {primary fallback : Option String}
    (hvalue : (Identity.resolve primary fallback attributes).value ≠ "") (key variation : String) :
    (Eval.assign (.resolve primary fallback attributes) key variation p).2.documents.Current
      attributes := by
  by_cases hknown : (p.documents.assignmentsOf (.resolve primary fallback attributes)).find? key =
      some variation
  · rw [Eval.assign_of_known hknown]
    exact h
  · rw [Eval.assign_of_new hknown]
    have hwho := congrArg Identity.value (Identity.resolve_eq_some primary fallback attributes)
    exact h.save_updated hvalue hwho key variation

/-- **An assignment that is kept counts afterwards, and all the others count as before.** -/
theorem Current.find?_assignmentsFor_assign {p : Progress} (h : p.documents.Current attributes)
    {primary fallback : Option String}
    (hprimary : '|' ∉ ((Identity.named primary).getD Identity.defaultAttribute).toList)
    (hfallback : ∀ name, Identity.named fallback = some name → '|' ∉ name.toList)
    (hvalue : (Identity.resolve primary fallback attributes).value ≠ "")
    (key variation key' : String) :
    ((Eval.assign (.resolve primary fallback attributes) key variation p).2.documents.assignmentsFor
        primary fallback attributes).find? key' =
      if key = key' then some variation
      else (p.documents.assignmentsFor primary fallback attributes).find? key' := by
  have hafter := h.assign hvalue key variation
  rw [hafter.find?_assignmentsFor primary hfallback, h.find?_assignmentsFor primary hfallback]
  by_cases hkey : key = key'
  · subst hkey
    rw [if_pos rfl]
    rcases Identity.resolve_cases primary fallback attributes with hown | ⟨hempty, name, hname, hown⟩
    · rw [Eval.find?_assign (.resolve primary none attributes), hown, if_pos ⟨rfl, rfl⟩]
      rfl
    · -- the user has no value of the first attribute, so nothing is stored for it
      rw [hafter.assignmentsOf_empty hprimary hempty, hname]
      simp only [Dictionary.find?_empty, Option.none_or, Option.bind_some]
      rw [Eval.find?_assign (.resolve (some name) none attributes), hown, if_pos ⟨rfl, rfl⟩]
  · simp only [Eval.find?_assign, hkey, and_false, ↓reduceIte]

end StickyDocuments

/-! ### From loading on -/

namespace Setting

variable {s : Setting} {runs : Experiment → Prop} {p q : Progress}

/-- Documents stay the user's in every step. -/
theorem Step.current (h : s.Step runs p q) (hp : p.documents.Current s.attributes) :
    q.documents.Current s.attributes := by
  rcases h.documents_cases with ⟨hdocs, -⟩ | ⟨who, key, variation, hassigns, -, hdocs, -⟩
  · rw [hdocs]
    exact hp
  · rw [hdocs]
    cases hassigns with
    | @place e _ _ _ _ _ _ _ hearly _ =>
      obtain ⟨-, -, -, -, -, hvalue, -⟩ := early?_eq_none_iff.mp hearly
      exact hp.save_updated hvalue (congrArg Identity.value (Identity.resolve_eq_some _ _ _)) _ _

end Setting

namespace Session

theorem profile_refresh (s : Session) : s.refresh.profile = s.profile := by
  unfold refresh
  split <;> rfl

theorem current_refresh (s : Session) : s.refresh.current = s.current := by
  unfold refresh
  split <;> rfl

theorem documents_refresh {s : Session} (h : s.options.sticky = true) : s.refresh.documents =
    s.service.loadAll (Identity.valuesOf s.current.identifiers s.profile.attributes) := by
  rw [refresh, if_pos h]

/-- **A refresh leaves the user with documents of the user.** -/
theorem own_refresh {s : Session} (hservice : s.service.WellKept)
    (hsticky : s.options.sticky = true)
    (hnames : ∀ name ∈ s.current.identifiers,
      (Identity.resolve (some name) none s.profile.attributes).value ≠ "" → '|' ∉ name.toList) :
    s.refresh.documents.Current s.profile.attributes := by
  rw [documents_refresh hsticky]
  exact StickyDocuments.current_loadAll hservice hnames

/-- The documents that a user can have after they were loaded: those of a refresh, and those
after further evaluations. The attributes stay as they are; anything else may have changed in
between. -/
inductive Loaded (attributes : Attributes) : StickyDocuments → Prop where
  | refresh {s : Session} (saved : List StickyDocument) (hservice : s.service = .ofList saved)
    (hsticky : s.options.sticky = true) (hattributes : s.profile.attributes = attributes)
    (hnames : ∀ name ∈ s.current.identifiers, '|' ∉ name.toList) :
    Loaded attributes s.refresh.documents
  | evaluate {s : Session} (feature : String) (kind : Option ValueKind)
    (hattributes : s.profile.attributes = attributes) (hloaded : Loaded attributes s.documents) :
    Loaded attributes (s.evaluate feature kind).next.documents
  | run {s : Session} (e : Experiment)
    (hattributes : s.profile.attributes = attributes) (hloaded : Loaded attributes s.documents) :
    Loaded attributes (s.run e).next.documents

/-- **Documents that were loaded for a user belong to the user.** -/
theorem Loaded.current {attributes : Attributes} {docs : StickyDocuments}
    (h : Loaded attributes docs) : docs.Current attributes := by
  induction h with
  | @refresh s saved hservice hsticky hattributes hnames =>
    have hkept : s.service.WellKept := hservice ▸ StickyDocuments.wellKept_ofList saved
    exact hattributes ▸ own_refresh hkept hsticky fun name hname _ => hnames name hname
  | @evaluate s feature kind hattributes _ ih =>
    subst hattributes
    exact (Setting.moves_evaluateFeature (s := s.setting) feature kind).preserves
      (fun _ _ hstep hp => hstep.current hp) (p := ⟨s.documents, s.tracker, []⟩) ih
  | @run s e hattributes _ ih =>
    subst hattributes
    exact (Setting.moves_runExperiment (s := s.setting) e).preserves
      (fun _ _ hstep hp => hstep.current hp) (p := ⟨s.documents, s.tracker, []⟩) ih

end Session
end FeatureFlags
