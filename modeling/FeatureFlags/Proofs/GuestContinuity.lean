/-
# From guest to member

A guest has no value for the attribute that an experiment places users by, and is placed by the
fallback attribute. If the guest becomes a member, the first attribute has a value, for which
nothing is stored yet. What is stored for the fallback attribute still counts, so the member
keeps the variation, and it is stored for the new value, too. From then on the member keeps it
whatever becomes of the fallback attribute (`Lone.guest_continues`).

Three things must fit together. The change of the attributes loads the documents of the new
values; what the guest was given is in the service as it was at hand, because the service is the
user's own; and in what counts for the member nothing stands in the way.

Key definitions: `StickyDocuments.counting`, `Session.Welcomes`, `Session.visits`.
Key theorems: `Session.Welcomes.assignmentsFor_setAttributes`, `Session.Welcomes.visits_member`,
`Session.Lone.guest_continues`.
-/
import FeatureFlags.Proofs.Coherence
import FeatureFlags.Proofs.Refresh
import FeatureFlags.Proofs.SingleRule

namespace FeatureFlags

/-- What is stored for a value; for an empty one it does not count. -/
def StickyDocuments.storedAt (docs : StickyDocuments) (who : Identity) : Assignments :=
  if who.value = "" then .empty else docs.assignmentsOf who

theorem StickyDocuments.storedAt_of_documentOf? {docs : StickyDocuments} {name value : String}
    {doc : Option StickyDocument} (hvalue : value ≠ "") (h : docs.documentOf? name value = doc) :
    docs.storedAt ⟨name, value⟩ = (doc.map StickyDocument.assignments).getD .empty := by
  rw [storedAt, if_neg hvalue, assignmentsOf_eq, ← h]
  rfl

/-- What counts for a user: what is stored for the first of two attributes, over what is stored for
the second one. -/
def StickyDocuments.counting (docs : StickyDocuments) (hash fallback : String)
    (attributes : Attributes) : Assignments :=
  (docs.storedAt ⟨fallback, Identity.textOf attributes fallback⟩).overlay
    (docs.storedAt ⟨hash, Identity.textOf attributes hash⟩)

/-- The result for somebody else who has the same variation stored. -/
def ExperimentResult.memberOf (result : ExperimentResult) (e : Experiment) (who : Identity) :
    ExperimentResult :=
  { result with
    hashAttribute := who.name
    hashValue := who.value
    bucket := e.bucketOf? who.value
    stickyUsed := true }

/-- Who has the same variation stored has the same result, but for what tells who it is. -/
theorem Setting.resultOf_assigned_eq_memberOf {s s' : Setting} {e : Experiment} {who : Identity}
    {bucket' : Float} (hwho : s'.identityFor e = who)
    (hbucket : e.bucketOf? who.value = some bucket') (feature : Option String) (n : Nat)
    (bucket : Float) (stored : Bool) :
    s'.resultOf e feature (.assigned n bucket' true) =
      (s.resultOf e feature (.assigned n bucket stored)).memberOf e who := by
  simp only [resultOf, ExperimentResult.memberOf, hwho, hbucket]

namespace Session

variable {s : Session} {feature hash fallback : String} {rule : FeatureRule} {e : Experiment}
  {attributes : Attributes}

/-! ### A change of the attributes -/

theorem setting_setAttributes (s : Session) (attributes : Attributes) :
    (s.setAttributes attributes).setting =
      { s.setting with profile := { s.profile with attributes } } := by
  simp only [setting, setAttributes, current_refresh, options_refresh, profile_refresh]
  rfl

theorem service_setAttributes (s : Session) (attributes : Attributes) :
    (s.setAttributes attributes).service = s.service :=
  service_refresh _

theorem current_setAttributes (s : Session) (attributes : Attributes) :
    (s.setAttributes attributes).current = s.current :=
  current_refresh _

theorem attributes_setAttributes (s : Session) (attributes : Attributes) :
    (s.setAttributes attributes).profile.attributes = attributes := by
  rw [setAttributes, profile_refresh]
  rfl

/-- A feature is served under other attributes as well. -/
theorem Serves.setAttributes (h : s.Serves feature rule e) (attributes : Attributes) :
    (s.setAttributes attributes).Serves feature rule e where
  definition := by
    rw [current_setAttributes]
    exact h.definition
  onlyRuns := h.onlyRuns
  lasting := h.lasting
  passthrough := h.passthrough
  hashVersion := h.hashVersion
  undisturbed := by
    rw [setting_setAttributes]
    exact ⟨h.undisturbed.sticky, h.undisturbed.enabled, h.undisturbed.qaMode, h.undisturbed.url,
      h.undisturbed.forced⟩
  override := by
    rw [setting_setAttributes]
    exact h.override

/-- And after an evaluation. -/
theorem Serves.evaluate (h : s.Serves feature rule e) (other : String) (kind : Option ValueKind) :
    (s.evaluate other kind).next.Serves feature rule e :=
  ⟨h.definition, h.onlyRuns, h.lasting, h.passthrough, h.hashVersion, h.undisturbed, h.override⟩

/-! ### An experiment for guests and members -/

/-- The session has one feature, with one experiment for members by the attribute `hash` and for
guests by the attribute `fallback`. -/
structure Welcomes (s : Session) (feature : String) (rule : FeatureRule) (e : Experiment)
    (hash fallback : String) : Prop extends s.Serves feature rule e where
  only : ∀ other, (s.current.features.find? other).isSome → other = feature
  hash_eq : rule.hashAttribute = some hash
  fallback_eq : rule.fallbackAttribute = some fallback
  hash_ne : hash ≠ ""
  fallback_ne : fallback ≠ ""
  distinct : hash ≠ fallback

namespace Welcomes

variable (h : s.Welcomes feature rule e hash fallback)

include h

theorem setAttributes (attributes : Attributes) :
    (s.setAttributes attributes).Welcomes feature rule e hash fallback where
  toServes := h.toServes.setAttributes attributes
  only := by
    rw [current_setAttributes]
    exact h.only
  hash_eq := h.hash_eq
  fallback_eq := h.fallback_eq
  hash_ne := h.hash_ne
  fallback_ne := h.fallback_ne
  distinct := h.distinct

theorem evaluate (other : String) (kind : Option ValueKind) :
    (s.evaluate other kind).next.Welcomes feature rule e hash fallback where
  toServes := h.toServes.evaluate other kind
  only := h.only
  hash_eq := h.hash_eq
  fallback_eq := h.fallback_eq
  hash_ne := h.hash_ne
  fallback_ne := h.fallback_ne
  distinct := h.distinct

theorem attributes_eq : e.hashAttribute = some hash ∧ e.fallbackAttribute = some fallback := by
  obtain ⟨-, hhash, hfallback⟩ := FeatureRule.attributes_of_experiment? h.onlyRuns.experiment
  exact ⟨hhash.trans h.hash_eq, hfallback.trans h.fallback_eq⟩

theorem named_eq : Identity.named e.hashAttribute = some hash ∧
    Identity.named e.fallbackAttribute = some fallback := by
  rw [h.attributes_eq.1, h.attributes_eq.2]
  simp [Identity.named, h.hash_ne, h.fallback_ne]

theorem bar_notMem : '|' ∉ hash.toList ∧ '|' ∉ fallback.toList := by
  have hname := h.lasting.hashName
  rw [h.named_eq.1, Option.getD_some] at hname
  exact ⟨hname, h.lasting.fallbackName fallback h.named_eq.2⟩

/-- A refresh asks for the two attributes, and for nothing else. -/
theorem mem_identifiers {name : String} :
    name ∈ s.current.identifiers ↔ name = hash ∨ name = fallback := by
  obtain ⟨defaultValue, hdefinition⟩ := h.definition
  have hidentifiers : rule.identifiers = [hash, fallback] := by
    obtain ⟨hvariations, -, -⟩ := FeatureRule.attributes_of_experiment? h.onlyRuns.experiment
    rw [FeatureRule.identifiers, if_pos hvariations, h.hash_eq, h.fallback_eq]
    rfl
  constructor
  · intro hname
    obtain ⟨declared, hdeclared, other, hother, hname⟩ := Features.mem_identifiers.mp hname
    obtain ⟨key, hkey⟩ := Dictionary.exists_find?_of_mem_values hdeclared
    obtain rfl := h.only key (Option.isSome_of_eq_some hkey)
    rw [Configuration.feature?, hkey, Option.bind_some] at hdefinition
    rw [hdefinition] at hother
    obtain rfl := List.mem_singleton.mp hother
    rw [hidentifiers] at hname
    simpa using hname
  · intro hname
    refine Configuration.mem_identifiers hdefinition List.mem_cons_self ?_
    rw [hidentifiers]
    simpa using hname

theorem identifiers_plain : ∀ name ∈ s.current.identifiers, '|' ∉ name.toList := by
  intro name hname
  rcases h.mem_identifiers.mp hname with rfl | rfl
  · exact h.bar_notMem.1
  · exact h.bar_notMem.2

/-- A member is known by the first attribute, a guest by the fallback attribute. -/
theorem identityFor_member (hmember : Identity.textOf s.profile.attributes hash ≠ "") :
    s.setting.identityFor e = ⟨hash, Identity.textOf s.profile.attributes hash⟩ := by
  rw [Setting.identityFor_of_sticks h.sticks, h.attributes_eq.1]
  have hown := Identity.resolve_some h.hash_ne s.profile.attributes
  rcases Identity.resolve_cases (some hash) e.fallbackAttribute s.profile.attributes with
    hfirst | ⟨hempty, -⟩
  · exact hfirst.trans hown
  · rw [hown] at hempty
    exact absurd hempty hmember

theorem identityFor_guest (hguest : Identity.textOf s.profile.attributes hash = "")
    (hvalue : (s.setting.identityFor e).value ≠ "") :
    s.setting.identityFor e = ⟨fallback, Identity.textOf s.profile.attributes fallback⟩ := by
  rw [Setting.identityFor_of_sticks h.sticks, h.attributes_eq.1] at hvalue ⊢
  have hown := Identity.resolve_some h.hash_ne s.profile.attributes
  rcases Identity.resolve_cases (some hash) e.fallbackAttribute s.profile.attributes with
    hfirst | ⟨-, name, hname, hsecond⟩
  · have hempty := congrArg Identity.value (hfirst.trans hown)
    exact absurd (hempty.trans hguest) hvalue
  · rw [h.named_eq.2] at hname
    cases hname
    exact hsecond.trans (Identity.resolve_some h.fallback_ne _)

/-- What counts is stored for the first attribute, or else for the fallback attribute. -/
theorem find?_assignmentsFor {docs : StickyDocuments} (hdocs : docs.Current attributes)
    (key : String) :
    (docs.assignmentsFor e.hashAttribute e.fallbackAttribute attributes).find? key =
      ((docs.assignmentsOf ⟨hash, Identity.textOf attributes hash⟩).find? key).or
        ((docs.assignmentsOf ⟨fallback, Identity.textOf attributes fallback⟩).find? key) := by
  rw [hdocs.find?_assignmentsFor e.hashAttribute h.lasting.fallbackName, h.named_eq.2,
    Option.bind_some, Identity.resolve_none, h.named_eq.1, Option.getD_some,
    Identity.resolve_some h.fallback_ne]

/-- With new attributes the documents at hand are those of the user. -/
theorem own_setAttributes (hservice : s.service.WellKept) (attributes : Attributes) :
    (s.setAttributes attributes).documents.Current attributes :=
  own_refresh (s := s.updateProfile ({ · with attributes })) hservice h.undisturbed.sticky
    fun other hother _ => h.identifiers_plain other hother

/-- With new attributes the user has what the service has for their values. -/
theorem assignmentsOf_setAttributes (hservice : s.service.WellKept) (attributes : Attributes)
    {name : String} (hname : name = hash ∨ name = fallback) :
    (s.setAttributes attributes).documents.assignmentsOf
        ⟨name, Identity.textOf attributes name⟩ =
      s.service.storedAt ⟨name, Identity.textOf attributes name⟩ := by
  have hne : name ≠ "" := by
    rcases hname with rfl | rfl
    · exact h.hash_ne
    · exact h.fallback_ne
  have hlisted := h.mem_identifiers.mpr hname
  unfold StickyDocuments.storedAt
  split
  · rename_i hempty
    exact (h.own_setAttributes hservice attributes).assignmentsOf_empty
      (h.identifiers_plain name hlisted) hempty
  · rename_i hvalue
    have hloaded := assignmentsOf_refresh_of_value (s := s.updateProfile ({ · with attributes }))
      h.undisturbed.sticky hservice hne hlisted
    rw [Identity.resolve_some hne] at hloaded
    exact hloaded hvalue

/-- **What counts with new attributes** is what the service has for their values. -/
theorem assignmentsFor_setAttributes (hservice : s.service.WellKept) (attributes : Attributes) :
    (s.setAttributes attributes).documents.assignmentsFor e.hashAttribute e.fallbackAttribute
        attributes = s.service.counting hash fallback attributes := by
  refine Dictionary.ext_find? fun key => ?_
  rw [h.find?_assignmentsFor (h.own_setAttributes hservice attributes), StickyDocuments.counting,
    Dictionary.find?_overlay, h.assignmentsOf_setAttributes hservice attributes (Or.inl rfl),
    h.assignmentsOf_setAttributes hservice attributes (Or.inr rfl)]

/-- **A member keeps the variation that counts.** What is handed over is the assignment for the
value of the first attribute, if it is not there. -/
theorem evaluate_member (hservice : s.service.WellKept) (hcount : 2 ≤ e.variations.length)
    {who : Identity} (hwho : who = ⟨hash, Identity.textOf attributes hash⟩)
    (hvalue : who.value ≠ "" ∧ who.value ≠ "null") {n : Nat} (hn : n < e.variations.length)
    (hfree : e.sticky.isBlocked (s.service.counting hash fallback attributes) = false)
    (hassigned : e.sticky.assignedIn? (s.service.counting hash fallback attributes) = some n) :
    let visit := (s.setAttributes attributes).evaluate feature none
    let key := assignmentKey e.key e.bucketVersion
    (∀ (base : Setting) (bucket : Float) (stored : Bool),
      let result := base.resultOf e (some feature) (.assigned n bucket stored)
      visit.answer = .experiment (result.value.getD .null) rule.id e (result.memberOf e who)) ∧
    ((s.service.storedAt who).find? key = some (e.variationKey n) → visit.handed = []) ∧
    ((s.service.storedAt who).find? key ≠ some (e.variationKey n) →
      visit.handed =
        [⟨who.name, who.value, (s.service.storedAt who).insert key (e.variationKey n)⟩]) := by
  have hmember := h.setAttributes attributes
  have hattributes := attributes_setAttributes s attributes
  have hidentity : (s.setAttributes attributes).setting.identityFor e = who := by
    rw [hwho] at hvalue ⊢
    rw [hmember.identityFor_member (by rw [hattributes]; exact hvalue.1), hattributes]
  have hlookup : e.sticky.lookup (s.setAttributes attributes).documents
      (s.setAttributes attributes).profile.attributes = .assigned n := by
    rw [StickyExperiment.lookup_eq_assigned_iff, hattributes]
    rw [← h.assignmentsFor_setAttributes hservice attributes] at hfree hassigned
    exact ⟨hfree, hassigned⟩
  obtain ⟨bucket, hbucket, hanswer, hhanded, -⟩ :=
    hmember.evaluate_of_lookup hcount (by rw [hidentity]; exact hvalue) hlookup hn
  have hstored : (s.setAttributes attributes).documents.assignmentsOf who =
      s.service.storedAt who := by
    rw [hwho]
    exact h.assignmentsOf_setAttributes hservice attributes (Or.inl rfl)
  rw [hidentity] at hbucket hhanded
  refine ⟨fun base before stored => ?_, fun hknown => ?_, fun hnew => ?_⟩
  · rw [hanswer, Setting.resultOf_assigned_eq_memberOf (s := base) hidentity hbucket (some feature)
      n before stored]
    rfl
  · rw [← hstored] at hknown
    rw [hhanded, Eval.assign_of_known hknown]
    rfl
  · rw [← hstored] at hnew ⊢
    rw [hhanded, Eval.assign_of_new hnew]
    rfl

end Welcomes

/-! ### The whole way -/

theorem service_evaluate (s : Session) (feature : String) (kind : Option ValueKind) :
    (s.evaluate feature kind).next.service =
      (s.evaluate feature kind).handed.foldl StickyDocuments.save s.service := rfl

theorem Lone.evaluate (h : s.Lone) (feature : String) (kind : Option ValueKind) :
    (s.evaluate feature kind).next.Lone :=
  h.call (.command (.evaluate feature kind))

/-- A copy that is there is the document of the service. -/
theorem Lone.assignmentsOf_eq (h : s.Lone) {who : Identity} {key variation : String}
    (hfind : (s.documents.assignmentsOf who).find? key = some variation) :
    s.documents.assignmentsOf who = s.service.assignmentsOf who := by
  rw [StickyDocuments.assignmentsOf_eq] at hfind ⊢
  rw [StickyDocuments.assignmentsOf_eq]
  cases hdoc : s.documents.find? who.storageKey with
  | none =>
    rw [hdoc] at hfind
    cases hfind
  | some doc => rw [h.coherent.same _ doc hdoc]

/-- A guest who is served by the experiment has the variation stored for the fallback attribute, and
nothing stored for it keeps the user out. -/
theorem Lone.guest_stores (hlone : s.Lone) (h : s.Welcomes feature rule e hash fallback)
    (hguest : Identity.textOf s.profile.attributes hash = "")
    (hsource : (s.evaluate feature none).answer.source = .experiment) :
    ∃ n bucket stored,
      let result := s.setting.resultOf e (some feature) (.assigned n bucket stored)
      let kept := (s.evaluate feature none).next.service.storedAt
        ⟨fallback, Identity.textOf s.profile.attributes fallback⟩
      (s.evaluate feature none).answer = .experiment (result.value.getD .null) rule.id e result ∧
        n < e.variations.length ∧ 2 ≤ e.variations.length ∧
        e.sticky.isBlocked kept = false ∧ e.sticky.assignedIn? kept = some n := by
  obtain ⟨n, bucket, stored, hd, hn⟩ := h.exists_assigned hsource
  obtain ⟨hanswer, -, hdocuments⟩ := h.evaluate_of_assigned hd hn
  obtain ⟨hearly, -, -⟩ := Setting.decision_eq_assigned hd
  obtain ⟨hcount, -, -, -, -, hvalue, -⟩ := Setting.early?_eq_none_iff.mp hearly
  have hwho := h.identityFor_guest hguest hvalue
  obtain ⟨hkept, hlookup⟩ := Setting.lookup_assign (s := s.setting)
    (p := ⟨s.documents, s.tracker, []⟩) (hlone.current h.undisturbed.sticky h.identifiers_plain)
    h.lasting h.sticks hd hn
  rw [← hdocuments, hwho] at hkept
  rw [← hdocuments, StickyExperiment.lookup_eq_assigned_iff] at hlookup
  -- the documents at hand are the user's, and those of the service
  have hnext := hlone.evaluate feature none
  have hcurrent : (s.evaluate feature none).next.documents.Current s.profile.attributes :=
    hnext.current h.undisturbed.sticky h.identifiers_plain
  have hcounts : (s.evaluate feature none).next.documents.assignmentsFor e.hashAttribute
      e.fallbackAttribute s.profile.attributes = (s.evaluate feature none).next.service.storedAt
        ⟨fallback, Identity.textOf s.profile.attributes fallback⟩ := by
    rw [hwho] at hvalue
    rw [StickyDocuments.storedAt, if_neg hvalue, ← hnext.assignmentsOf_eq hkept]
    refine Dictionary.ext_find? fun key => ?_
    rw [h.find?_assignmentsFor hcurrent, hcurrent.assignmentsOf_empty h.bar_notMem.1 hguest,
      Dictionary.find?_empty, Option.none_or]
  have hboth : e.sticky.isBlocked ((s.evaluate feature none).next.documents.assignmentsFor
        e.hashAttribute e.fallbackAttribute s.profile.attributes) = false ∧
      e.sticky.assignedIn? ((s.evaluate feature none).next.documents.assignmentsFor
        e.hashAttribute e.fallbackAttribute s.profile.attributes) = some n := hlookup
  rw [hcounts] at hboth
  exact ⟨n, bucket, stored, hanswer, hn, hcount, hboth⟩

/-- A new member is given what is stored for the fallback attribute, and it is stored for the
member. -/
theorem Welcomes.joins (h : s.Welcomes feature rule e hash fallback)
    (hservice : s.service.WellKept) (hcount : 2 ≤ e.variations.length) {member : Attributes}
    {value : String} (hhash : Identity.textOf member hash = value)
    (hvalue : value ≠ "" ∧ value ≠ "null") (hnew : s.service.documentOf? hash value = none)
    {n : Nat} (hn : n < e.variations.length)
    (hfree : e.sticky.isBlocked
      (s.service.storedAt ⟨fallback, Identity.textOf member fallback⟩) = false)
    (hassigned : e.sticky.assignedIn?
      (s.service.storedAt ⟨fallback, Identity.textOf member fallback⟩) = some n) :
    let visit := (s.setAttributes member).evaluate feature none
    let doc : StickyDocument := ⟨hash, value,
      Dictionary.empty.insert (assignmentKey e.key e.bucketVersion) (e.variationKey n)⟩
    (∀ (base : Setting) (bucket : Float) (stored : Bool),
      let result := base.resultOf e (some feature) (.assigned n bucket stored)
      visit.answer =
        .experiment (result.value.getD .null) rule.id e (result.memberOf e ⟨hash, value⟩)) ∧
    visit.handed = [doc] ∧ visit.next.service.documentOf? hash value = some doc := by
  intro visit doc
  have hwho : (⟨hash, value⟩ : Identity) = ⟨hash, Identity.textOf member hash⟩ := by rw [hhash]
  have hnothing : s.service.storedAt ⟨hash, value⟩ = .empty :=
    StickyDocuments.storedAt_of_documentOf? hvalue.1 hnew
  -- so what is stored for the fallback attribute is all that counts
  have hcounts : s.service.counting hash fallback member =
      s.service.storedAt ⟨fallback, Identity.textOf member fallback⟩ := by
    refine Dictionary.ext_find? fun key => ?_
    rw [StickyDocuments.counting, ← hwho, hnothing, Dictionary.find?_overlay,
      Dictionary.find?_empty, Option.none_or]
  rw [← hcounts] at hfree hassigned
  obtain ⟨hanswer, -, hhanded⟩ :=
    h.evaluate_member hservice hcount hwho hvalue hn hfree hassigned
  rw [hnothing] at hhanded
  have hdoc : visit.handed = [doc] := hhanded nofun
  refine ⟨hanswer, hdoc, ?_⟩
  rw [service_evaluate, hdoc, List.foldl_cons, List.foldl_nil, service_setAttributes,
    StickyDocuments.documentOf?, StickyDocuments.find?_save]
  exact if_pos rfl

/-- A user comes back again and again, each time with other attributes, and asks for a feature. -/
def visits (s : Session) (feature : String) : List Attributes → List (Outcome FeatureResult)
  | [] => []
  | attributes :: rest =>
    let visit := (s.setAttributes attributes).evaluate feature none
    visit :: visit.next.visits feature rest

/-- A member whose variation is stored for the first attribute, and nothing else, keeps it on every
visit, and nothing more is stored. -/
theorem Welcomes.visits_member (h : s.Welcomes feature rule e hash fallback)
    (hservice : s.service.WellKept) (hcount : 2 ≤ e.variations.length) {who : Identity}
    (hname : who.name = hash) (hvalue : who.value ≠ "" ∧ who.value ≠ "null") {n : Nat}
    (hn : n < e.variations.length)
    (hstored : s.service.storedAt who =
      Dictionary.empty.insert (assignmentKey e.key e.bucketVersion) (e.variationKey n))
    {others : List Attributes}
    (hothers : ∀ other ∈ others, Identity.textOf other hash = who.value ∧
      e.sticky.isBlocked
        (s.service.storedAt ⟨fallback, Identity.textOf other fallback⟩) = false) :
    ∀ visit ∈ s.visits feature others, visit.handed = [] ∧
      ∀ (base : Setting) (bucket : Float) (stored : Bool),
        let result := base.resultOf e (some feature) (.assigned n bucket stored)
        visit.answer =
          .experiment (result.value.getD .null) rule.id e (result.memberOf e who) := by
  induction others generalizing s with
  | nil => exact fun visit hvisit => nomatch hvisit
  | cons other rest ih =>
    obtain ⟨htext, hblocked⟩ := hothers other List.mem_cons_self
    have hwho : who = ⟨hash, Identity.textOf other hash⟩ := by rw [htext, ← hname]
    -- what is stored for the member counts, and what is stored for the fallback attribute
    have hcounts : ∀ key, (s.service.counting hash fallback other).find? key =
        if assignmentKey e.key e.bucketVersion = key then some (e.variationKey n)
        else (s.service.storedAt ⟨fallback, Identity.textOf other fallback⟩).find? key := by
      intro key
      rw [StickyDocuments.counting, ← hwho, hstored, Dictionary.find?_overlay,
        Dictionary.find?_insert]
      split <;> rfl
    obtain ⟨hfree, hassigned⟩ := StickyExperiment.assigned_of_stored hblocked h.lasting.version
      hcounts (h.lasting.variationWithKey?_variationKey hn)
    obtain ⟨hanswer, hknown, -⟩ := h.evaluate_member hservice hcount hwho hvalue hn hfree hassigned
    have hhanded := hknown (by rw [hstored, Dictionary.find?_insert, if_pos rfl])
    -- so the service stays as it is
    have hkept : ((s.setAttributes other).evaluate feature none).next.service = s.service := by
      rw [service_evaluate, hhanded, List.foldl_nil, service_setAttributes]
    intro visit hvisit
    rcases List.mem_cons.mp hvisit with rfl | hlater
    · exact ⟨hhanded, hanswer⟩
    · refine ih ((h.setAttributes other).evaluate feature none) (by rwa [hkept]) (by rwa [hkept])
        (fun later hmem => ?_) visit hlater
      rw [hkept]
      exact hothers later (List.mem_cons_of_mem other hmem)

/-- **A guest who becomes a member keeps the variation.** It is stored for the member, too, and then
the member keeps it on every visit, whatever the fallback attribute is, unless what is stored
for that keeps the member out. -/
theorem Lone.guest_continues (hlone : s.Lone) (h : s.Welcomes feature rule e hash fallback)
    (hguest : Identity.textOf s.profile.attributes hash = "")
    (hsource : (s.evaluate feature none).answer.source = .experiment)
    {member : Attributes} {value : String}
    (hfallback : Identity.textOf member fallback = Identity.textOf s.profile.attributes fallback)
    (hhash : Identity.textOf member hash = value) (hvalue : value ≠ "" ∧ value ≠ "null")
    (hnew : (s.evaluate feature none).next.service.documentOf? hash value = none) :
    let first := s.evaluate feature none
    let second := (first.next.setAttributes member).evaluate feature none
    ∃ served result,
      let kept := FeatureResult.experiment served rule.id e (result.memberOf e ⟨hash, value⟩)
      let doc : StickyDocument := ⟨hash, value,
        Dictionary.empty.insert (assignmentKey e.key e.bucketVersion) result.key⟩
      first.answer = .experiment served rule.id e result ∧
        second.answer = kept ∧
        second.handed = [doc] ∧
        second.next.service.documentOf? hash value = some doc ∧
        ∀ others : List Attributes,
          (∀ other ∈ others, Identity.textOf other hash = value ∧
            e.sticky.isBlocked (second.next.service.storedAt
              ⟨fallback, Identity.textOf other fallback⟩) = false) →
          ∀ visit ∈ second.next.visits feature others, visit.answer = kept ∧ visit.handed = [] := by
  intro first second
  obtain ⟨n, bucket, stored, hanswer, hn, hcount, hfree, hassigned⟩ :=
    hlone.guest_stores h hguest hsource
  have hfirst : first.next.Lone := hlone.evaluate feature none
  have hwelcomes : first.next.Welcomes feature rule e hash fallback := h.evaluate feature none
  rw [← hfallback] at hfree hassigned
  obtain ⟨hserved, hsecond, hstored⟩ :=
    hwelcomes.joins hfirst.wellKept hcount hhash hvalue hnew hn hfree hassigned
  -- from now on only what is stored for the member matters
  have hlater : second.next.Lone := (hfirst.call (.setAttributes member)).evaluate feature none
  have hown := StickyDocuments.storedAt_of_documentOf? hvalue.1 hstored
  have hkey : (s.setting.resultOf e (some feature) (.assigned n bucket stored)).key =
      e.variationKey n := Setting.key_resultOf_assigned hn
  refine ⟨_, s.setting.resultOf e (some feature) (.assigned n bucket stored), hanswer,
    hserved s.setting bucket stored, ?_, ?_, fun others hothers visit hvisit => ?_⟩
  · rw [hkey]
    exact hsecond
  · rw [hkey]
    exact hstored
  · have hvisits := ((hwelcomes.setAttributes member).evaluate feature none).visits_member
      hlater.wellKept hcount rfl hvalue hn hown hothers
    obtain ⟨hnone, hsame⟩ := hvisits visit hvisit
    exact ⟨hsame s.setting bucket stored, hnone⟩

/-- A rule for members by their `id`, and for guests by their device. -/
def entrance : FeatureRule :=
  { FeatureRule.idle with
    variations := some [.str "a", .str "b"]
    hashAttribute := some "id"
    fallbackAttribute := some "device"
    infos := some [⟨some "x", none, none⟩, ⟨some "y", none, none⟩]
    bucketVersion := some 1
    minBucketVersion := some 1 }

/-- Its experiment. -/
def entered : Experiment := { welcome with hashAttribute := some "id" }

/-- A guest who uses the device `d1`. -/
def newcomer : Session :=
  Session.refresh ⟨some ⟨.ofList [("welcome", .feature ⟨.null, [entrance]⟩)], []⟩, .empty,
    { sticky := true }, .ofCapacity Tracker.defaultCapacity,
    { attributes := [("device", .str "d1")] }, .empty⟩

theorem newcomer_welcomes : newcomer.Welcomes "welcome" entrance entered "id" "device" where
  definition := ⟨.null, rfl⟩
  onlyRuns := ⟨rfl, rfl, rfl, rfl⟩
  lasting := by
    refine ⟨rfl, rfl, ⟨["x", "y"], rfl, by decide, rfl⟩, by decide, by decide, fun name h => ?_⟩
    cases h
    decide
  passthrough := by decide
  hashVersion := Or.inl rfl
  undisturbed := ⟨rfl, rfl, rfl, rfl, rfl⟩
  override := rfl
  only other hother := by
    have hkey := Dictionary.mem_keys_ofList.mp (Dictionary.mem_keys_iff.mpr hother)
    exact List.mem_singleton.mp hkey
  hash_eq := rfl
  fallback_eq := rfl
  hash_ne := by decide
  fallback_ne := by decide
  distinct := by decide

/-- The guest has the variation `y`, and keeps it as a member, although whoever comes as this member
at first has `x`. -/
theorem newcomer_continues :
    let first := newcomer.evaluate "welcome" none
    let second := (first.next.setAttributes [("device", .str "d1"), ("id", .str "4")]).evaluate
      "welcome" none
    let direct := (newcomer.setAttributes [("id", .str "4")]).evaluate "welcome" none
    direct.answer.experimentResult?.map (·.key) = some "x" ∧
      first.answer.experimentResult?.map (·.key) = some "y" ∧
      second.answer.experimentResult?.map (·.key) = some "y" ∧
      second.handed = [⟨"id", "4", .ofList [("welcome__1", "y")]⟩] ∧
      ∀ visit ∈ second.next.visits "welcome"
          [[("id", .str "4")], [("device", .str "d2"), ("id", .str "4")]],
        visit.answer = second.answer ∧ visit.handed = [] := by
  intro first second direct
  have hlone : newcomer.Lone := .start _ [] _ _ _
  have hdevice : Identity.textOf [("device", .str "d1"), ("id", .str "4")] "device" =
      Identity.textOf newcomer.profile.attributes "device" := rfl
  have hmember : Identity.textOf [("device", .str "d1"), ("id", .str "4")] "id" = "4" := rfl
  obtain ⟨served, result, hfirst, hsecond, hhanded, -, hvisits⟩ :=
    hlone.guest_continues newcomer_welcomes (by decide +kernel) (by decide +kernel) hdevice
      hmember (by decide) (by decide +kernel)
  have hkey : first.answer.experimentResult?.map (·.key) = some "y" := by decide +kernel
  have hresult : result.key = "y" := by
    rw [hfirst] at hkey
    exact Option.some.inj hkey
  refine ⟨by decide +kernel, hkey, ?_, ?_, fun visit hvisit => ?_⟩
  · rw [hsecond, ← hresult]
    rfl
  · rw [hhanded, hresult]
    rfl
  · rw [hsecond]
    exact hvisits _ (by decide +kernel) visit hvisit

end Session
end FeatureFlags
