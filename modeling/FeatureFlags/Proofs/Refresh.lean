/-
# What a refresh loads

A refresh asks the service for the documents of all attributes that some rule with an
experiment names, and evaluation looks for the documents of the attributes that the rule resolves
to. These are two readings of the same names, and they agree but for one case: a rule that names
the empty attribute places users by `id`, while a refresh takes the empty name as it is. If no
other rule names `id`, its documents are never loaded (`Session.Overlooks`).

`refresh_loads_iff` says that this is all that can go wrong: otherwise the assignments that
count after a refresh are those that the service has for the two attributes of the rule, and
what an evaluation has stored is found again.

Key definitions: `StickyDocuments.storedFor`, `Session.AsksFor`, `Session.Overlooks`.
Key theorems: `Session.assignmentsFor_refresh`, `Session.refresh_loads_iff`.
-/
import FeatureFlags.Proofs.Loaded

namespace FeatureFlags

/-! ### Who is asked for -/

theorem Features.mem_identifiers {features : Features} {name : String} :
    name ∈ features.identifiers ↔ ∃ declared ∈ features.values,
      ∃ rule ∈ declared.feature?.elim [] Feature.rules, name ∈ rule.identifiers := by
  unfold identifiers
  rw [Dictionary.mem_keys_ofList, List.map_map]
  simp [Function.comp_def]

/-- What a rule of a feature names is asked for. -/
theorem Configuration.mem_identifiers {configuration : Configuration} {feature name : String}
    {definition : Feature} {rule : FeatureRule}
    (hfeature : configuration.feature? feature = some definition) (hrule : rule ∈ definition.rules)
    (hname : name ∈ rule.identifiers) : name ∈ configuration.identifiers := by
  obtain ⟨declared, hdeclared, hdefinition⟩ := Option.bind_eq_some_iff.mp hfeature
  refine Features.mem_identifiers.mpr
    ⟨declared, Dictionary.mem_values_of_find? hdeclared, rule, ?_, hname⟩
  rw [hdefinition]
  exact hrule

/-- All attributes of a user are named without a bar. -/
def Attributes.PlainlyNamed (attributes : Attributes) : Prop :=
  ∀ field ∈ attributes, '|' ∉ field.1.toList

instance (attributes : Attributes) : Decidable (Attributes.PlainlyNamed attributes) :=
  inferInstanceAs (Decidable (∀ field ∈ attributes, '|' ∉ field.1.toList))

/-- The attributes that a rule places users by are named without a bar. -/
structure FeatureRule.PlainlyNamed (rule : FeatureRule) : Prop where
  hash : '|' ∉ ((Identity.named rule.hashAttribute).getD Identity.defaultAttribute).toList
  fallback : ∀ name, Identity.named rule.fallbackAttribute = some name → '|' ∉ name.toList

/-- The experiment of a rule places users as the rule says. -/
theorem FeatureRule.attributes_of_experiment? {rule : FeatureRule} {feature : String}
    {e : Experiment} (h : rule.experiment? feature = some e) :
    rule.variations.isSome = true ∧ e.hashAttribute = rule.hashAttribute ∧
      e.fallbackAttribute = rule.fallbackAttribute := by
  obtain ⟨variations, hvariations, rfl⟩ := Option.map_eq_some_iff.mp h
  exact ⟨Option.isSome_of_eq_some hvariations, rfl, rfl⟩

/-- A name that the user has a value for has no bar. -/
theorem Identity.bar_notMem_of_value {attributes : Attributes} {name : String}
    (hattributes : Attributes.PlainlyNamed attributes)
    (h : (resolve (some name) none attributes).value ≠ "") : '|' ∉ name.toList := by
  by_cases hempty : name = ""
  · rw [hempty]
    decide
  · rw [resolve_some hempty, textOf] at h
    cases hfind : Entries.find? name attributes with
    | none => exact absurd (by rw [hfind]; rfl) h
    | some value => exact hattributes _ (Entries.mem_of_find? hfind)

/-! ### What is stored for a user -/

namespace StickyDocuments

/-- What is stored for the user's value of the fallback attribute. -/
def fallbackStored (docs : StickyDocuments) (fallback : Option String) (attributes : Attributes) :
    Assignments :=
  match Identity.named fallback with
  | none => .empty
  | some name => docs.assignmentsOf (.resolve (some name) none attributes)

/-- What is stored for the user's values of the hash and the fallback attribute. The hash attribute
goes first. -/
def storedFor (docs : StickyDocuments) (primary fallback : Option String)
    (attributes : Attributes) : Assignments :=
  (docs.fallbackStored fallback attributes).overlay
    (docs.assignmentsOf (.resolve primary none attributes))

/-- All documents are stored under their own keys, and none for an empty value. -/
structure Proper (docs : StickyDocuments) : Prop where
  wellKept : docs.WellKept
  valued : ∀ key doc, docs.find? key = some doc → doc.attributeValue ≠ ""

variable {docs : StickyDocuments} {attributes : Attributes}

theorem Proper.save (h : docs.Proper) {doc : StickyDocument} (hdoc : doc.attributeValue ≠ "") :
    (docs.save doc).Proper where
  wellKept := h.wellKept.save doc
  valued key doc' hfind := by
    rw [find?_save] at hfind
    split at hfind
    · cases hfind
      exact hdoc
    · exact h.valued key doc' hfind

theorem Proper.foldl_save (h : docs.Proper) {saved : List StickyDocument}
    (hsaved : ∀ doc ∈ saved, doc.attributeValue ≠ "") :
    (saved.foldl StickyDocuments.save docs).Proper := by
  induction saved generalizing docs with
  | nil => exact h
  | cons doc rest ih =>
    exact ih (h.save (hsaved doc List.mem_cons_self)) fun other hother =>
      hsaved other (List.mem_cons_of_mem _ hother)

theorem proper_ofList {saved : List StickyDocument}
    (hsaved : ∀ doc ∈ saved, doc.attributeValue ≠ "") : (ofList saved).Proper := by
  have hempty : Proper .empty := { wellKept := nofun, valued := nofun }
  exact hempty.foldl_save hsaved

/-- Nothing is stored for an empty value. -/
theorem Proper.assignmentsOf_empty (h : docs.Proper) {who : Identity}
    (hname : '|' ∉ who.name.toList) (hvalue : who.value = "") :
    docs.assignmentsOf who = .empty := by
  rw [assignmentsOf_eq]
  cases hfind : docs.find? who.storageKey with
  | none => rfl
  | some doc =>
    have hkey := h.wellKept _ doc hfind
    rw [Identity.storageKey, hvalue] at hkey
    exact absurd (documentKey_value_eq_empty hname hkey.symm) (h.valued _ doc hfind)

/-- The hash attribute adds nothing if all that is stored for it is stored for the fallback
attribute, too. -/
theorem storedFor_eq_fallbackStored_iff {primary fallback : Option String} :
    docs.storedFor primary fallback attributes = docs.fallbackStored fallback attributes ↔
      ∀ key variation,
        (docs.assignmentsOf (.resolve primary none attributes)).find? key = some variation →
        (docs.fallbackStored fallback attributes).find? key = some variation := by
  constructor
  · intro h key variation hfind
    rw [← h, storedFor, Dictionary.find?_overlay, hfind, Option.some_or]
  · intro h
    refine Dictionary.ext_find? fun key => ?_
    rw [storedFor, Dictionary.find?_overlay]
    cases hfind : (docs.assignmentsOf (.resolve primary none attributes)).find? key with
    | none => rw [Option.none_or]
    | some variation => rw [Option.some_or, h key variation hfind]

/-- What is stored for the identity of a user is stored for the user. The fallback may be left
out. -/
theorem Proper.find?_storedFor (h : docs.Proper) {primary fallback fallback' : Option String}
    (hprimary : '|' ∉ ((Identity.named primary).getD Identity.defaultAttribute).toList)
    (hfallback : fallback' = fallback ∨ fallback' = none) {key variation : String}
    (hfind : (docs.assignmentsOf (.resolve primary fallback' attributes)).find? key =
      some variation) :
    (docs.storedFor primary fallback attributes).find? key = some variation := by
  rw [storedFor, Dictionary.find?_overlay]
  rcases Identity.resolve_cases primary fallback' attributes with hown | ⟨hempty, name, hname, hown⟩
  · rw [← hown, hfind, Option.some_or]
  · -- the user has no value of the first attribute, so nothing is stored for it
    have hsame : fallback' = fallback := by
      refine hfallback.resolve_right fun hnone => ?_
      rw [hnone] at hname
      cases hname
    rw [h.assignmentsOf_empty hprimary hempty, Dictionary.find?_empty, Option.none_or,
      fallbackStored, ← hsame, hname]
    rw [hown] at hfind
    exact hfind

/-- For documents of the user what counts is what is stored. -/
theorem Current.assignmentsFor_eq (h : docs.Current attributes) (primary : Option String)
    {fallback : Option String}
    (hfallback : ∀ name, Identity.named fallback = some name → '|' ∉ name.toList) :
    docs.assignmentsFor primary fallback attributes =
      docs.storedFor primary fallback attributes := by
  refine Dictionary.ext_find? fun key => ?_
  rw [h.find?_assignmentsFor primary hfallback, storedFor, Dictionary.find?_overlay, fallbackStored]
  cases Identity.named fallback <;> rfl

end StickyDocuments

namespace Session

variable {s : Session}

/-- After a refresh the user has what the service has for a value that is asked for. -/
theorem assignmentsOf_refresh_of_value (hsticky : s.options.sticky = true)
    (hservice : s.service.WellKept) {name : String} (hne : name ≠ "")
    (hlisted : name ∈ s.current.identifiers)
    (hvalue : (Identity.resolve (some name) none s.profile.attributes).value ≠ "") :
    s.refresh.documents.assignmentsOf (.resolve (some name) none s.profile.attributes) =
      s.service.assignmentsOf (.resolve (some name) none s.profile.attributes) := by
  have hentry : (name, (Identity.resolve (some name) none s.profile.attributes).value) ∈
      Identity.valuesOf s.current.identifiers s.profile.attributes :=
    List.mem_map.mpr ⟨name, hlisted, rfl⟩
  have hloaded := StickyDocuments.find?_loadAll_of_mem hservice hentry hvalue
  rw [StickyDocuments.assignmentsOf_eq, StickyDocuments.assignmentsOf_eq,
    documents_refresh hsticky]
  rw [Identity.resolve_some hne] at hloaded ⊢
  rw [Identity.storageKey, hloaded]

/-- After a refresh the user has what the service has for an attribute that is asked for. -/
theorem assignmentsOf_refresh (hsticky : s.options.sticky = true) (hservice : s.service.Proper)
    (hattributes : Attributes.PlainlyNamed s.profile.attributes) {name : String} (hne : name ≠ "")
    (hbar : '|' ∉ name.toList) (hlisted : name ∈ s.current.identifiers) :
    s.refresh.documents.assignmentsOf (.resolve (some name) none s.profile.attributes) =
      s.service.assignmentsOf (.resolve (some name) none s.profile.attributes) := by
  by_cases hvalue : (Identity.resolve (some name) none s.profile.attributes).value = ""
  · have hown := own_refresh hservice.wellKept hsticky fun _ _ hvalue =>
      Identity.bar_notMem_of_value hattributes hvalue
    have hname : '|' ∉ (Identity.resolve (some name) none s.profile.attributes).name.toList := by
      rw [Identity.resolve_some hne]
      exact hbar
    rw [hown.assignmentsOf_empty hname hvalue, hservice.assignmentsOf_empty hname hvalue]
  · exact assignmentsOf_refresh_of_value hsticky hservice.wellKept hne hlisted hvalue

/-- And nothing for an attribute that is not asked for. -/
theorem assignmentsOf_refresh_of_notMem (hsticky : s.options.sticky = true)
    (hservice : s.service.Proper) (hattributes : Attributes.PlainlyNamed s.profile.attributes)
    {name : String} (hne : name ≠ "") (hbar : '|' ∉ name.toList)
    (hlisted : name ∉ s.current.identifiers) :
    s.refresh.documents.assignmentsOf (.resolve (some name) none s.profile.attributes) =
      .empty := by
  rw [StickyDocuments.assignmentsOf_eq, documents_refresh hsticky, Identity.resolve_some hne]
  cases hfind : (s.service.loadAll (Identity.valuesOf s.current.identifiers
      s.profile.attributes)).find? (Identity.storageKey
        ⟨name, Identity.textOf s.profile.attributes name⟩) with
  | none => rfl
  | some doc =>
    obtain ⟨entry, hentry, hvalue, hstored, hkey⟩ := StickyDocuments.find?_loadAll hfind
    obtain ⟨other, hother, rfl⟩ := List.mem_map.mp hentry
    have hsame := hkey.symm.trans (hservice.wellKept _ doc hstored)
    obtain ⟨rfl, -⟩ := documentKey_inj hbar (Identity.bar_notMem_of_value hattributes hvalue) hsame
    exact absurd hother hlisted

/-- The attribute that a rule places users by is asked for. -/
def AsksFor (s : Session) (rule : FeatureRule) : Prop :=
  (Identity.named rule.hashAttribute).getD Identity.defaultAttribute ∈ s.current.identifiers

/-- A refresh overlooks what is stored for a user under a rule: its attribute is not asked for, and
something that is stored for it is not stored for the fallback attribute. -/
structure Overlooks (s : Session) (rule : FeatureRule) : Prop where
  unasked : ¬ s.AsksFor rule
  hidden : ∃ key variation,
    (s.service.assignmentsOf (.resolve rule.hashAttribute none s.profile.attributes)).find? key =
      some variation ∧
    (s.service.fallbackStored rule.fallbackAttribute s.profile.attributes).find? key ≠
      some variation

variable {feature : String} {definition : Feature} {rule : FeatureRule}

/-- A rule that names its attribute has it asked for, and so it is with the fallback attribute. -/
theorem asksFor_of_named (hfeature : s.current.feature? feature = some definition)
    (hrule : rule ∈ definition.rules) (hvariations : rule.variations.isSome = true)
    (hhash : rule.hashAttribute ≠ some "") : s.AsksFor rule := by
  refine Configuration.mem_identifiers hfeature hrule ?_
  rw [FeatureRule.identifiers, if_pos hvariations]
  cases hname : rule.hashAttribute with
  | none => exact List.mem_cons_self
  | some name =>
    have hne : name ≠ "" := fun heq => hhash (heq ▸ hname)
    have hnamed : Identity.named (some name) = some name := by simp [Identity.named, hne]
    rw [hnamed]
    exact List.mem_cons_self

theorem fallback_mem_identifiers (hfeature : s.current.feature? feature = some definition)
    (hrule : rule ∈ definition.rules) (hvariations : rule.variations.isSome = true) {name : String}
    (hname : Identity.named rule.fallbackAttribute = some name) :
    name ∈ s.current.identifiers := by
  refine Configuration.mem_identifiers hfeature hrule ?_
  rw [FeatureRule.identifiers, if_pos hvariations]
  have hfallback : rule.fallbackAttribute = some name := (Option.filter_eq_some_iff.mp hname).1
  rw [hfallback]
  exact List.mem_cons_of_mem _ List.mem_cons_self

/-- After a refresh the user has what the service has for the fallback attribute of a rule. -/
theorem fallbackStored_refresh (hsticky : s.options.sticky = true) (hservice : s.service.Proper)
    (hattributes : Attributes.PlainlyNamed s.profile.attributes)
    (hfeature : s.current.feature? feature = some definition) (hrule : rule ∈ definition.rules)
    (hvariations : rule.variations.isSome = true) (hplain : rule.PlainlyNamed) :
    s.refresh.documents.fallbackStored rule.fallbackAttribute s.profile.attributes =
      s.service.fallbackStored rule.fallbackAttribute s.profile.attributes := by
  unfold StickyDocuments.fallbackStored
  cases hname : Identity.named rule.fallbackAttribute with
  | none => rfl
  | some name =>
    exact assignmentsOf_refresh hsticky hservice hattributes (Identity.ne_empty_of_named hname)
      (hplain.fallback name hname) (fallback_mem_identifiers hfeature hrule hvariations hname)

/-- **What counts after a refresh** is what the service has for the fallback attribute, under what
it has for the hash attribute if that is asked for. -/
theorem assignmentsFor_refresh (hsticky : s.options.sticky = true) (hservice : s.service.Proper)
    (hattributes : Attributes.PlainlyNamed s.profile.attributes)
    (hfeature : s.current.feature? feature = some definition) (hrule : rule ∈ definition.rules)
    (hvariations : rule.variations.isSome = true) (hplain : rule.PlainlyNamed) :
    (s.AsksFor rule → s.refresh.documents.assignmentsFor rule.hashAttribute rule.fallbackAttribute
        s.profile.attributes =
      s.service.storedFor rule.hashAttribute rule.fallbackAttribute s.profile.attributes) ∧
    (¬ s.AsksFor rule → s.refresh.documents.assignmentsFor rule.hashAttribute rule.fallbackAttribute
        s.profile.attributes =
      s.service.fallbackStored rule.fallbackAttribute s.profile.attributes) := by
  have hown := own_refresh hservice.wellKept hsticky fun _ _ hvalue =>
    Identity.bar_notMem_of_value hattributes hvalue
  have hne := Identity.getD_named_ne_empty rule.hashAttribute
  have hwho : Identity.resolve rule.hashAttribute none s.profile.attributes =
      Identity.resolve (some ((Identity.named rule.hashAttribute).getD Identity.defaultAttribute))
        none s.profile.attributes := by
    rw [Identity.resolve_none, Identity.resolve_some hne]
  rw [hown.assignmentsFor_eq rule.hashAttribute hplain.fallback, StickyDocuments.storedFor,
    fallbackStored_refresh hsticky hservice hattributes hfeature hrule hvariations hplain, hwho]
  constructor
  · intro hasks
    rw [assignmentsOf_refresh hsticky hservice hattributes hne hplain.hash hasks,
      StickyDocuments.storedFor, hwho]
  · intro hunasked
    rw [assignmentsOf_refresh_of_notMem hsticky hservice hattributes hne hplain.hash hunasked]
    exact Dictionary.ext_find? fun key => by rw [Dictionary.find?_overlay]; rfl

/-! ### What an evaluation stores -/

/-- The documents that an evaluation hands over are for values that are not empty. -/
theorem valued_of_entered {runs : Experiment → Prop} {docs : StickyDocuments}
    {saved : List StickyDocument} (h : s.setting.Entered runs docs saved) :
    ∀ doc ∈ saved, doc.attributeValue ≠ "" := by
  intro doc hdoc
  obtain ⟨before, after, hsplit⟩ := List.append_of_mem hdoc
  obtain ⟨who, key, variation, hassigns, -, rfl⟩ := h before doc after hsplit
  cases hassigns with
  | place _ _ hearly _ =>
    obtain ⟨-, -, -, -, -, hvalue, -⟩ := Setting.early?_eq_none_iff.mp hearly
    exact hvalue

/-- An evaluation leaves the service proper. -/
theorem proper_evaluate (h : s.service.Proper) (other : String) (kind : Option ValueKind) :
    (s.evaluate other kind).next.service.Proper :=
  h.foldl_save (valued_of_entered (Setting.entered_of_moves
    (Setting.moves_evaluateFeature (s := s.setting) other kind) s.documents s.tracker))

/-- What an evaluation stores for the user in the experiment of a rule is found after a refresh,
unless the same evaluation stores something else in its place. -/
def FindsAgain (s : Session) (rule : FeatureRule) (e : Experiment) : Prop :=
  ∀ (other : String) (kind : Option ValueKind) before doc after,
    (s.evaluate other kind).handed = before ++ doc :: after →
    doc.storageKey = (s.setting.identityFor e).storageKey →
    (∀ later ∈ after, later.storageKey ≠ doc.storageKey) →
    ∀ key variation, doc.assignments.find? key = some variation →
      ((s.evaluate other kind).next.refresh.documents.assignmentsFor rule.hashAttribute
        rule.fallbackAttribute s.profile.attributes).find? key = some variation

theorem findsAgain_of_asksFor (hsticky : s.options.sticky = true) (hservice : s.service.Proper)
    (hattributes : Attributes.PlainlyNamed s.profile.attributes)
    (hfeature : s.current.feature? feature = some definition) (hrule : rule ∈ definition.rules)
    {e : Experiment} (he : rule.experiment? feature = some e) (hplain : rule.PlainlyNamed)
    (hasks : s.AsksFor rule) : s.FindsAgain rule e := by
  intro other kind before doc after hsplit hwho hlast key variation hfind
  obtain ⟨hvariations, hhash, hfallback⟩ := FeatureRule.attributes_of_experiment? he
  have hloaded := (assignmentsFor_refresh (s := (s.evaluate other kind).next) hsticky
    (proper_evaluate hservice other kind) hattributes hfeature hrule hvariations hplain).1 hasks
  rw [show (s.evaluate other kind).next.profile = s.profile from rfl] at hloaded
  rw [hloaded]
  -- the document is the last one for the user, so the service has it
  have hstored : (s.evaluate other kind).next.service.assignmentsOf (s.setting.identityFor e) =
      doc.assignments := by
    have hnot : ¬ StickyDocuments.Holds after (s.setting.identityFor e) :=
      fun ⟨later, hlater, heq⟩ => hlast later hlater (heq.trans hwho.symm)
    show ((s.evaluate other kind).handed.foldl StickyDocuments.save s.service).assignmentsOf _ = _
    rw [hsplit, List.foldl_append, List.foldl_cons,
      StickyDocuments.assignmentsOf_foldl_save_of_not hnot, StickyDocuments.assignmentsOf_save,
      if_pos hwho]
  rw [← hstored, Setting.identityFor, hhash, hfallback, Setting.fallback] at hfind
  refine (proper_evaluate hservice other kind).find?_storedFor hplain.hash ?_ hfind
  split
  · exact Or.inl rfl
  · exact Or.inr rfl

/-- **A refresh loads all that evaluation will look for**, but for what it overlooks. -/
theorem refresh_loads_iff {saved : List StickyDocument} (hsticky : s.options.sticky = true)
    (hservice : s.service = .ofList saved) (hvalued : ∀ doc ∈ saved, doc.attributeValue ≠ "")
    (hattributes : Attributes.PlainlyNamed s.profile.attributes)
    (hfeature : s.current.feature? feature = some definition) (hrule : rule ∈ definition.rules)
    {e : Experiment} (he : rule.experiment? feature = some e) (hplain : rule.PlainlyNamed) :
    (s.refresh.documents.assignmentsFor rule.hashAttribute rule.fallbackAttribute
          s.profile.attributes =
        s.service.storedFor rule.hashAttribute rule.fallbackAttribute s.profile.attributes ↔
      ¬ s.Overlooks rule) ∧
    (rule.hashAttribute ≠ some "" → s.AsksFor rule) ∧
    (s.AsksFor rule → s.FindsAgain rule e) := by
  have hproper : s.service.Proper := hservice ▸ StickyDocuments.proper_ofList hvalued
  obtain ⟨hvariations, -, -⟩ := FeatureRule.attributes_of_experiment? he
  obtain ⟨hasked, hunasked⟩ :=
    assignmentsFor_refresh hsticky hproper hattributes hfeature hrule hvariations hplain
  refine ⟨?_, asksFor_of_named hfeature hrule hvariations,
    findsAgain_of_asksFor hsticky hproper hattributes hfeature hrule he hplain⟩
  by_cases hasks : s.AsksFor rule
  · exact iff_of_true (hasked hasks) fun hover => hover.unasked hasks
  · rw [hunasked hasks, eq_comm, StickyDocuments.storedFor_eq_fallbackStored_iff]
    constructor
    · rintro hall ⟨-, key, variation, hfind, hne⟩
      exact hne (hall key variation hfind)
    · intro hnot key variation hfind
      exact Decidable.not_not.mp fun hne => hnot ⟨hasks, key, variation, hfind, hne⟩

/-- A rule that places users by `id`, and guests by their device. -/
def greeting : FeatureRule :=
  { FeatureRule.idle with
    variations := some [.str "a", .str "b"]
    fallbackAttribute := some "device" }

/-- Somebody on a device that somebody else has used before. -/
def household : Session where
  configuration := some ⟨.ofList [("greeting", .feature ⟨.null, [greeting]⟩)], []⟩
  service := .ofList [⟨"device", "d1", .ofList [("greeting__0", "0"), ("other__0", "x")]⟩,
    ⟨"id", "1", .ofList [("greeting__0", "1")]⟩]
  options := { sticky := true }
  tracker := .ofCapacity Tracker.defaultCapacity
  profile := { attributes := [("device", .str "d1"), ("id", .str "1")] }
  documents := .empty

/-- Both documents are loaded, and that of the `id` goes first. -/
theorem household_loads :
    ¬ household.Overlooks greeting ∧
      (household.refresh.documents.assignmentsFor none (some "device")
        household.profile.attributes).find? "greeting__0" = some "1" ∧
      (household.refresh.documents.assignmentsFor none (some "device")
        household.profile.attributes).find? "other__0" = some "x" ∧
      household.FindsAgain greeting
        { Experiment.basic "greeting" [.str "a", .str "b"] with
          fallbackAttribute := some "device" } := by
  have hplain : greeting.PlainlyNamed := by
    refine ⟨by decide, fun name hname => ?_⟩
    cases hname
    decide
  have hfeature : household.current.feature? "greeting" = some ⟨.null, [greeting]⟩ := rfl
  obtain ⟨hiff, hasks, hagain⟩ := refresh_loads_iff (s := household) rfl rfl (by decide) (by decide)
    hfeature List.mem_cons_self (e := { Experiment.basic "greeting" [.str "a", .str "b"] with
      fallbackAttribute := some "device" }) rfl hplain
  have hasks := hasks nofun
  have hsees : ¬ household.Overlooks greeting := fun hover => hover.unasked hasks
  have hloaded := hiff.mpr hsees
  refine ⟨hsees, ?_, ?_, hagain hasks⟩
  · exact (congrArg (Dictionary.find? · "greeting__0") hloaded).trans (by decide +kernel)
  · exact (congrArg (Dictionary.find? · "other__0") hloaded).trans (by decide +kernel)

/-- A rule that names the empty attribute. -/
def unnamed : FeatureRule :=
  { FeatureRule.idle with
    variations := some [.str "a", .str "b"]
    hashAttribute := some "" }

/-- Somebody who was assigned under the rule before. -/
def regular : Session where
  configuration := some ⟨.ofList [("exp1", .feature ⟨.null, [unnamed]⟩)], []⟩
  service := .ofList [⟨"id", "1", .ofList [("exp1__0", "1")]⟩]
  options := { sticky := true }
  tracker := .ofCapacity Tracker.defaultCapacity
  profile := { attributes := [("id", .str "1")] }
  documents := .empty

/-- **Not everything that evaluation looks for is loaded.** The stored assignment counts for the
rule, but a refresh does not find it; the user is assigned anew, and that is stored in its place
and not found either. -/
theorem exists_overlooked :
    regular.refresh.documents.assignmentsFor (some "") none regular.profile.attributes ≠
        regular.service.storedFor (some "") none regular.profile.attributes ∧
      (regular.refresh.evaluate "exp1" none).handed =
        [⟨"id", "1", .ofList [("exp1__0", "0")]⟩] ∧
      ((regular.refresh.evaluate "exp1" none).next.refresh.documents.assignmentsFor (some "") none
        regular.profile.attributes).find? "exp1__0" = none := by
  decide +kernel

end Session
end FeatureFlags
