/-
# What a feature depends on

Evaluating a feature reads the definitions of the features that can be reached from it along
prerequisites, and of the user the attributes that the rules of these features refer to.
Nothing else that is known about features or about the user matters. Two settings that agree
on this much (`Setting.SameWithin`) evaluate the feature alike: the computations are the same,
so answers, events, documents and the tracker are (`evaluate_congr`).

This is said twice of sessions. A user may have other attributes, as long as no reached rule
refers to them (`unreferenced_attributes_irrelevant`). And the text of the features may define
other features in any way, or badly, as long as the reached ones are defined alike
(`unreached_definitions_irrelevant`); each definition is read by itself (`feature?_of_ofText?`).

Key definitions: `FeatureRule.references`, `Setting.Reaches`, `Setting.SameWithin`,
`Features.definition?`.
Key theorems: `Setting.evaluate_congr`, `Session.unreferenced_attributes_irrelevant`,
`Session.unreached_definitions_irrelevant`.
-/
import FeatureFlags.Proofs.PlainEvaluation
import FeatureFlags.Proofs.References

namespace FeatureFlags

open Relation

/-! ### Rules -/

namespace FeatureRule

variable {rule : FeatureRule} {feature : String} {e : Experiment}

/-- The attributes that a rule refers to: those of the condition, those that users are placed
by, and those of the filters. -/
def references (rule : FeatureRule) : List String :=
  (rule.condition.elim [] Condition.references) ++
    Identity.attributeOf rule.hashAttribute :: (Identity.named rule.fallbackAttribute).toList ++
      Filter.references (rule.filters.getD [])

theorem references_experiment? (h : rule.experiment? feature = some e) :
    e.references = rule.references := by
  unfold experiment? at h
  obtain ⟨variations, -, rfl⟩ := Option.map_eq_some_iff.mp h
  rfl

end FeatureRule

/-- Prerequisites come to the same if their features do. -/
theorem Eval.prerequisites_congr (groups : SavedGroups)
    {evaluate evaluate' : String → Eval FeatureResult} : ∀ {prerequisites : List Prerequisite},
      (∀ prerequisite ∈ prerequisites,
        evaluate' prerequisite.feature = evaluate prerequisite.feature) →
      Eval.prerequisites groups evaluate' prerequisites =
        Eval.prerequisites groups evaluate prerequisites
  | [], _ => rfl
  | prerequisite :: rest, h => by
    have hrest := prerequisites_congr groups fun other hother =>
      h other (List.mem_cons_of_mem prerequisite hother)
    simp only [prerequisites, h prerequisite List.mem_cons_self, hrest]

namespace Setting

variable {s s' : Setting}

theorem forces_congr {rule : FeatureRule} (hs : s.Alike s')
    (h : Attributes.AgreeOn rule.references s'.attributes s.attributes) (feature : String) :
    s'.forces feature rule = s.forces feature rule := by
  have hcondition : (rule.condition.all fun condition =>
        condition.holds s'.attributes s.savedGroups) =
      rule.condition.all fun condition => condition.holds s.attributes s.savedGroups := by
    cases hgiven : rule.condition with
    | none => rfl
    | some condition =>
      refine Condition.holds_congr (h.mono fun name hname => ?_) s.savedGroups
      refine List.mem_append_left _ (List.mem_append_left _ ?_)
      rw [hgiven]
      exact hname
  have hplaced : Attributes.AgreeOn
      (Identity.attributeOf rule.hashAttribute ::
        (Identity.named rule.fallbackAttribute).toList) s'.attributes s.attributes :=
    h.mono fun _ hname => List.mem_append_left _ (List.mem_append_right _ hname)
  unfold forces
  rw [hs.savedGroups, hs.fallback_eq, hcondition,
    Rollout.includes_congr (agreeOn_fallback hplaced s rule.disableSticky)]

/-- A rule whose prerequisites are met comes to the same, however features are evaluated. -/
theorem outcomeOf?_congr {rule : FeatureRule} (hs : s.Alike s')
    (h : Attributes.AgreeOn rule.references s'.attributes s.attributes)
    (evaluate evaluate' : String → Eval FeatureResult) (feature : String) :
    s'.outcomeOf? evaluate' feature rule = s.outcomeOf? evaluate feature rule := by
  have hfilters : (rule.filters.all fun filters => filters.all (·.admits s'.attributes)) =
      rule.filters.all fun filters => filters.all (·.admits s.attributes) := by
    cases hgiven : rule.filters with
    | none => rfl
    | some filters =>
      refine Filter.all_admits_congr (h.mono fun name hname => List.mem_append_right _ ?_)
      rw [hgiven]
      exact hname
  unfold outcomeOf?
  rw [hfilters, forces_congr hs h]
  cases he : rule.experiment? feature with
  | none => rfl
  | some e =>
    have hrun := run_congr (FeatureRule.prerequisites_experiment? he) hs
      (FeatureRule.references_experiment? he ▸ h) evaluate evaluate' (some feature)
    simp only [hrun]

/-- The first rule that applies is the same, and so is its outcome. -/
theorem serveFirst_congr (hs : s.Alike s') (evaluate evaluate' : String → Eval FeatureResult)
    (feature : String) (defaultValue : Json) :
    ∀ {rules : List FeatureRule},
      (∀ rule ∈ rules, Attributes.AgreeOn rule.references s'.attributes s.attributes) →
      (∀ rule ∈ rules, ∀ prerequisite ∈ rule.prerequisites,
        evaluate' prerequisite.feature = evaluate prerequisite.feature) →
      s'.serveFirst evaluate' feature defaultValue rules =
        s.serveFirst evaluate feature defaultValue rules
  | [], _, _ => rfl
  | rule :: rest, hrefs, hev => by
    have hserve : s'.serve? evaluate' feature rule = s.serve? evaluate feature rule := by
      unfold serve?
      rw [hs.savedGroups, Eval.prerequisites_congr _ (hev rule List.mem_cons_self),
        outcomeOf?_congr hs (hrefs rule List.mem_cons_self) evaluate evaluate']
    have hrest := serveFirst_congr hs evaluate evaluate' feature defaultValue
      (fun other hother => hrefs other (List.mem_cons_of_mem rule hother))
      fun other hother => hev other (List.mem_cons_of_mem rule hother)
    simp only [serveFirst, hserve, hrest]

/-! ### Features -/

/-- The features that can be reached along prerequisites, the feature itself included. -/
def Reaches (s : Setting) : String → String → Prop := ReflTransGen s.Requires

/-- The attributes that the rules of a feature refer to. -/
def references (s : Setting) (feature : String) : List String :=
  match s.configuration.feature? feature with
  | none => []
  | some definition => definition.rules.flatMap FeatureRule.references

/-- Two settings that agree on the features of a set, which holds all that is required by
them, and on the attributes that these features refer to. -/
structure SameWithin (s s' : Setting) (reached : String → Prop) : Prop where
  alike : s.Alike s'
  closed : ∀ feature other, reached feature → s.Requires feature other → reached other
  definitions : ∀ feature, reached feature →
    s'.configuration.feature? feature = s.configuration.feature? feature
  attributes : ∀ feature, reached feature →
    Attributes.AgreeOn (s.references feature) s'.attributes s.attributes

/-- **Evaluating a feature depends on the features that are reached and on the attributes that
these refer to**, and on nothing else about features and attributes. -/
theorem evaluate_congr {reached : String → Prop} (h : s.SameWithin s' reached)
    (path : List String) (feature : String) (kind : Option ValueKind) (hfeature : reached feature) :
    s'.evaluate path feature kind = s.evaluate path feature kind := by
  -- the recursion of `evaluate`: what is required is reached as well
  induction path, feature, kind using evaluate.induct (s := s) with
  | case1 path feature kind hpath => rw [evaluate_of_mem s' kind hpath, evaluate_of_mem s kind hpath]
  | case2 path feature kind hpath result hoverride =>
    rw [evaluate_of_not_mem s' kind hpath, evaluate_of_not_mem s kind hpath, h.alike.override?_eq,
      hoverride]
  | case3 path feature kind hpath hoverride hunknown =>
    rw [evaluate_of_not_mem s' kind hpath, evaluate_of_not_mem s kind hpath, h.alike.override?_eq,
      hoverride, h.definitions feature hfeature, hunknown]
  | case4 path feature kind hpath hoverride definition hdef ih =>
    rw [evaluate_of_not_mem s' kind hpath, evaluate_of_not_mem s kind hpath, h.alike.override?_eq,
      hoverride, h.definitions feature hfeature, hdef]
    have hrefs : ∀ rule ∈ definition.rules,
        Attributes.AgreeOn rule.references s'.attributes s.attributes := fun rule hrule =>
      (h.attributes feature hfeature).mono fun name hname => by
        unfold references
        rw [hdef]
        exact List.mem_flatMap.mpr ⟨rule, hrule, hname⟩
    have hserve := serveFirst_congr h.alike (fun other => s.evaluate (feature :: path) other none)
      (fun other => s'.evaluate (feature :: path) other none) feature definition.defaultValue hrefs
      fun rule hrule prerequisite hprerequisite => ih prerequisite.feature
        (h.closed feature _ hfeature (requires_of_mem hdef hrule hprerequisite))
    simp only [hserve]

/-- A set that holds a feature, and all that is required by its members, holds everything
that is reached from the feature. -/
theorem mem_of_reaches {features : List String}
    (hclosed : ∀ feature ∈ features, ∀ other ∈ s.required feature, other ∈ features)
    {feature other : String} (h : s.Reaches feature other) (hmem : feature ∈ features) :
    other ∈ features := by
  induction h with
  | refl => exact hmem
  | tail _ hrequires ih => exact hclosed _ ih _ hrequires

end Setting

/-! ### Reading definitions -/

/-- A definition as it is kept: the feature, or the value that is none. -/
def Declared.ofJson (j : Json) : Declared :=
  match Feature.codec.read j with
  | some definition => .feature definition
  | none => .unreadable j.canonical

theorem Declared.feature?_ofJson (j : Json) : (ofJson j).feature? = Feature.codec.read j := by
  unfold ofJson
  cases Feature.codec.read j <;> rfl

theorem Declared.read_codec (j : Json) : codec.read j = some (ofJson j) := by
  unfold ofJson codec
  simp only
  cases Feature.codec.read j <;> rfl

namespace Features

/-- The feature that a text defines under a key: the last field of the key counts, and must be
a feature. -/
def definition? (text key : String) : Option Feature := do
  let payload ← Json.read? text
  let fields ← payload.fields?
  Feature.codec.read (← Entries.find? key (Entries.ofList fields))

/-- Any object is read, field by field. -/
theorem read_codec_obj (fields : List (String × Json)) :
    codec.read (.obj fields) =
      some (Dictionary.ofList (fields.map fun field => (field.1, Declared.ofJson field.2))) := by
  have hfield : (fun field : String × Json =>
        (Declared.codec.read field.2).map (field.1, ·)) =
      fun field => pure (field.1, Declared.ofJson field.2) := by
    funext field
    rw [Declared.read_codec]
    rfl
  simp only [codec, Codec.dictionary, hfield, List.mapM_pure]
  rfl

theorem definition?_of_read {text : String} {fields : List (String × Json)}
    (h : Json.read? text = some (.obj fields)) (key : String) :
    definition? text key =
      (Entries.find? key (Entries.ofList fields)).bind Feature.codec.read := by
  unfold definition?
  rw [h]
  rfl

/-- Each field of an object is a definition, or a value that is none. -/
theorem ofText?_of_read {text : String} {fields : List (String × Json)}
    (h : Json.read? text = some (.obj fields)) :
    ofText? text =
      some (Dictionary.ofList (fields.map fun field => (field.1, Declared.ofJson field.2))) := by
  unfold ofText?
  rw [h]
  exact read_codec_obj fields

/-- **Each definition is read by itself**, whatever else the text defines. -/
theorem feature?_of_ofText? {text : String} {features : Features}
    (h : ofText? text = some features) (groups : SavedGroups) (key : String) :
    Configuration.feature? ⟨features, groups⟩ key = definition? text key := by
  obtain ⟨payload, hread, hpayload⟩ := Option.bind_eq_some_iff.mp h
  cases payload with
  | obj fields =>
    rw [ofText?_of_read hread, Option.some.injEq] at h
    subst h
    have hfind : (Entries.insertAll (fields.map fun field => (field.1, Declared.ofJson field.2))
          []).find? key =
        ((Entries.insertAll fields []).find? key).map Declared.ofJson :=
      Entries.find?_insertAll_map Declared.ofJson fields (fun _ => rfl) key
    have hdeclared : (fun j => (Declared.ofJson j).feature?) = Feature.codec.read :=
      funext Declared.feature?_ofJson
    calc Configuration.feature? ⟨Dictionary.ofList _, groups⟩ key
        = ((Entries.find? key (Entries.ofList fields)).map Declared.ofJson).bind
            Declared.feature? := congrArg (Option.bind · Declared.feature?) hfind
      _ = (Entries.find? key (Entries.ofList fields)).bind Feature.codec.read := by
        rw [Option.bind_map, ← hdeclared]
        rfl
      _ = definition? text key := (definition?_of_read hread key).symm
  | null | bool _ | num _ | str _ | arr _ => cases hpayload

end Features

/-! ### In a session -/

namespace Session

variable {s : Session}

/-- The session with other attributes of the user. -/
def withAttributes (s : Session) (attributes : Attributes) : Session :=
  s.updateProfile ({ · with attributes })

/-- The session with other features. -/
def withFeatures (s : Session) (features : Features) : Session :=
  s.updateConfiguration (·.withFeatures features)

/-- **Attributes that no reached feature refers to do not matter**: answer, events and
everything that is left behind are the same, the attributes themselves apart. -/
theorem unreferenced_attributes_irrelevant (s : Session) (attributes : Attributes)
    (feature : String) (kind : Option ValueKind)
    (h : ∀ other, s.setting.Reaches feature other →
      Attributes.AgreeOn (s.setting.references other) attributes s.profile.attributes) :
    (s.withAttributes attributes).evaluate feature kind =
      { s.evaluate feature kind with
        next := (s.evaluate feature kind).next.withAttributes attributes } := by
  have hsame : s.setting.SameWithin (s.withAttributes attributes).setting
      (s.setting.Reaches feature) :=
    { alike := ⟨rfl, rfl, rfl, rfl, rfl⟩
      closed := fun _ _ hreached hrequires => hreached.tail hrequires
      definitions := fun _ _ => rfl
      attributes := h }
  have heval := Setting.evaluate_congr hsame [] feature kind .refl
  rw [evaluate, evaluate, compute_eq, compute_eq]
  simp only [Setting.evaluateFeature, heval]
  rfl

/-- A user of a shop with two features: a banner for those from one country who take part in
a trial, and the trial, for which users are placed by their device. -/
def shopper : Session where
  configuration := some
    { features := .ofList
        [("banner", .feature ⟨.bool false, [{ FeatureRule.idle with
            condition := some ⟨.obj [("country", .str "US")]⟩
            force := some (.bool true)
            prerequisites := [⟨"trial", ⟨.obj [("value", .obj [("$ne", .null)])]⟩, true⟩] }]⟩),
         ("trial", .feature ⟨.null, [{ FeatureRule.idle with
            variations := some [.str "a", .str "b"]
            hashAttribute := some "device" }]⟩)]
      savedGroups := [] }
  service := .empty
  options := { sticky := true }
  tracker := .ofCapacity Tracker.defaultCapacity
  profile := { attributes := [("country", .str "US"), ("device", .str "d1")] }
  documents := .empty

/-- The attributes of the shopper, and the age, which no rule refers to. -/
def agedShopper : Attributes := ("age", .str "30") :: shopper.profile.attributes

/-- The age makes no difference to the banner, nor to the trial that is run on the way. -/
theorem shopper_of_any_age :
    (shopper.evaluate "banner" none).answer.source = .force ∧
      (shopper.evaluate "banner" none).events.filterMap Event.saved? ≠ [] ∧
      (shopper.withAttributes agedShopper).evaluate "banner" none =
        { shopper.evaluate "banner" none with
          next := (shopper.evaluate "banner" none).next.withAttributes agedShopper } := by
  refine ⟨by decide +kernel, by decide +kernel,
    unreferenced_attributes_irrelevant shopper agedShopper "banner" none fun other hreached => ?_⟩
  have hmem : other ∈ ["banner", "trial"] :=
    Setting.mem_of_reaches (by decide +kernel) hreached (by decide)
  have hnever : ∀ feature ∈ ["banner", "trial"], "age" ∉ shopper.setting.references feature := by
    decide +kernel
  intro name hname
  have hne : "age" ≠ name := fun heq => hnever other hmem (heq ▸ hname)
  exact if_neg hne

/-- **Definitions that are not reached do not matter**: two texts that define alike what is
reached from a feature give it the same answer, with the same events, and leave the same
behind, the features themselves apart. -/
theorem unreached_definitions_irrelevant (s : Session) {text text' : String}
    {features features' : Features} (htext : Features.ofText? text = some features)
    (htext' : Features.ofText? text' = some features') (feature : String) (kind : Option ValueKind)
    (h : ∀ other, (s.withFeatures features).setting.Reaches feature other →
      Features.definition? text' other = Features.definition? text other) :
    (s.withFeatures features').evaluate feature kind =
      { (s.withFeatures features).evaluate feature kind with
        next := ((s.withFeatures features).evaluate feature kind).next.withFeatures features' } := by
  have hsame : (s.withFeatures features).setting.SameWithin (s.withFeatures features').setting
      ((s.withFeatures features).setting.Reaches feature) :=
    { alike := ⟨rfl, rfl, rfl, rfl, rfl⟩
      closed := fun _ _ hreached hrequires => hreached.tail hrequires
      definitions := fun other hreached => by
        have hother := Features.feature?_of_ofText? htext s.current.savedGroups other
        have hother' := Features.feature?_of_ofText? htext' s.current.savedGroups other
        exact hother'.trans ((h other hreached).trans hother.symm)
      attributes := fun _ _ _ _ => rfl }
  have heval := Setting.evaluate_congr hsame [] feature kind .refl
  rw [evaluate, evaluate, compute_eq, compute_eq]
  simp only [Setting.evaluateFeature, heval]
  rfl

/-- The fields of a text of features: a banner that asks for a trial, the trial, and others. -/
def menu (others : List (String × Json)) : List (String × Json) :=
  [("banner", .obj [("rules", .arr [.obj
      [("force", .bool true),
       ("parentConditions", .arr [.obj [("condition", .obj []), ("id", .str "trial")]])]])]),
   ("trial", .obj [])] ++ others

set_option maxRecDepth 4000 in
/-- A further field, which is not even a feature, makes no difference to the banner. -/
theorem menu_with_unreadable_field : ∃ features features',
    Features.ofText? (Json.obj (menu [])).write = some features ∧
      Features.ofText? (Json.obj (menu [("zebra", .bool true)])).write = some features' ∧
      (shopper.withFeatures features').evaluate "banner" none =
        { (shopper.withFeatures features).evaluate "banner" none with
          next := ((shopper.withFeatures features).evaluate "banner" none).next.withFeatures
            features' } := by
  have hread : Json.read? (Json.obj (menu [])).write = some (.obj (menu [])) := by rfl
  have hread' : Json.read? (Json.obj (menu [("zebra", .bool true)])).write =
      some (.obj (menu [("zebra", .bool true)])) := by rfl
  have htext := Features.ofText?_of_read hread
  have htext' := Features.ofText?_of_read hread'
  refine ⟨_, _, htext, htext',
    unreached_definitions_irrelevant shopper htext htext' "banner" none fun other hreached => ?_⟩
  have hmem : other ∈ ["banner", "trial"] :=
    Setting.mem_of_reaches (by decide +kernel) hreached (by decide)
  have hsame : ∀ key ∈ ["banner", "trial"],
      Entries.find? key (Entries.ofList (menu [("zebra", .bool true)])) =
        Entries.find? key (Entries.ofList (menu [])) := by
    rintro key (_ | ⟨_, _ | ⟨_, ⟨⟩⟩⟩) <;> rfl
  rw [Features.definition?_of_read hread, Features.definition?_of_read hread', hsame other hmem]

end Session
end FeatureFlags
