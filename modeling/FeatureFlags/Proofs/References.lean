/-
# The attributes that are referred to

A condition looks at the attributes that its paths begin with. Everything else about a
rule looks at attributes by their names: those that users are placed by, the fallback, and
those of the filters. `Condition.references` and `Experiment.references` list these names,
and nothing but the attributes under them counts (`Condition.holds_congr`,
`Setting.decision_congr`): for two users who have the same under every such name, in settings
that are otherwise the same, the condition holds for both or for none, and the decision on the
experiment is the same.

What a condition asks of the items of an array (`$elemMatch`) is not asked of the user, so
paths in it are not listed.

Key definitions: `Condition.references`, `Experiment.references`, `Attributes.AgreeOn`,
`Setting.Alike`.
Key theorems: `Condition.holds_congr`, `Identity.resolve_congr`, `Setting.decision_congr`,
`Setting.conclude_congr`.
-/
import FeatureFlags.Proofs.Decision

namespace FeatureFlags

/-- Two users have the same under each of the names. -/
def Attributes.AgreeOn (names : List String) (a b : Attributes) : Prop :=
  ∀ name ∈ names, Entries.find? name a = Entries.find? name b

theorem Attributes.AgreeOn.mono {names names' : List String} {a b : Attributes}
    (h : AgreeOn names a b) (hsub : ∀ name ∈ names', name ∈ names) : AgreeOn names' a b :=
  fun name hname => h name (hsub name hname)

/-! ### Conditions -/

/-- The name that a dotted path begins with. -/
def Json.pathRoot (path : String) : String := (pathSegments path).headD ""

/-- Users who have the same under the name that a path begins with have the same at the
path. -/
theorem Json.atPath_congr {a b : Attributes} {path : String}
    (h : Entries.find? (pathRoot path) a = Entries.find? (pathRoot path) b) :
    (Json.obj a).atPath path = (Json.obj b).atPath path := by
  unfold atPath
  unfold pathRoot at h
  cases hsegments : pathSegments path with
  | nil =>
    have hcut := cut_ne_nil (· = '.') path.toList
    simp [pathSegments, hcut] at hsegments
  | cons root rest =>
    rw [hsegments, List.headD_cons] at h
    simp only [descend, h]

namespace Condition

mutual

/-- The names that the paths of a tree begin with. -/
def treeReferences : Json → List String
  | .obj fields => fieldReferences fields
  | _ => []
termination_by structural j => j

/-- The names that the paths of the fields of a tree begin with. -/
def fieldReferences : List (String × Json) → List String
  | [] => []
  | (key, child) :: rest =>
    (match Connective.ofKey? key with
      | some .or | some .nor | some .and => listReferences child
      | some .not => treeReferences child
      | none => [Json.pathRoot key]) ++ fieldReferences rest
termination_by structural j => j

/-- The names that the paths of a list of trees begin with. -/
def listReferences : Json → List String
  | .arr trees => treesReferences trees
  | _ => []
termination_by structural j => j

/-- The names that the paths of some trees begin with. -/
def treesReferences : List Json → List String
  | [] => []
  | tree :: rest => treeReferences tree ++ treesReferences rest
termination_by structural j => j

end

/-- The attributes that a condition refers to. -/
def references (condition : Condition) : List String := treeReferences condition.tree

section

variable (groups : Entries Json) {a b : Attributes}

mutual

theorem evalTree_congr : ∀ tree : Json, Attributes.AgreeOn (treeReferences tree) a b →
    evalTree groups tree (.obj a) = evalTree groups tree (.obj b)
  | .obj fields, h => evalFields_congr fields h
  | .null, _ | .bool _, _ | .num _, _ | .str _, _ | .arr _, _ => rfl

theorem evalFields_congr : ∀ fields : List (String × Json),
    Attributes.AgreeOn (fieldReferences fields) a b →
      evalFields groups fields (.obj a) = evalFields groups fields (.obj b)
  | [], _ => rfl
  | (key, child) :: rest, h => by
    have hrest := evalFields_congr rest (h.mono fun name hname => List.mem_append_right _ hname)
    have hfirst := h.mono fun name hname => List.mem_append_left (fieldReferences rest) hname
    unfold evalFields
    rw [hrest]
    cases hkey : Connective.ofKey? key with
    | none =>
      rw [hkey] at hfirst
      simp only [Json.atPath_congr (hfirst _ List.mem_cons_self)]
    | some connective =>
      rw [hkey] at hfirst
      cases connective with
      | or => simp only [evalAny_congr child hfirst]
      | nor => simp only [evalAny_congr child hfirst]
      | and => simp only [evalAll_congr child hfirst]
      | not => simp only [evalTree_congr child hfirst]

theorem evalAny_congr : ∀ trees : Json, Attributes.AgreeOn (listReferences trees) a b →
    evalAny groups trees (.obj a) = evalAny groups trees (.obj b)
  | .arr [], _ => rfl
  | .arr (tree :: rest), h => evalSome_congr (tree :: rest) h
  | .null, _ | .bool _, _ | .num _, _ | .str _, _ | .obj _, _ => rfl

theorem evalSome_congr : ∀ trees : List Json, Attributes.AgreeOn (treesReferences trees) a b →
    evalSome groups trees (.obj a) = evalSome groups trees (.obj b)
  | [], _ => rfl
  | tree :: rest, h => by
    have htree := evalTree_congr tree (h.mono fun name hname => List.mem_append_left _ hname)
    have hrest := evalSome_congr rest (h.mono fun name hname => List.mem_append_right _ hname)
    simp only [evalSome, htree, hrest]

theorem evalAll_congr : ∀ trees : Json, Attributes.AgreeOn (listReferences trees) a b →
    evalAll groups trees (.obj a) = evalAll groups trees (.obj b)
  | .arr trees, h => evalEvery_congr trees h
  | .null, _ | .bool _, _ | .num _, _ | .str _, _ | .obj _, _ => rfl

theorem evalEvery_congr : ∀ trees : List Json, Attributes.AgreeOn (treesReferences trees) a b →
    evalEvery groups trees (.obj a) = evalEvery groups trees (.obj b)
  | [], _ => rfl
  | tree :: rest, h => by
    have htree := evalTree_congr tree (h.mono fun name hname => List.mem_append_left _ hname)
    have hrest := evalEvery_congr rest (h.mono fun name hname => List.mem_append_right _ hname)
    simp only [evalEvery, htree, hrest]

end

end

/-- **A condition looks at no attribute that it does not refer to.** -/
theorem holds_congr {condition : Condition} {a b : Attributes}
    (h : Attributes.AgreeOn condition.references a b) (groups : Entries Json) :
    condition.holds a groups = condition.holds b groups := by
  unfold holds
  rw [evalTree_congr groups condition.tree h]

end Condition

/-! ### Identities, filters and name spaces -/

namespace Identity

/-- The attribute that a name stands for: `id` if none is given. -/
def attributeOf (name : Option String) : String := (named name).getD defaultAttribute

/-- A name that is given is not empty, and so it is a name. -/
theorem named_some_of_named {name : Option String} {text : String} (h : named name = some text) :
    named (some text) = some text := by
  have hgiven : name = some text := (Option.filter_eq_some_iff.mp h).1
  exact hgiven ▸ h

variable {a b : Attributes}

theorem textOf_congr {name : String} (h : Entries.find? name a = Entries.find? name b) :
    textOf a name = textOf b name := by
  unfold textOf
  rw [h]

/-- Who the user is depends on the attribute in use and on the fallback attribute. -/
theorem resolve_congr {primary fallback : Option String}
    (h : Attributes.AgreeOn (attributeOf primary :: (named fallback).toList) a b) :
    resolve primary fallback a = resolve primary fallback b := by
  have hfirst := textOf_congr (h _ List.mem_cons_self)
  unfold attributeOf at hfirst
  unfold resolve
  cases hfallback : named fallback with
  | none => simp only [hfirst]
  | some second =>
    rw [hfallback] at h
    have hsecond := textOf_congr (h second (List.mem_cons_of_mem _ (List.mem_singleton_self second)))
    simp only [hfirst, hsecond]

end Identity

theorem Filter.admits_congr {filter : Filter} {a b : Attributes}
    (h : Attributes.AgreeOn [Identity.attributeOf filter.hashAttribute] a b) :
    filter.admits a = filter.admits b := by
  have hwho : Identity.resolve filter.hashAttribute none a =
      Identity.resolve filter.hashAttribute none b := Identity.resolve_congr h
  unfold admits
  rw [hwho]

/-- The attributes that filters refer to. -/
def Filter.references (filters : List Filter) : List String :=
  filters.map fun filter => Identity.attributeOf filter.hashAttribute

theorem Filter.all_admits_congr {filters : List Filter} {a b : Attributes}
    (h : Attributes.AgreeOn (references filters) a b) :
    (filters.all (·.admits a)) = filters.all (·.admits b) := by
  have hsame : ∀ filter ∈ filters, filter.admits a = filter.admits b := fun filter hfilter =>
    admits_congr (h.mono fun name hname =>
      List.mem_map.mpr ⟨filter, hfilter, (List.mem_singleton.mp hname).symm⟩)
  rw [Bool.eq_iff_iff, List.all_eq_true, List.all_eq_true]
  exact forall₂_congr fun filter hfilter => by rw [hsame filter hfilter]

theorem Rollout.includes_congr {rollout : Rollout} {a b : Attributes}
    (h : Attributes.AgreeOn (Identity.attributeOf rollout.hashAttribute ::
      (Identity.named rollout.fallbackAttribute).toList) a b) :
    rollout.includes a = rollout.includes b := by
  unfold includes
  rw [Identity.resolve_congr h]

/-- What is stored for a user is found by the attributes that users are placed by. -/
theorem StickyDocuments.assignmentsFor_congr (docs : StickyDocuments)
    {hashAttribute fallbackAttribute : Option String} {a b : Attributes}
    (h : Attributes.AgreeOn
      (Identity.attributeOf hashAttribute :: (Identity.named fallbackAttribute).toList) a b) :
    docs.assignmentsFor hashAttribute fallbackAttribute a =
      docs.assignmentsFor hashAttribute fallbackAttribute b := by
  have hown : Identity.resolve hashAttribute none a = Identity.resolve hashAttribute none b :=
    Identity.resolve_congr (h.mono fun name hname =>
      List.mem_cons.mpr (Or.inl (List.mem_singleton.mp hname)))
  unfold assignmentsFor
  rw [hown]
  cases hfallback : Identity.named fallbackAttribute with
  | none => rfl
  | some name =>
    have hname : Identity.attributeOf (some name) = name := by
      rw [Identity.attributeOf, Identity.named_some_of_named hfallback, Option.getD_some]
    have hsecond : Identity.resolve (some name) none a = Identity.resolve (some name) none b := by
      refine Identity.resolve_congr (h.mono fun other hother => ?_)
      rw [List.mem_singleton.mp hother, hname, hfallback]
      exact List.mem_cons_of_mem _ (List.mem_singleton_self name)
    simp only [hsecond]

/-! ### Experiments -/

/-- The attributes that an experiment refers to: those of the condition, those that users
are placed by, and those of the filters. -/
def Experiment.references {V : Type} (e : Experiment V) : List String :=
  (e.condition.elim [] Condition.references) ++
    Identity.attributeOf e.hashAttribute :: (Identity.named e.fallbackAttribute).toList ++
      Filter.references (e.filters.getD [])

namespace Setting

/-- Two settings that may know other features and other attributes, and are otherwise the
same. -/
structure Alike (s s' : Setting) : Prop where
  options : s'.options = s.options
  savedGroups : s'.savedGroups = s.savedGroups
  url : s'.profile.url = s.profile.url
  forcedVariations : s'.profile.forcedVariations = s.profile.forcedVariations
  forcedValues : s'.profile.forcedValues = s.profile.forcedValues

variable {V : Type} {s s' : Setting}

theorem Alike.sticks_eq (h : s.Alike s') (disabled : Bool) :
    s'.sticks disabled = s.sticks disabled := by
  unfold sticks
  rw [h.options]

theorem Alike.fallback_eq (h : s.Alike s') (disabled : Bool) (name : Option String) :
    s'.fallback disabled name = s.fallback disabled name := by
  unfold fallback
  rw [h.sticks_eq]

theorem Alike.override?_eq (h : s.Alike s') (feature : String) (kind : Option ValueKind) :
    s'.override? feature kind = s.override? feature kind := by
  simp only [override?, forcedValue?, urlValue?, h.options, h.url, h.forcedValues]

theorem fallback_subset (s : Setting) (disabled : Bool) (name : Option String) :
    ∀ second ∈ (Identity.named (s.fallback disabled name)).toList,
      second ∈ (Identity.named name).toList := by
  unfold fallback
  split
  · exact fun _ h => h
  · exact fun _ h => absurd h List.not_mem_nil

/-- The names that users are placed by, with the fallback that is in use. -/
theorem agreeOn_fallback {primary name : Option String} {a b : Attributes}
    (h : Attributes.AgreeOn (Identity.attributeOf primary :: (Identity.named name).toList) a b)
    (s : Setting) (disabled : Bool) :
    Attributes.AgreeOn
      (Identity.attributeOf primary :: (Identity.named (s.fallback disabled name)).toList) a b :=
  h.mono fun other hother => by
    rcases List.mem_cons.mp hother with rfl | hother
    · exact List.mem_cons_self
    · exact List.mem_cons_of_mem _ (s.fallback_subset disabled name other hother)

variable {e : Experiment V}

/-- Users who have the same under the names that an experiment refers to have the same under
those that it places users by. -/
theorem agreeOn_identity {a b : Attributes} (h : Attributes.AgreeOn e.references a b) :
    Attributes.AgreeOn
      (Identity.attributeOf e.hashAttribute :: (Identity.named e.fallbackAttribute).toList) a b :=
  h.mono fun _ hname => List.mem_append_left _ (List.mem_append_right _ hname)

theorem identityFor_congr (hs : s.Alike s')
    (h : Attributes.AgreeOn e.references s'.attributes s.attributes) :
    s'.identityFor e = s.identityFor e := by
  unfold identityFor
  rw [hs.fallback_eq]
  exact Identity.resolve_congr (agreeOn_fallback (agreeOn_identity h) s e.disableSticky)

theorem admits_congr {a b : Attributes} (h : Attributes.AgreeOn e.references a b)
    (identity : Identity) : e.admits identity a = e.admits identity b := by
  unfold Experiment.admits
  cases hfilters : e.filters with
  | none => cases e.slice <;> rfl
  | some filters =>
    refine Filter.all_admits_congr (h.mono fun name hname => List.mem_append_right _ ?_)
    rw [hfilters]
    exact hname

theorem conditionHolds_congr {a b : Attributes} (h : Attributes.AgreeOn e.references a b)
    (groups : SavedGroups) : e.conditionHolds a groups = e.conditionHolds b groups := by
  unfold Experiment.conditionHolds
  cases hcondition : e.condition with
  | none => rfl
  | some condition =>
    refine Condition.holds_congr (h.mono fun name hname => ?_) groups
    refine List.mem_append_left _ (List.mem_append_left _ ?_)
    rw [hcondition]
    exact hname

theorem stickyVariation_congr (hs : s.Alike s')
    (h : Attributes.AgreeOn e.references s'.attributes s.attributes) (docs : StickyDocuments) :
    s'.stickyVariation e docs = s.stickyVariation e docs := by
  have hassignments : docs.assignmentsFor e.sticky.hashAttribute e.sticky.fallbackAttribute
        s'.attributes =
      docs.assignmentsFor e.sticky.hashAttribute e.sticky.fallbackAttribute s.attributes :=
    docs.assignmentsFor_congr (agreeOn_identity h)
  simp only [stickyVariation, hs.sticks_eq, StickyExperiment.lookup, hassignments]

/-- **The decision depends on no attribute that the experiment does not refer to.** -/
theorem decision_congr (hs : s.Alike s')
    (h : Attributes.AgreeOn e.references s'.attributes s.attributes) (docs : StickyDocuments) :
    s'.decision docs e = s.decision docs e := by
  have hearly : s'.early? e = s.early? e := by
    simp only [early?, urlVariation?, forcedVariation?, hs.options, hs.url, hs.forcedVariations,
      identityFor_congr hs h]
  have hplace : ∀ sticky, s'.place e sticky = s.place e sticky := fun sticky => by
    simp only [place, hs.options, identityFor_congr hs h]
  simp only [decision, Meant, hearly, hplace, stickyVariation_congr hs h, identityFor_congr hs h,
    admits_congr h, conditionHolds_congr h, hs.savedGroups]

/-- And so does what follows from it. -/
theorem conclude_congr {e : Experiment} (hs : s.Alike s')
    (h : Attributes.AgreeOn e.references s'.attributes s.attributes) (feature : Option String)
    (decision : Decision) : s'.conclude e feature decision = s.conclude e feature decision := by
  have hresult : s'.resultOf e feature decision = s.resultOf e feature decision := by
    simp only [resultOf, identityFor_congr hs h]
  simp only [conclude, hresult, hs.sticks_eq, identityFor_congr hs h]

/-- An experiment without prerequisites comes to the same, and so happens the same. -/
theorem run_congr {e : Experiment} (hnil : e.prerequisites = []) (hs : s.Alike s')
    (h : Attributes.AgreeOn e.references s'.attributes s.attributes)
    (evaluate evaluate' : String → Eval FeatureResult) (feature : Option String) :
    s'.run evaluate' e feature = s.run evaluate e feature := by
  funext p
  rw [run_eq_bind, run_eq_bind, Eval.bind_apply, Eval.bind_apply,
    decide_of_prerequisites_nil hnil, decide_of_prerequisites_nil hnil, decision_congr hs h,
    conclude_congr hs h]

end Setting
end FeatureFlags
