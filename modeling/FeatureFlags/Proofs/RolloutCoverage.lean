/-
# Raising a rollout

A rule that forces a value may do so for a part of the users only. When the part grows, nobody who
had the value from this rule loses it (`Session.raised_coverage_keeps`): the rule serves the same
outcome as before, with the same reports, and leaves the same documents and the same tracker.

A user lies in the part if the place of the user is not above the coverage. Coverage zero is for
nobody, but whoever is included under some coverage is so under a larger one, which is not zero
either, because places are not below zero (`Rollout.includes_of_raised`).

The other rules and features are not touched, and prerequisites are evaluated as before even where
they depend on the feature itself: where the feature is on the path, its definition is not read any
more (`evaluate_eq_of_mem`). So up to the rule nothing differs, and at the rule the outcome stays
(`servingRule?_modify`). What comes after it is not asked.

Key definitions: `Setting.servingRule?`, `Setting.servedBy?`, `Session.withCoverage`.
Key theorems: `Rollout.includes_of_raised`, `Setting.serveFirst_eq`,
`Session.raised_coverage_keeps`.
-/
import FeatureFlags.Proofs.FloatOrder
import FeatureFlags.Proofs.Isolation

namespace FeatureFlags

/-! ### Users of a rollout -/

namespace Rollout

variable {rollout : Rollout} {attributes : Attributes} {coverage : Float}

/-- Without a range, coverage decides: a user must have a place, and it must not lie above. -/
theorem includes_iff (hrange : rollout.range = none)
    (hcoverage : rollout.coverage = some coverage) :
    rollout.includes attributes = true ↔ (coverage == 0) = false ∧
      (Identity.resolve rollout.hashAttribute rollout.fallbackAttribute attributes).value ≠ "" ∧
      ∃ x, hashUnit Float rollout.seed
        (Identity.resolve rollout.hashAttribute rollout.fallbackAttribute attributes).value
        (rollout.hashVersion.getD 1) = some x ∧ x ≤ coverage := by
  unfold includes
  simp only [hrange, hcoverage]
  cases hashUnit Float rollout.seed
      (Identity.resolve rollout.hashAttribute rollout.fallbackAttribute attributes).value
      (rollout.hashVersion.getD 1) with
  | none => simp
  | some x => simp [includesPlace, hrange, hcoverage]

/-- **Whoever is included under some coverage is so under a larger one, and under none.** -/
theorem includes_of_raised {raised : Option Float} (hrange : rollout.range = none)
    (hcoverage : rollout.coverage = some coverage) (hraised : ∀ other ∈ raised, coverage ≤ other)
    (h : rollout.includes attributes = true) :
    { rollout with coverage := raised }.includes attributes = true := by
  cases raised with
  | none => simp [includes, hrange]
  | some other =>
    have hle : coverage ≤ other := hraised other rfl
    obtain ⟨hzero, hvalue, x, hx, hplace⟩ := (includes_iff hrange hcoverage).mp h
    have hother : (other == 0) = false := by
      rw [Bool.eq_false_iff] at hzero ⊢
      exact fun heq => hzero (beq_zero_of_le (hashUnit_unsigned hx) hplace hle heq)
    have hrange' : { rollout with coverage := some other }.range = none := hrange
    exact (includes_iff hrange' rfl).mpr ⟨hother, hvalue, x, hx, float_le_trans hplace hle⟩

end Rollout

/-! ### The rule that serves -/

/-- The rule with another coverage. -/
def FeatureRule.withCoverage (rule : FeatureRule) (coverage : Option Float) : FeatureRule :=
  { rule with coverage }

namespace Setting

variable {s s' : Setting} {evaluate : String → Eval FeatureResult} {feature : String}
  {rule rule' : FeatureRule}

/-- The first rule that has an outcome, by its place in the list, and the outcome. -/
def servingRule? (s : Setting) (evaluate : String → Eval FeatureResult) (feature : String) :
    List FeatureRule → Eval (Option (Nat × FeatureResult))
  | [] => return none
  | rule :: rest => do
    match ← s.serve? evaluate feature rule with
    | some result => return some (0, result)
    | none =>
      let serving ← servingRule? s evaluate feature rest
      return serving.map fun (place, result) => (place + 1, result)

/-- **A feature has the outcome of the serving rule**, or the value for everybody if there is
none. -/
theorem serveFirst_eq (defaultValue : Json) : ∀ rules : List FeatureRule,
    s.serveFirst evaluate feature defaultValue rules = do
      let serving ← s.servingRule? evaluate feature rules
      return (serving.map Prod.snd).getD (.defaultValue defaultValue)
  | [] => rfl
  | rule :: rest => by
    funext p
    rw [serveFirst, servingRule?, serveFirst_eq defaultValue rest]
    simp only [Eval.bind_apply]
    cases (s.serve? evaluate feature rule p).1 with
    | some result => rfl
    | none =>
      simp only [Eval.bind_apply, Eval.pure_apply, Option.map_map]
      rfl

theorem servingRule?_cons_some {rest : List FeatureRule} {result : FeatureResult} {p q : Progress}
    (h : s.serve? evaluate feature rule p = (some result, q)) :
    s.servingRule? evaluate feature (rule :: rest) p = (some (0, result), q) := by
  rw [servingRule?, Eval.bind_apply, h]
  rfl

theorem servingRule?_cons_none {rest : List FeatureRule} {p q : Progress}
    (h : s.serve? evaluate feature rule p = (none, q)) :
    s.servingRule? evaluate feature (rule :: rest) p =
      ((s.servingRule? evaluate feature rest q).1.map fun (place, result) => (place + 1, result),
        (s.servingRule? evaluate feature rest q).2) := by
  rw [servingRule?, Eval.bind_apply, h]
  rfl

/-- The serving rule is in its place, and has the outcome. -/
theorem exists_serve?_of_servingRule? {result : FeatureResult} :
    ∀ {rules : List FeatureRule} {i : Nat} {p q : Progress},
      s.servingRule? evaluate feature rules p = (some (i, result), q) →
      ∃ rule r, rules[i]? = some rule ∧ s.serve? evaluate feature rule r = (some result, q)
  | [], _, _, _, h => by cases h
  | rule :: rest, i, p, q, h => by
    cases hserve : s.serve? evaluate feature rule p with
    | mk outcome r =>
      cases outcome with
      | some first =>
        rw [servingRule?_cons_some hserve] at h
        cases h
        exact ⟨rule, p, rfl, hserve⟩
      | none =>
        rw [servingRule?_cons_none hserve] at h
        obtain ⟨hserving, hlast⟩ := Prod.mk.inj h
        obtain ⟨⟨place, last⟩, hrest, hplace⟩ := Option.map_eq_some_iff.mp hserving
        cases hplace
        have hinner : s.servingRule? evaluate feature rest r = (some (place, result), q) :=
          Prod.ext hrest hlast
        obtain ⟨found, start, hfound, hserved⟩ := exists_serve?_of_servingRule? hinner
        exact ⟨found, start, hfound, hserved⟩

/-- A rule that keeps its outcome goes on serving when it is changed: the rules before it serve
nothing, as before, and those after it are not asked. -/
theorem servingRule?_modify {change : FeatureRule → FeatureRule} {result : FeatureResult} :
    ∀ {rules : List FeatureRule} {i : Nat} {p q : Progress},
      (∀ rule, rules[i]? = some rule → ∀ p q, s.serve? evaluate feature rule p = (some result, q) →
        s.serve? evaluate feature (change rule) p = (some result, q)) →
      s.servingRule? evaluate feature rules p = (some (i, result), q) →
      s.servingRule? evaluate feature (rules.modify i change) p = (some (i, result), q)
  | [], _, _, _, _, h => by cases h
  | rule :: rest, i, p, q, hkeep, h => by
    cases hserve : s.serve? evaluate feature rule p with
    | mk outcome r =>
      cases outcome with
      | some first =>
        rw [servingRule?_cons_some hserve] at h
        cases h
        exact servingRule?_cons_some (hkeep rule rfl p q hserve)
      | none =>
        rw [servingRule?_cons_none hserve] at h
        obtain ⟨hserving, rfl⟩ := Prod.mk.inj h
        obtain ⟨⟨place, last⟩, hrest, hplace⟩ := Option.map_eq_some_iff.mp hserving
        cases hplace
        have hmodified : s.servingRule? evaluate feature (rest.modify place change) r =
            (some (place, result), (s.servingRule? evaluate feature rest r).2) :=
          servingRule?_modify hkeep (Prod.ext hrest rfl)
        rw [List.modify_succ_cons, servingRule?_cons_none hserve, hmodified]
        rfl

/-- A rule that forces a value does so if its filters admit the user and it forces the value on
the user, and serves nothing otherwise. -/
theorem outcomeOf?_of_force {value : Json} (hforce : rule.force = some value) :
    s.outcomeOf? evaluate feature rule =
      if (rule.filters.all fun filters => filters.all (·.admits s.attributes)) = true ∧
          s.forces feature rule = true then do
        Eval.trackAll rule.tracks
        return some (.force value rule.id)
      else return none := by
  unfold outcomeOf?
  rw [hforce]
  by_cases hfilters : (rule.filters.all fun filters => filters.all (·.admits s.attributes)) = true
  · simp [hfilters]
  · simp [hfilters]

/-- A rule that has an outcome keeps it when its coverage is raised. -/
theorem serve?_withCoverage {value : Json} {coverage : Float} {raised : Option Float}
    (hforce : rule.force = some value) (hrange : rule.range = none)
    (hcoverage : rule.coverage = some coverage) (hraised : ∀ other ∈ raised, coverage ≤ other)
    {result : FeatureResult} {p q : Progress}
    (h : s.serve? evaluate feature rule p = (some result, q)) :
    s.serve? evaluate feature (rule.withCoverage raised) p = (some result, q) := by
  have hforces : s.forces feature rule = true →
      s.forces feature (rule.withCoverage raised) = true := by
    unfold forces
    rw [Bool.and_eq_true, Bool.and_eq_true]
    exact And.imp_right fun hin => Rollout.includes_of_raised hrange hcoverage hraised hin
  have houtcome : ∀ r, s.outcomeOf? evaluate feature rule r = (some result, q) →
      s.outcomeOf? evaluate feature (rule.withCoverage raised) r = (some result, q) := by
    intro r hr
    have hforce' : (rule.withCoverage raised).force = some value := hforce
    rw [outcomeOf?_of_force hforce] at hr
    rw [outcomeOf?_of_force hforce']
    split at hr
    · rename_i happlies
      rw [if_pos ⟨happlies.1, hforces happlies.2⟩]
      exact hr
    · cases hr
  unfold serve? at h ⊢
  rw [Eval.bind_apply] at h ⊢
  -- the prerequisites are the same, and only if they are met the rollout matters
  have hsame : (rule.withCoverage raised).prerequisites = rule.prerequisites := rfl
  rw [hsame]
  generalize Eval.prerequisites s.savedGroups evaluate rule.prerequisites p = met at h ⊢
  obtain ⟨_ | _ | (_ | _), r⟩ := met
  · exact houtcome r h
  · exact h
  · exact h
  · exact h

/-! ### Below the feature -/

/-- Where a feature is on the path its definition is not read any more. -/
theorem evaluate_eq_of_mem (hs : s.Alike s') (hattributes : s'.attributes = s.attributes)
    (hothers : ∀ key ≠ feature, s'.configuration.feature? key = s.configuration.feature? key)
    (path : List String) (other : String) (kind : Option ValueKind) (hmem : feature ∈ path) :
    s'.evaluate path other kind = s.evaluate path other kind := by
  -- the recursion of `evaluate`: the path only grows
  induction path, other, kind using evaluate.induct (s := s) with
  | case1 path other kind hpath => rw [evaluate_of_mem s' kind hpath, evaluate_of_mem s kind hpath]
  | case2 path other kind hpath result hoverride =>
    rw [evaluate_of_not_mem s' kind hpath, evaluate_of_not_mem s kind hpath, hs.override?_eq,
      hoverride]
  | case3 path other kind hpath hoverride hunknown =>
    have hne : other ≠ feature := fun heq => hpath (heq ▸ hmem)
    rw [evaluate_of_not_mem s' kind hpath, evaluate_of_not_mem s kind hpath, hs.override?_eq,
      hoverride, hothers other hne, hunknown]
  | case4 path other kind hpath hoverride definition hdef ih =>
    have hne : other ≠ feature := fun heq => hpath (heq ▸ hmem)
    rw [evaluate_of_not_mem s' kind hpath, evaluate_of_not_mem s kind hpath, hs.override?_eq,
      hoverride, hothers other hne, hdef]
    have hagree : ∀ rule ∈ definition.rules,
        Attributes.AgreeOn rule.references s'.attributes s.attributes :=
      fun _ _ name _ => congrArg (Entries.find? name) hattributes
    have hserve := serveFirst_congr hs (fun key => s.evaluate (other :: path) key none)
      (fun key => s'.evaluate (other :: path) key none) other definition.defaultValue hagree
      fun _ _ prerequisite _ => ih prerequisite.feature (List.mem_cons_of_mem other hmem)
    simp only [hserve]

/-- The rule that serves the outcome of a feature, by its place; none if the feature is set from
outside, not known, or has the value for everybody. -/
def servedBy? (s : Setting) (feature : String) (kind : Option ValueKind) (p : Progress) :
    Option Nat :=
  match s.override? feature kind, s.configuration.feature? feature with
  | none, some definition =>
    (s.servingRule? (fun other => s.evaluate [feature] other none) feature definition.rules p).1.map
      Prod.fst
  | _, _ => none

/-- A feature that a rule serves is not set from outside. -/
theorem exists_servingRule?_of_servedBy? {definition : Feature} {kind : Option ValueKind} {i : Nat}
    {p : Progress} (hdef : s.configuration.feature? feature = some definition)
    (h : s.servedBy? feature kind p = some i) : s.override? feature kind = none ∧ ∃ result q,
      s.servingRule? (fun other => s.evaluate [feature] other none) feature definition.rules p =
        (some (i, result), q) := by
  unfold servedBy? at h
  rw [hdef] at h
  cases hoverride : s.override? feature kind with
  | some result =>
    rw [hoverride] at h
    cases h
  | none =>
    rw [hoverride] at h
    obtain ⟨⟨place, result⟩, hserving, rfl⟩ := Option.map_eq_some_iff.mp h
    exact ⟨rfl, result, _, Prod.ext hserving rfl⟩

/-- The feature has the outcome of the rule that serves. -/
theorem evaluate_of_servingRule? {definition : Feature} {kind : Option ValueKind} {i : Nat}
    {result : FeatureResult} {p q : Progress} (hoverride : s.override? feature kind = none)
    (hdef : s.configuration.feature? feature = some definition)
    (h : s.servingRule? (fun other => s.evaluate [feature] other none) feature definition.rules p =
      (some (i, result), q)) :
    s.servedBy? feature kind p = some i ∧
      s.evaluate [] feature kind p = Eval.reportUse [] feature result q := by
  constructor
  · unfold servedBy?
    rw [hoverride, hdef]
    simp only [h, Option.map_some]
  · rw [evaluate_of_not_mem s kind List.not_mem_nil, hoverride, hdef]
    simp only [serveFirst_eq, Eval.bind_apply, h]
    rfl

/-- An outcome of a rule that forces a value is that value, or it comes of the prerequisites. -/
theorem eq_force_of_serve? {value : Json} (hforce : rule.force = some value)
    {result : FeatureResult} {p q : Progress}
    (h : s.serve? evaluate feature rule p = (some result, q))
    (hsource : result.source = .force) : result = .force value rule.id := by
  unfold serve? at h
  rw [Eval.bind_apply] at h
  generalize Eval.prerequisites s.savedGroups evaluate rule.prerequisites p = met at h
  obtain ⟨_ | _ | (_ | _), r⟩ := met
  · simp only at h
    rw [outcomeOf?_of_force hforce] at h
    split at h
    · cases h
      rfl
    · cases h
  · cases h
    cases hsource
  · cases h
  · cases h
    cases hsource

/-- Rules serve alike where groups and attributes are the same. -/
theorem servingRule?_congr (hs : s.Alike s') (hattributes : s'.attributes = s.attributes) :
    ∀ rules : List FeatureRule, s'.servingRule? evaluate feature rules =
      s.servingRule? evaluate feature rules
  | [] => rfl
  | rule :: rest => by
    have hagree : Attributes.AgreeOn rule.references s'.attributes s.attributes :=
      fun name _ => congrArg (Entries.find? name) hattributes
    have houtcome := outcomeOf?_congr hs hagree evaluate evaluate feature
    have hserve : s'.serve? evaluate feature rule = s.serve? evaluate feature rule := by
      unfold serve?
      rw [hs.savedGroups, houtcome]
    rw [servingRule?, servingRule?, hserve, servingRule?_congr hs hattributes rest]

end Setting

/-! ### In a session -/

/-- The feature in which a rule, given by its place, has another coverage. -/
def Feature.withCoverage (definition : Feature) (i : Nat) (coverage : Option Float) : Feature :=
  { definition with rules := definition.rules.modify i (·.withCoverage coverage) }

/-- The configuration in which a rule of a feature has another coverage. -/
def Configuration.withCoverage (configuration : Configuration) (feature : String) (i : Nat)
    (coverage : Option Float) : Configuration :=
  match configuration.feature? feature with
  | some definition => configuration.withFeatures
      (configuration.features.insert feature (.feature (definition.withCoverage i coverage)))
  | none => configuration

theorem Configuration.feature?_withCoverage {configuration : Configuration} {feature : String}
    {definition : Feature} (hdef : configuration.feature? feature = some definition) (i : Nat)
    (coverage : Option Float) (key : String) :
    (configuration.withCoverage feature i coverage).feature? key =
      if feature = key then some (definition.withCoverage i coverage)
      else configuration.feature? key := by
  unfold withCoverage
  rw [hdef]
  simp only [withFeatures, feature?, Dictionary.find?_insert]
  split <;> rfl

theorem Configuration.savedGroups_withCoverage (configuration : Configuration) (feature : String)
    (i : Nat) (coverage : Option Float) :
    (configuration.withCoverage feature i coverage).savedGroups = configuration.savedGroups := by
  unfold withCoverage
  split <;> rfl

namespace Session

/-- The session in whose configuration a rule of a feature has another coverage. -/
def withCoverage (s : Session) (feature : String) (i : Nat) (coverage : Option Float) : Session :=
  s.updateConfiguration (·.withCoverage feature i coverage)

/-- The rule that serves the outcome of a feature, by its place, if a rule does. -/
def servedBy? (s : Session) (feature : String) (kind : Option ValueKind) : Option Nat :=
  s.setting.servedBy? feature kind ⟨s.documents, s.tracker, []⟩

/-- **Raising a rollout takes the feature from nobody.** If a rule without range forces a value on
the user under some coverage, it does so under any larger coverage and under none: the same rule
serves the same outcome, with the same reports, and leaves the same behind, the coverage itself
apart. -/
theorem raised_coverage_keeps (s : Session) {feature : String} {definition : Feature} {i : Nat}
    {rule : FeatureRule} {value : Json} {coverage : Float} {raised : Option Float}
    {kind : Option ValueKind} (hdef : s.current.feature? feature = some definition)
    (hrule : definition.rules[i]? = some rule) (hforce : rule.force = some value)
    (hrange : rule.range = none) (hcoverage : rule.coverage = some coverage)
    (hraised : ∀ other ∈ raised, coverage ≤ other) (hserved : s.servedBy? feature kind = some i) :
    ((s.evaluate feature kind).answer.source = .force →
        (s.evaluate feature kind).answer = .force value rule.id) ∧
      (s.withCoverage feature i raised).servedBy? feature kind = some i ∧
      (s.withCoverage feature i raised).evaluate feature kind =
        { s.evaluate feature kind with
          next := (s.evaluate feature kind).next.withCoverage feature i raised } := by
  let raisedSession := s.withCoverage feature i raised
  have hcurrent : raisedSession.current = s.current.withCoverage feature i raised := rfl
  obtain ⟨hoverride, result, q, hserving⟩ :=
    Setting.exists_servingRule?_of_servedBy? (s := s.setting) hdef hserved
  obtain ⟨-, heval⟩ := Setting.evaluate_of_servingRule? hoverride hdef hserving
  -- the two settings differ in the definition of the feature only
  have halike : s.setting.Alike raisedSession.setting :=
    ⟨rfl, s.current.savedGroups_withCoverage feature i raised, rfl, rfl, rfl⟩
  have hfeature := Configuration.feature?_withCoverage hdef i raised
  have hbelow : (fun other => raisedSession.setting.evaluate [feature] other none) =
      fun other => s.setting.evaluate [feature] other none :=
    funext fun other => Setting.evaluate_eq_of_mem halike rfl
      (fun key hne => (hfeature key).trans (if_neg hne.symm)) [feature] other none
      List.mem_cons_self
  -- so the rule goes on serving the same outcome
  have hserving' : raisedSession.setting.servingRule?
      (fun other => raisedSession.setting.evaluate [feature] other none) feature
      (definition.withCoverage i raised).rules ⟨s.documents, s.tracker, []⟩ =
        (some (i, result), q) := by
    rw [hbelow, Setting.servingRule?_congr halike rfl]
    refine Setting.servingRule?_modify (fun other hother p q hserve => ?_) hserving
    obtain rfl : rule = other := Option.some.inj (hrule.symm.trans hother)
    exact Setting.serve?_withCoverage hforce hrange hcoverage hraised hserve
  obtain ⟨hserved', heval'⟩ := Setting.evaluate_of_servingRule?
    ((halike.override?_eq feature kind).trans hoverride) ((hfeature feature).trans (if_pos rfl))
    hserving'
  refine ⟨fun hsource => ?_, hserved', ?_⟩
  · have hanswer : (s.evaluate feature kind).answer = result := congrArg Prod.fst heval
    obtain ⟨first, r, hfirst, hserve⟩ := Setting.exists_serve?_of_servingRule? hserving
    obtain rfl : rule = first := Option.some.inj (hrule.symm.trans hfirst)
    exact hanswer.trans (Setting.eq_force_of_serve? hforce hserve (hanswer ▸ hsource))
  · have hsame : (s.withCoverage feature i raised).setting.evaluateFeature feature kind
          ⟨(s.withCoverage feature i raised).documents,
            (s.withCoverage feature i raised).tracker, []⟩ =
        s.setting.evaluateFeature feature kind ⟨s.documents, s.tracker, []⟩ :=
      heval'.trans heval.symm
    rw [evaluate, evaluate, compute_eq, compute_eq]
    simp only [hsame]
    rfl

/-- A user who is placed at 0.241 by the text `1`, with a feature that is released to three users of
ten when a trial has been run. A rule before it is for other users. -/
def earlyAdopter : Session := { shopper with
  configuration := some
    { features := .ofList
        [("my-feature", .feature ⟨.bool false, [
          { FeatureRule.idle with
            condition := some ⟨.obj [("country", .str "FR")]⟩
            force := some (.str "first") },
          { FeatureRule.idle with
            id := some "release"
            force := some (.bool true)
            coverage := some 0.3
            prerequisites := [⟨"trial", ⟨.obj [("value", .obj [("$ne", .null)])]⟩, true⟩] }]⟩),
         ("trial", .feature ⟨.null, [{ FeatureRule.idle with
            variations := some [.str "a", .str "b"] }]⟩)]
      savedGroups := [] }
  profile := { attributes := [("id", .str "1")] } }

/-- The early adopter keeps the feature when it is released to six users of ten. -/
theorem earlyAdopter_keeps : (0.3 : Float) ≤ 0.6 ∧
    earlyAdopter.servedBy? "my-feature" none = some 1 ∧
    (earlyAdopter.evaluate "my-feature" none).answer = .force (.bool true) (some "release") ∧
    (earlyAdopter.withCoverage "my-feature" 1 (some 0.6)).servedBy? "my-feature" none = some 1 ∧
    (earlyAdopter.withCoverage "my-feature" 1 (some 0.6)).evaluate "my-feature" none =
      { earlyAdopter.evaluate "my-feature" none with
        next := (earlyAdopter.evaluate "my-feature" none).next.withCoverage "my-feature" 1
          (some 0.6) } := by
  have hle : (0.3 : Float) ≤ 0.6 := by decide +kernel
  have hserved : earlyAdopter.servedBy? "my-feature" none = some 1 := by decide +kernel
  have hsource : (earlyAdopter.evaluate "my-feature" none).answer.source = .force := by
    decide +kernel
  have hraised : ∀ other ∈ some (0.6 : Float), 0.3 ≤ other := by
    rintro _ ⟨⟩
    exact hle
  obtain ⟨hanswer, hkept⟩ := raised_coverage_keeps (i := 1) earlyAdopter rfl rfl rfl rfl rfl
    hraised hserved
  exact ⟨hle, hserved, hanswer hsource, hkept⟩

end Session
end FeatureFlags
