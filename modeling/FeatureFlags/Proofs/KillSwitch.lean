/-
# Switching experiments off

Options may say that no experiments are run. This must do to features what taking the
variations out of all rules would do, and nothing else: rules that force values, prerequisites,
gates and cycles decide as before, and the same is reported and stored
(`Session.evaluate_without_experiments`).

Without experiments a rule of an experiment serves nobody, at once and without a trace
(`run_of_not_enabled`). A rule without variations serves nobody either. All other parts of a rule
are the same on both sides, so the two evaluations are the same computation
(`evaluate_of_not_enabled`).

Key definitions: `Configuration.withoutExperiments`, `Setting.withEnabled`.
Key theorems: `Setting.evaluate_of_not_enabled`, `Session.evaluate_without_experiments`.
-/
import FeatureFlags.Proofs.Decision

namespace FeatureFlags

/-! ### Configurations without experiments -/

namespace Entries

variable {α β : Type}

theorem find?_map (f : α → β) (key : String) : ∀ entries : Entries α,
    find? key (entries.map fun entry => (entry.1, f entry.2)) = (entries.find? key).map f
  | [] => rfl
  | (k, v) :: rest => by
    rw [List.map_cons, find?, find?]
    by_cases h : k = key
    · rw [if_pos h, if_pos h, Option.map_some]
    · rw [if_neg h, if_neg h]
      exact find?_map f key rest

end Entries

namespace Dictionary

variable {α β : Type}

/-- The dictionary with other values under the same keys. -/
def map (f : α → β) (dict : Dictionary α) : Dictionary β where
  entries := dict.entries.map fun entry => (entry.1, f entry.2)
  sorted := by
    refine List.pairwise_map.mpr ?_
    exact dict.sorted

@[simp] theorem find?_map (f : α → β) (dict : Dictionary α) (key : String) :
    (dict.map f).find? key = (dict.find? key).map f :=
  Entries.find?_map f key dict.entries

end Dictionary

/-- The rule without its variations. It describes no experiment. -/
def FeatureRule.withoutVariations (rule : FeatureRule) : FeatureRule :=
  { rule with variations := none }

/-- The feature with no rule that runs an experiment. -/
def Feature.withoutExperiments (definition : Feature) : Feature :=
  { definition with rules := definition.rules.map FeatureRule.withoutVariations }

/-- The definition without experiments, if it is one. -/
def Declared.withoutExperiments : Declared → Declared
  | .feature definition => .feature definition.withoutExperiments
  | .unreadable value => .unreadable value

namespace Configuration

/-- The configuration in which no rule has variations. -/
def withoutExperiments (configuration : Configuration) : Configuration :=
  { configuration with features := configuration.features.map Declared.withoutExperiments }

@[simp] theorem feature?_withoutExperiments (configuration : Configuration) (key : String) :
    configuration.withoutExperiments.feature? key =
      (configuration.feature? key).map Feature.withoutExperiments := by
  have hfind : configuration.withoutExperiments.features.find? key =
      (configuration.features.find? key).map Declared.withoutExperiments :=
    Dictionary.find?_map _ _ key
  unfold feature?
  rw [hfind]
  rcases configuration.features.find? key with _ | ⟨definition⟩ | ⟨value⟩ <;> rfl

end Configuration

/-! ### From the parts to the whole -/

namespace Setting

/-- The setting in which experiments are run, or are not. -/
def withEnabled (s : Setting) (enabled : Bool) : Setting :=
  { s with options := { s.options with enabled } }

/-- The setting in which no rule has variations. -/
def withoutExperiments (s : Setting) : Setting :=
  { s with configuration := s.configuration.withoutExperiments }

variable {s : Setting} {evaluate : String → Eval FeatureResult}

/-- Nobody takes part in an experiment that is not run, and nothing happens. -/
theorem run_of_not_enabled (h : s.options.enabled = false) (e : Experiment)
    (feature : Option String) :
    s.run evaluate e feature = pure (s.resultOf e feature .excluded) := by
  have hearly : s.early? e = some .excluded := by
    unfold early?
    rw [h]
    exact if_pos (Or.inr rfl)
  funext p
  rw [run_eq_bind, Eval.bind_apply, decide_of_early hearly]
  rfl

variable (s) (enabled : Bool)

/-- A rule whose prerequisites are met serves by force only. -/
theorem outcomeOf?_of_not_enabled (feature : String) (rule : FeatureRule) :
    (s.withEnabled false).outcomeOf? evaluate feature rule =
      (s.withoutExperiments.withEnabled enabled).outcomeOf? evaluate feature
        rule.withoutVariations := by
  have hforce : rule.withoutVariations.force = rule.force := rfl
  have hnone : rule.withoutVariations.experiment? feature = none := rfl
  unfold outcomeOf?
  -- filters and force do not depend on the variations, so only the experiment is left to look at
  refine ite_congr rfl (fun _ => rfl) fun _ => ?_
  rw [hforce, hnone]
  cases rule.force with
  | some value => rfl
  | none =>
    cases rule.experiment? feature with
    | none => rfl
    | some e =>
      have hrun : (s.withEnabled false).run evaluate e (some feature) =
          pure ((s.withEnabled false).resultOf e (some feature) .excluded) :=
        run_of_not_enabled rfl e (some feature)
      show ((s.withEnabled false).run evaluate e (some feature) >>= fun result => _) = _
      rw [hrun]
      rfl

theorem serve?_of_not_enabled (feature : String) (rule : FeatureRule) :
    (s.withEnabled false).serve? evaluate feature rule =
      (s.withoutExperiments.withEnabled enabled).serve? evaluate feature
        rule.withoutVariations := by
  unfold serve?
  rw [outcomeOf?_of_not_enabled s enabled feature rule]
  rfl

theorem serveFirst_of_not_enabled (feature : String) (defaultValue : Json) :
    ∀ rules : List FeatureRule,
      (s.withEnabled false).serveFirst evaluate feature defaultValue rules =
        (s.withoutExperiments.withEnabled enabled).serveFirst evaluate feature defaultValue
          (rules.map FeatureRule.withoutVariations)
  | [] => rfl
  | rule :: rest => by
    have hrest := serveFirst_of_not_enabled feature defaultValue rest
    rw [List.map_cons, serveFirst, serveFirst, serve?_of_not_enabled s enabled feature rule, hrest]

/-- **Switching experiments off is taking them out of all rules.** The two evaluations are the
same computation. -/
theorem evaluate_of_not_enabled (path : List String) (feature : String) (kind : Option ValueKind) :
    (s.withEnabled false).evaluate path feature kind =
      (s.withoutExperiments.withEnabled enabled).evaluate path feature kind := by
  have hoverride : ∀ feature kind,
      (s.withoutExperiments.withEnabled enabled).override? feature kind =
        (s.withEnabled false).override? feature kind := fun _ _ => rfl
  have hfeature : ∀ key,
      (s.withoutExperiments.withEnabled enabled).configuration.feature? key =
        ((s.withEnabled false).configuration.feature? key).map Feature.withoutExperiments :=
    s.configuration.feature?_withoutExperiments
  -- the recursion of `evaluate`: prerequisites are evaluated on a longer path
  induction path, feature, kind using evaluate.induct (s := s.withEnabled false) with
  | case1 path feature kind hmem =>
    rw [evaluate_of_mem _ kind hmem, evaluate_of_mem _ kind hmem]
  | case2 path feature kind hmem result hresult =>
    rw [evaluate_of_not_mem _ kind hmem, evaluate_of_not_mem _ kind hmem, hoverride, hresult]
  | case3 path feature kind hmem hresult hunknown =>
    rw [evaluate_of_not_mem _ kind hmem, evaluate_of_not_mem _ kind hmem, hoverride, hresult,
      hfeature, hunknown]
    rfl
  | case4 path feature kind hmem hresult definition hdef ih =>
    have hothers := funext ih
    rw [evaluate_of_not_mem _ kind hmem, evaluate_of_not_mem _ kind hmem, hoverride, hresult,
      hfeature, hdef]
    simp only [Option.map_some]
    rw [hothers, serveFirst_of_not_enabled s enabled feature]
    rfl

end Setting

/-! ### In a session -/

namespace Session

/-- The session in which experiments are run, or are not. -/
def withEnabled (s : Session) (enabled : Bool) : Session :=
  { s with options := { s.options with enabled } }

/-- The session in whose configuration no rule has variations. -/
def withoutExperiments (s : Session) : Session :=
  { s with configuration := s.configuration.map Configuration.withoutExperiments }

theorem setting_withoutExperiments (s : Session) (enabled : Bool) :
    (s.withoutExperiments.withEnabled enabled).setting =
      s.setting.withoutExperiments.withEnabled enabled := by
  have hcurrent : s.withoutExperiments.current = s.current.withoutExperiments := by
    unfold current withoutExperiments
    cases s.configuration <;> rfl
  exact congrArg (fun configuration => (⟨configuration, { s.options with enabled }, s.profile⟩ :
    Setting)) hcurrent

/-- **The switch takes out the experiments and nothing else.** With experiments switched off the
answer is the same, the same is reported and saved in the same order, and the same documents and
the same tracker are left, as if all rules had lost their variations, and it does not matter then
whether experiments are switched off. -/
theorem evaluate_without_experiments (s : Session) (enabled : Bool) (feature : String)
    (kind : Option ValueKind) :
    let off := (s.withEnabled false).evaluate feature kind
    let bare := (s.withoutExperiments.withEnabled enabled).evaluate feature kind
    off.answer = bare.answer ∧ off.events = bare.events ∧
      off.next.documents = bare.next.documents ∧ off.next.tracker = bare.next.tracker ∧
      off.next.service = bare.next.service := by
  have hsame : (s.withEnabled false).setting.evaluateFeature feature kind =
      (s.withoutExperiments.withEnabled enabled).setting.evaluateFeature feature kind := by
    rw [setting_withoutExperiments]
    exact s.setting.evaluate_of_not_enabled enabled [] feature kind
  simp only [evaluate, compute_eq, hsame]
  exact ⟨rfl, rfl, rfl, rfl, rfl⟩

end Session
end FeatureFlags
