/-
# What decides an experiment

`Setting.decide` evaluates prerequisites on its way, so it makes progress. Where it
evaluates none, it is a function of the documents at hand: if the experiment has no
prerequisites (`decide_of_prerequisites_nil`), and if an assignment is stored
(`decide_of_stored`), because then nobody asks whom the experiment is for.

An assignment is only made by place, so it says where the user fell and which
variation was chosen there (`place_eq_assigned_iff`). And only after an assignment
anything happens (`conclude_of_ne_assigned`).

Key definitions: `Setting.decision`, `Setting.conclude`.
Key theorems: `Setting.decide_of_prerequisites_nil`, `Setting.decide_of_stored`,
`Setting.place_eq_assigned_iff`, `Setting.conclude_of_ne_assigned`.
-/
import FeatureFlags.Session.Basic

namespace FeatureFlags

namespace Setting

variable {V : Type}

/-- What is set from outside is forced, or given by the page address. -/
theorem override?_cases {s : Setting} {feature : String} {kind : Option ValueKind}
    {result : FeatureResult} (h : s.override? feature kind = some result) :
    ∃ value, result = .override value ∨ result = .urlOverride value := by
  unfold override? at h
  split at h
  · exact ⟨_, Or.inl (Option.some.inj h).symm⟩
  · obtain ⟨value, -, rfl⟩ := Option.map_eq_some_iff.mp h
    exact ⟨value, Or.inr rfl⟩

/-! ### The decision -/

/-- Whether the experiment is for a user with the given documents, prerequisites apart.
A stored assignment makes up for filters and condition. -/
abbrev Meant (s : Setting) (docs : StickyDocuments) (e : Experiment V) : Prop :=
  (s.stickyVariation e docs).variation?.isSome ∨
    (e.admits (s.identityFor e) s.attributes ∧ e.conditionHolds s.attributes s.savedGroups)

/-- The decision for a user with the given documents, if the prerequisites of the
experiment are met. -/
def decision (s : Setting) (docs : StickyDocuments) (e : Experiment V) : Decision :=
  match s.early? e with
  | some decision => decision
  | none =>
    if s.Meant docs e then s.place e (s.stickyVariation e docs) else .excluded

variable {s : Setting} {evaluate : String → Eval FeatureResult} {e : Experiment V}

/-- Where no assignments are stored, none is looked up. -/
theorem stickyVariation_of_not_sticks (h : s.sticks e.disableSticky = false)
    (docs : StickyDocuments) : s.stickyVariation e docs = .unassigned := by
  unfold stickyVariation
  rw [h]
  rfl

/-- A stored variation is found by its key. -/
theorem exists_key_of_stickyVariation {docs : StickyDocuments} {variation : Nat}
    (h : s.stickyVariation e docs = .assigned variation) :
    s.sticks e.disableSticky ∧ ∃ key, e.sticky.variationWithKey? key = some variation := by
  unfold stickyVariation at h
  split at h
  · rename_i hsticks
    refine ⟨hsticks, ?_⟩
    unfold StickyExperiment.lookup at h
    simp only at h
    split at h
    · cases h
    · split at h
      · rename_i stored hassigned
        cases h
        obtain ⟨key, -, hkey⟩ := Option.bind_eq_some_iff.mp hassigned
        exact ⟨key, hkey⟩
      · cases h
  · cases h

theorem decide_of_early {decision : Decision} (h : s.early? e = some decision) (p : Progress) :
    s.decide evaluate e p = (decision, p) := by
  unfold Setting.decide
  rw [h]
  rfl

/-- What is left to decide is decided by place, for those whom the experiment is for. -/
theorem decide_of_undecided (h : s.early? e = none) (p : Progress) :
    s.decide evaluate e p =
      if (s.stickyVariation e p.documents).variation?.isSome then
        (s.place e (s.stickyVariation e p.documents), p)
      else
        (if (s.isTarget evaluate e p).1 then s.place e (s.stickyVariation e p.documents)
          else .excluded, (s.isTarget evaluate e p).2) := by
  unfold Setting.decide
  rw [h]
  simp only [Eval.bind_apply, Eval.get_apply]
  by_cases hstored : (s.stickyVariation e p.documents).variation?.isSome
  · simp only [hstored, ↓reduceIte, Eval.pure_apply]
  · simp only [hstored, Bool.false_eq_true, ↓reduceIte, Eval.bind_apply]
    split <;> rfl

/-- If an assignment is stored, nobody asks whom the experiment is for. -/
theorem decide_of_stored {variation : Nat} {p : Progress} (hearly : s.early? e = none)
    (hstored : s.stickyVariation e p.documents = .assigned variation) :
    s.decide evaluate e p = (s.place e (.assigned variation), p) := by
  rw [decide_of_undecided hearly, hstored]
  rfl

theorem isTarget_of_prerequisites_nil (h : e.prerequisites = []) (p : Progress) :
    s.isTarget evaluate e p =
      (e.admits (s.identityFor e) s.attributes && e.conditionHolds s.attributes s.savedGroups,
        p) := by
  unfold isTarget
  split
  · rename_i htarget
    rw [h, htarget.1, htarget.2]
    rfl
  · rename_i htarget
    rw [Bool.eq_false_iff.mpr fun hand => htarget (Bool.and_eq_true_iff.mp hand)]
    rfl

/-- Without prerequisites the decision is made from the documents alone, and nothing
happens on the way. -/
theorem decide_of_prerequisites_nil (h : e.prerequisites = []) (p : Progress) :
    s.decide evaluate e p = (s.decision p.documents e, p) := by
  unfold decision
  cases hearly : s.early? e with
  | some early => exact decide_of_early hearly p
  | none =>
    rw [decide_of_undecided hearly, isTarget_of_prerequisites_nil h]
    by_cases hstored : (s.stickyVariation e p.documents).variation?.isSome
    · have hmeant : s.Meant p.documents e := Or.inl hstored
      simp only [hstored, ↓reduceIte, hmeant]
    · have hmeant : s.Meant p.documents e ↔
          (e.admits (s.identityFor e) s.attributes &&
            e.conditionHolds s.attributes s.savedGroups) := by
        rw [Meant, or_iff_right hstored, Bool.and_eq_true]
      simp only [hstored, Bool.false_eq_true, ↓reduceIte, hmeant]

/-- The page address or a forced variation says which variation the user has. -/
abbrev SetsVariation (s : Setting) (e : Experiment V) : Prop :=
  (s.urlVariation? e.key e.variations.length).isSome ∨ (s.forcedVariation? e.key).isSome

/-- What is decided before the place is looked at: the user takes no part, or has the variation
that is set from outside. -/
theorem early?_cases {early : Decision} (h : s.early? e = some early) :
    early = .excluded ∨ ∃ variation, early = .forced variation ∧ s.SetsVariation e := by
  unfold early? at h
  split at h
  · exact Or.inl (Option.some.inj h).symm
  · cases hurl : s.urlVariation? e.key e.variations.length with
    | some variation =>
      rw [hurl] at h
      exact Or.inr ⟨variation, (Option.some.inj h).symm, Or.inl (by rw [hurl]; rfl)⟩
    | none =>
      cases hforced : s.forcedVariation? e.key with
      | some variation =>
        rw [hurl, hforced] at h
        exact Or.inr ⟨variation, (Option.some.inj h).symm, Or.inr (by rw [hforced]; rfl)⟩
      | none =>
        rw [hurl, hforced] at h
        simp only at h
        split at h
        · exact Or.inl (Option.some.inj h).symm
        · cases h

theorem early_eq_excluded (hset : ¬ s.SetsVariation e) {early : Decision}
    (h : s.early? e = some early) : early = .excluded :=
  (early?_cases h).resolve_right fun ⟨_, _, hsets⟩ => hset hsets

/-- Nobody is assigned before the place is looked at. -/
theorem early_ne_assigned {early : Decision} (h : s.early? e = some early) {variation : Nat}
    {bucket : Float} {stored : Bool} : early ≠ .assigned variation bucket stored := by
  rcases early?_cases h with rfl | ⟨_, rfl, -⟩
  · exact Decision.noConfusion
  · exact Decision.noConfusion

/-- What must not be so for the place to be looked at. -/
theorem early?_eq_none_iff : s.early? e = none ↔
    2 ≤ e.variations.length ∧ s.options.enabled = true ∧
      s.urlVariation? e.key e.variations.length = none ∧ s.forcedVariation? e.key = none ∧
      e.active = true ∧ (s.identityFor e).value ≠ "" ∧ (s.identityFor e).value ≠ "null" := by
  unfold early?
  by_cases hcount : e.variations.length < 2 ∨ (!s.options.enabled) = true
  · simp only [hcount, ↓reduceIte, reduceCtorEq, false_iff]
    rintro ⟨hle, henabled, -⟩
    rcases hcount with hlt | hoff
    · omega
    · rw [henabled] at hoff
      cases hoff
  · obtain ⟨hlt, hoff⟩ := not_or.mp hcount
    have henabled : s.options.enabled = true := by simpa using hoff
    have hle : 2 ≤ e.variations.length := by omega
    rw [if_neg hcount]
    simp only [hle, henabled, true_and]
    cases s.urlVariation? e.key e.variations.length with
    | some variation => simp
    | none =>
      cases s.forcedVariation? e.key with
      | some variation => simp
      | none =>
        by_cases hactive : e.active = true <;> simp [hactive, not_or]

/-- An assignment says where the user fell, and that the variation was chosen there. -/
theorem place_eq_assigned_iff {sticky : StickyVariation} {variation : Nat} {bucket : Float}
    {stored : Bool} :
    s.place e sticky = .assigned variation bucket stored ↔
      e.bucketOf? (s.identityFor e).value = some bucket ∧ sticky ≠ .blocked ∧
        e.chosen? sticky bucket = some variation ∧ e.force = none ∧
        s.options.qaMode = false ∧ sticky.variation?.isSome = stored := by
  unfold place
  cases e.bucketOf? (s.identityFor e).value with
  | none => simp
  | some place =>
    constructor
    · intro h
      simp only at h
      split at h
      · cases h
      · rename_i hblocked
        cases hchosen : e.chosen? sticky place with
        | none => simp [hchosen] at h
        | some chosen =>
          cases hforce : e.force with
          | some n =>
            simp only [hchosen, hforce] at h
            split at h <;> cases h
          | none =>
            simp only [hchosen, hforce] at h
            split at h
            · cases h
            · rename_i hqa
              injection h with h₁ h₂ h₃
              subst h₁ h₂ h₃
              exact ⟨rfl, hblocked, hchosen, rfl, Bool.eq_false_iff.mpr hqa, rfl⟩
    · rintro ⟨hbucket, hblocked, hchosen, hforce, hqa, rfl⟩
      cases hbucket
      simp [hblocked, hchosen, hforce, hqa]

/-- Only a user who is placed is assigned. -/
theorem decision_eq_assigned {docs : StickyDocuments} {variation : Nat} {bucket : Float}
    {stored : Bool} (h : s.decision docs e = .assigned variation bucket stored) :
    s.early? e = none ∧ s.Meant docs e ∧
      s.place e (s.stickyVariation e docs) = .assigned variation bucket stored := by
  unfold decision at h
  cases hearly : s.early? e with
  | some early =>
    rw [hearly] at h
    exact absurd h (early_ne_assigned hearly)
  | none =>
    simp only [hearly] at h
    split at h
    · rename_i hmeant
      exact ⟨rfl, hmeant, h⟩
    · cases h

/-- What of the documents matters for the decision is what is found for the experiment. -/
theorem decision_of_stickyVariation {docs docs' : StickyDocuments}
    (h : s.stickyVariation e docs' = s.stickyVariation e docs) :
    s.decision docs' e = s.decision docs e := by
  simp only [decision, Meant, h]

/-! ### What follows from it -/

/-- What happens once the decision is made. -/
def conclude (s : Setting) (e : Experiment) (feature : Option String) (decision : Decision) :
    Eval ExperimentResult := do
  let result := s.resultOf e feature decision
  match decision with
  | .assigned _ _ _ =>
    if s.sticks e.disableSticky then
      Eval.assign (s.identityFor e) (assignmentKey e.key e.bucketVersion) result.key
    Eval.track e result
    return result
  | _ => return result

theorem run_eq_bind (evaluate : String → Eval FeatureResult) (e : Experiment)
    (feature : Option String) :
    s.run evaluate e feature = s.decide evaluate e >>= s.conclude e feature := rfl

/-- The documents of an assignment, before the exposure is reported. -/
def keep (s : Setting) (e : Experiment) (result : ExperimentResult) (p : Progress) : Progress :=
  if s.sticks e.disableSticky then
    (Eval.assign (s.identityFor e) (assignmentKey e.key e.bucketVersion) result.key p).2
  else p

/-- An assignment is kept first, and then reported. -/
theorem conclude_assigned (s : Setting) (e : Experiment) (feature : Option String) (variation : Nat)
    (bucket : Float) (stored : Bool) (p : Progress) :
    s.conclude e feature (.assigned variation bucket stored) p =
      let result := s.resultOf e feature (.assigned variation bucket stored)
      (result, (Eval.track e result (s.keep e result p)).2) := by
  unfold conclude keep
  by_cases hsticks : s.sticks e.disableSticky
  · simp only [hsticks, ↓reduceIte]
    rfl
  · simp only [hsticks, Bool.false_eq_true, ↓reduceIte]
    rfl

/-- Nothing happens unless the user is assigned. -/
theorem conclude_of_ne_assigned {e : Experiment} {feature : Option String} {decision : Decision}
    (h : ∀ variation bucket stored, decision ≠ .assigned variation bucket stored) (p : Progress) :
    s.conclude e feature decision p = (s.resultOf e feature decision, p) := by
  cases decision with
  | assigned variation bucket stored => exact absurd rfl (h variation bucket stored)
  | excluded => rfl
  | blocked => rfl
  | forced variation => rfl

/-- The answer is what the decision means, whatever happens besides. -/
theorem conclude_fst (s : Setting) (e : Experiment) (feature : Option String) (decision : Decision)
    (p : Progress) : (s.conclude e feature decision p).1 = s.resultOf e feature decision := by
  cases decision with
  | assigned variation bucket stored => rw [conclude_assigned]
  | excluded => rfl
  | blocked => rfl
  | forced variation => rfl

theorem inExperiment_assigned_iff {feature : Option String} {variation : Nat} {bucket : Float}
    {stored : Bool} :
    (s.resultOf e feature (.assigned variation bucket stored)).inExperiment = true ↔
      variation < e.variations.length := by
  by_cases hlt : variation < e.variations.length <;> simp [resultOf, Option.filter, hlt]

end Setting

/-! ### In a session -/

namespace Session

variable {s : Session} {e : Experiment}

theorem run_of_prerequisites_nil (h : e.prerequisites = []) :
    s.run e = s.compute fun setting =>
      setting.conclude e none (s.setting.decision s.documents e) := by
  rw [run, compute_eq, compute_eq]
  simp only [Setting.runExperiment, Setting.run_eq_bind, Eval.bind_apply,
    Setting.decide_of_prerequisites_nil h]

theorem answer_of_assigned (h : e.prerequisites = []) {variation : Nat} {bucket : Float}
    {stored : Bool}
    (hd : s.setting.decision s.documents e = .assigned variation bucket stored) :
    (s.run e).answer = s.setting.resultOf e none (.assigned variation bucket stored) := by
  rw [run_of_prerequisites_nil h, compute_eq, hd]
  exact Setting.conclude_fst _ _ _ _ _

/-- Whoever is placed by hash is assigned. -/
theorem exists_assigned (h : e.prerequisites = []) (hused : (s.run e).answer.hashUsed = true) :
    ∃ variation bucket stored,
      s.setting.decision s.documents e = .assigned variation bucket stored := by
  have hanswer : (s.run e).answer =
      s.setting.resultOf e none (s.setting.decision s.documents e) := by
    rw [run_of_prerequisites_nil h]
    exact Setting.conclude_fst _ _ _ _ _
  rw [hanswer] at hused
  cases hd : s.setting.decision s.documents e with
  | assigned variation bucket stored => exact ⟨variation, bucket, stored, rfl⟩
  | excluded => rw [hd] at hused; cases hused
  | blocked => rw [hd] at hused; cases hused
  | forced variation => rw [hd] at hused; cases hused

end Session
end FeatureFlags
