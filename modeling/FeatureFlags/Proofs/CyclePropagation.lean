/-
# A cycle that is met reaches the caller

A feature that is met again while it is being evaluated comes to a cycle. Then the one that
asked for it comes to a cycle as well, and so on up to the one that was asked for from outside
(`Session.cycle_reaches_caller`). In between nothing else happens: no other prerequisite is
evaluated, no rule is tried, and nobody is assigned to anything.

An evaluation starts with no cycle met (`Progress.Calm`). From there each part of it ends in
one of two ways (`Eval.Catches`): still with no cycle met, and its answer is another one; or a
cycle was met, and all that has happened since are features that came to it
(`Progress.Caught`). In the second case the answer says so, and every part that goes on from
such an answer hands it on (`Eval.PassesOn`). The experiment of a rule would not, because users
are only kept out of an experiment whose prerequisites come to a cycle; but it has no
prerequisites, and so it meets none.

Key definitions: `Progress.Calm`, `Progress.Caught`, `Eval.Catches`, `Eval.PassesOn`.
Key theorems: `Setting.catches_evaluate`, `Session.cycle_reaches_caller`.
-/
import FeatureFlags.Proofs.CycleDetection

namespace FeatureFlags

/-! ### Before a cycle is met, and after -/

namespace Progress

/-- No feature has come to a cycle so far. -/
def Calm (p : Progress) : Prop := ∀ event ∈ p.history, ¬ event.IsCyclic

/-- Some feature has come to a cycle, and since then nothing else has happened. -/
def Caught (p : Progress) : Prop :=
  ∃ since before, p.history = since ++ before ∧ since ≠ [] ∧
    (∀ event ∈ since, event.IsCyclic) ∧ ∀ event ∈ before, ¬ event.IsCyclic

/-- The first feature that comes to a cycle. -/
theorem Calm.caught {p : Progress} (h : p.Calm) {event : Event} (hevent : event.IsCyclic) :
    Caught { p with history := event :: p.history } := by
  refine ⟨[event], p.history, rfl, List.cons_ne_nil _ _, fun other hother => ?_, h⟩
  rw [List.mem_singleton.mp hother]
  exact hevent

/-- The next one after it. -/
theorem Caught.push {p : Progress} (h : p.Caught) {event : Event} (hevent : event.IsCyclic) :
    Caught { p with history := event :: p.history } := by
  obtain ⟨since, before, hhistory, -, hsince, hbefore⟩ := h
  have hcons : event :: p.history = (event :: since) ++ before := by rw [hhistory, List.cons_append]
  refine ⟨event :: since, before, hcons, List.cons_ne_nil _ _, fun other hother => ?_, hbefore⟩
  rcases List.mem_cons.mp hother with rfl | hother
  · exact hevent
  · exact hsince other hother

end Progress

namespace Eval

variable {α β : Type} {cyclic : α → Prop} {cyclic' : β → Prop}

/-- Where no cycle has been met, the computation meets none, or else the answer is `cyclic` and
nothing has happened since. -/
def Catches (cyclic : α → Prop) (c : Eval α) : Prop :=
  ∀ p : Progress, p.Calm →
    (¬ cyclic (c p).1 ∧ (c p).2.Calm) ∨ (cyclic (c p).1 ∧ (c p).2.Caught)

/-- Where a cycle has been met, the answer is `cyclic` and nothing else happens. -/
def PassesOn (cyclic : α → Prop) (c : Eval α) : Prop :=
  ∀ p : Progress, p.Caught → cyclic (c p).1 ∧ (c p).2.Caught

theorem PassesOn.pure {a : α} (h : cyclic a) : PassesOn cyclic (pure a) := fun _ hp => ⟨h, hp⟩

theorem Catches.pure {a : α} (h : ¬ cyclic a) : Catches cyclic (pure a) :=
  fun _ hp => Or.inl ⟨h, hp⟩

theorem Catches.bind {c : Eval α} {f : α → Eval β} (hc : Catches cyclic c)
    (hcalm : ∀ a, ¬ cyclic a → Catches cyclic' (f a))
    (hcaught : ∀ a, cyclic a → PassesOn cyclic' (f a)) : Catches cyclic' (c >>= f) := by
  intro p hp
  rw [bind_apply]
  rcases hc p hp with ⟨hanswer, hnext⟩ | ⟨hanswer, hnext⟩
  · exact hcalm _ hanswer _ hnext
  · exact Or.inr (hcaught _ hanswer _ hnext)

/-- What keeps up with itself and meets no cycle has nothing to catch. -/
theorem Agree.catches {c : Eval α} (h : Agree (fun a => ¬ cyclic a) c c) : Catches cyclic c := by
  intro p hp
  have hmatches : p.Matches { p with history := p.history.map Event.withoutPath } :=
    ⟨rfl, rfl, rfl, hp⟩
  obtain ⟨-, hanswer, hend⟩ := h p _ hmatches
  exact Or.inl ⟨hanswer, hend.acyclic⟩

/-- The outcome of a feature says whether it came to a cycle, and so does the report. -/
theorem isCyclic_usage {path : List String} {feature : String} {result : FeatureResult}
    (h : result.source = .cyclicPrerequisite) : (Event.usage path feature result).IsCyclic :=
  ⟨feature, result, rfl, h⟩

theorem catches_reportUse (path : List String) (feature : String) (result : FeatureResult) :
    Catches (·.source = .cyclicPrerequisite) (reportUse path feature result) := by
  by_cases hcyclic : result.source = .cyclicPrerequisite
  · exact fun p hp => Or.inr ⟨hcyclic, hp.caught (isCyclic_usage hcyclic)⟩
  · intro p hp
    refine Or.inl ⟨hcyclic, fun event hevent => ?_⟩
    rcases List.mem_cons.mp hevent with rfl | hevent
    · rintro ⟨_, _, hsame, hsource⟩
      cases hsame
      exact hcyclic hsource
    · exact hp event hevent

theorem passesOn_reportUse (path : List String) (feature : String) {result : FeatureResult}
    (h : result.source = .cyclicPrerequisite) :
    PassesOn (·.source = .cyclicPrerequisite) (reportUse path feature result) :=
  fun _ hp => ⟨h, hp.push (isCyclic_usage h)⟩

/-- A prerequisite that comes to a cycle is the last one that is evaluated. -/
theorem catches_prerequisites (groups : SavedGroups) {evaluate : String → Eval FeatureResult} :
    ∀ {prerequisites : List Prerequisite},
      (∀ prerequisite ∈ prerequisites,
        Catches (·.source = .cyclicPrerequisite) (evaluate prerequisite.feature)) →
      Catches (· = .cyclic) (Eval.prerequisites groups evaluate prerequisites)
  | [], _ => .pure PrerequisiteOutcome.noConfusion
  | prerequisite :: rest, h => by
    refine .bind (h prerequisite List.mem_cons_self) (fun result hresult => ?_)
      (fun result hresult => ?_)
    · rw [if_neg hresult]
      split
      · exact catches_prerequisites groups fun other hother =>
          h other (List.mem_cons_of_mem _ hother)
      · exact .pure PrerequisiteOutcome.noConfusion
    · rw [if_pos hresult]
      exact .pure rfl

end Eval

/-! ### From the parts to the whole -/

namespace Setting

variable {s : Setting} {evaluate : String → Eval FeatureResult} {feature : String}

/-- A rule decides that the feature comes to a cycle. -/
abbrev ServesCycle (outcome : Option FeatureResult) : Prop :=
  ∃ result, outcome = some result ∧ result.source = .cyclicPrerequisite

/-- A rule whose prerequisites are met meets no cycle any more. -/
theorem catches_outcomeOf? (feature : String) (rule : FeatureRule) :
    Eval.Catches ServesCycle (s.outcomeOf? evaluate feature rule) := by
  have hnone : Eval.Agree (fun outcome => ∀ result, outcome = some result →
      result.source ≠ .cyclicPrerequisite)
      (s.outcomeOf? evaluate feature rule) (s.outcomeOf? evaluate feature rule) :=
    agree_outcomeOf? feature rule
  have hagree : Eval.Agree (fun outcome => ¬ ServesCycle outcome)
      (s.outcomeOf? evaluate feature rule) (s.outcomeOf? evaluate feature rule) := by
    intro p q hpq
    obtain ⟨hanswer, hsource, hend⟩ := hnone p q hpq
    exact ⟨hanswer, fun ⟨result, hsome, hcyclic⟩ => hsource result hsome hcyclic, hend⟩
  exact hagree.catches

theorem catches_serve? {rule : FeatureRule}
    (h : ∀ prerequisite ∈ rule.prerequisites,
      Eval.Catches (·.source = .cyclicPrerequisite) (evaluate prerequisite.feature)) :
    Eval.Catches ServesCycle (s.serve? evaluate feature rule) := by
  refine .bind (Eval.catches_prerequisites s.savedGroups h) (fun outcome houtcome => ?_)
    (fun outcome houtcome => ?_)
  · cases outcome with
    | cyclic => exact absurd rfl houtcome
    | failed gate =>
      cases gate with
      | true =>
        refine .pure ?_
        rintro ⟨_, ⟨⟩, hsource⟩
        cases hsource
      | false =>
        refine .pure ?_
        rintro ⟨_, ⟨⟩, -⟩
    | met => exact catches_outcomeOf? feature rule
  · cases houtcome
    exact .pure ⟨_, rfl, rfl⟩

/-- A rule that comes to a cycle is the last one that is tried. -/
theorem catches_serveFirst (feature : String) (defaultValue : Json) :
    ∀ {rules : List FeatureRule},
      (∀ rule ∈ rules, ∀ prerequisite ∈ rule.prerequisites,
        Eval.Catches (·.source = .cyclicPrerequisite) (evaluate prerequisite.feature)) →
      Eval.Catches (·.source = .cyclicPrerequisite)
        (s.serveFirst evaluate feature defaultValue rules)
  | [], _ => .pure FeatureSource.noConfusion
  | rule :: rest, h => by
    refine .bind (catches_serve? (h rule List.mem_cons_self)) (fun outcome houtcome => ?_)
      (fun outcome houtcome => ?_)
    · cases outcome with
      | some result => exact .pure fun hsource => houtcome ⟨result, rfl, hsource⟩
      | none =>
        exact catches_serveFirst feature defaultValue fun other hother =>
          h other (List.mem_cons_of_mem _ hother)
    · obtain ⟨result, rfl, hsource⟩ := houtcome
      exact .pure hsource

/-- **A feature that is evaluated comes to no cycle, or hands on the one that was met.** -/
theorem catches_evaluate (path : List String) (feature : String) (kind : Option ValueKind) :
    Eval.Catches (·.source = .cyclicPrerequisite) (s.evaluate path feature kind) := by
  -- the recursion of `evaluate`: only a feature on the path makes a new cycle
  induction path, feature, kind using evaluate.induct (s := s) with
  | case1 path feature kind hpath =>
    rw [evaluate_of_mem s kind hpath]
    exact Eval.catches_reportUse path feature _
  | case2 path feature kind hpath result hoverride =>
    rw [evaluate_of_not_mem s kind hpath, hoverride]
    exact Eval.catches_reportUse path feature _
  | case3 path feature kind hpath hoverride hunknown =>
    rw [evaluate_of_not_mem s kind hpath, hoverride, hunknown]
    exact Eval.catches_reportUse path feature _
  | case4 path feature kind hpath hoverride definition hdef ih =>
    rw [evaluate_of_not_mem s kind hpath, hoverride, hdef]
    refine .bind (catches_serveFirst feature definition.defaultValue ?_)
      (fun result _ => Eval.catches_reportUse path feature result)
      (fun result hresult => Eval.passesOn_reportUse path feature hresult)
    exact fun rule _ prerequisite _ => ih prerequisite.feature

/-- Each evaluation of a feature ends with its own report. -/
theorem exists_history_evaluate (path : List String) (feature : String) (kind : Option ValueKind)
    (p : Progress) : ∃ earlier, (s.evaluate path feature kind p).2.history =
      .usage path feature (s.evaluate path feature kind p).1 :: earlier := by
  by_cases hpath : feature ∈ path
  · rw [evaluate_of_mem s kind hpath]
    exact ⟨p.history, rfl⟩
  · rw [evaluate_of_not_mem s kind hpath]
    cases s.override? feature kind with
    | some result => exact ⟨p.history, rfl⟩
    | none =>
      cases s.configuration.feature? feature with
      | none => exact ⟨p.history, rfl⟩
      | some definition => exact ⟨_, rfl⟩

end Setting

namespace Session

/-- **A cycle that is met reaches the caller.** What happens in the course of evaluating a
feature falls into two parts: no feature comes to a cycle in the first one, and nothing but that
features come to a cycle happens in the second one. The last thing that happens is that the
feature itself is reported, so it comes to a cycle if any other one does. -/
theorem cycle_reaches_caller (s : Session) (feature : String) (kind : Option ValueKind) :
    ∃ before after, (s.evaluate feature kind).events = before ++ after ∧
      (∀ event ∈ before, ¬ event.IsCyclic) ∧ (∀ event ∈ after, event.IsCyclic) ∧
      (after ≠ [] ↔ (s.evaluate feature kind).answer.source = .cyclicPrerequisite) ∧
      (s.evaluate feature kind).events.getLast? =
        some (.usage [] feature (s.evaluate feature kind).answer) := by
  have hstart : Progress.Calm ⟨s.documents, s.tracker, []⟩ :=
    fun _ hevent => absurd hevent List.not_mem_nil
  have hlast : (s.evaluate feature kind).events.getLast? =
      some (.usage [] feature (s.evaluate feature kind).answer) := by
    obtain ⟨earlier, hhistory⟩ := Setting.exists_history_evaluate (s := s.setting) [] feature kind
      ⟨s.documents, s.tracker, []⟩
    have hevents := congrArg (fun history => history.reverse.getLast?) hhistory
    simp only [List.getLast?_reverse, List.head?_cons] at hevents
    exact (List.getLast?_reverse).trans hevents
  rcases Setting.catches_evaluate (s := s.setting) [] feature kind _ hstart with
    ⟨hanswer, hcalm⟩ | ⟨hanswer, since, before, hhistory, hne, hsince, hbefore⟩
  · refine ⟨(s.evaluate feature kind).events, [], (List.append_nil _).symm, ?_, ?_, ?_, hlast⟩
    · exact fun event hevent => hcalm event (List.mem_reverse.mp hevent)
    · exact fun event hevent => absurd hevent List.not_mem_nil
    · exact ⟨fun hne => absurd rfl hne, fun hcyclic => absurd hcyclic hanswer⟩
  · refine ⟨before.reverse, since.reverse, ?_, ?_, ?_, ?_, hlast⟩
    · have hevents := congrArg List.reverse hhistory
      rw [List.reverse_append] at hevents
      exact hevents
    · exact fun event hevent => hbefore event (List.mem_reverse.mp hevent)
    · exact fun event hevent => hsince event (List.mem_reverse.mp hevent)
    · exact iff_of_true (fun hnil => hne (List.reverse_eq_nil_iff.mp hnil)) hanswer

/-- A feature that requires a flag and then another feature, which requires itself by way of a
third one. -/
def ring : Session :=
  { diamond with
    configuration := some
      { features := .ofList
          [("top", .feature ⟨.null, [gate (.bool true) ["flag", "left", "flag"]]⟩),
           ("left", .feature ⟨.null, [gate (.bool true) ["right"], gate (.bool true) []]⟩),
           ("right", .feature ⟨.null, [gate (.bool true) ["left"]]⟩),
           ("flag", .feature ⟨.bool true, []⟩)]
        savedGroups := [] } }

/-- The cycle is met in the third evaluation, and the two others hand it on. -/
example : (ring.evaluate "top" none).events.filterMap
      (fun event => event.usage?.map fun (feature, result) => (feature, result.source)) =
    [("flag", .defaultValue), ("left", .cyclicPrerequisite), ("right", .cyclicPrerequisite),
      ("left", .cyclicPrerequisite), ("top", .cyclicPrerequisite)] := by
  decide +kernel

end Session
end FeatureFlags
