/-
# Evaluation with a stack

`Setting.evaluate` is told which features are being evaluated. An evaluator may as well keep
them on a stack of its own: it pushes a feature before it tries the rules, and takes it off
when they are done, in whatever way they were left. `Setting.walk` is this evaluator. It is
given the depth to which evaluations may be nested, and gives up when that is exceeded; and it
notes of each evaluation of a feature how the stack was before it and after it.

With room for one more than there are readable features it never gives up, it comes to the same
as `Setting.evaluate`, and each evaluation leaves the stack as it was (`walk_eq_evaluate`). That
it notes every evaluation is seen from the reports: the noted ones are those that are reported
(`Progress.entries`).

The features on the stack are readable, and none of them is there twice, so with each one that
is pushed there are fewer left to push (`length_pending_cons_lt`). What is entered beyond them
is on the stack already or has no rules, and asks for nothing.

Key definitions: `Walk`, `Setting.walk`, `Setting.walkExperiment`, `Walking.Follows`.
Key theorems: `Setting.follows_walk`, `Setting.walk_eq_evaluate`.
-/
import FeatureFlags.Proofs.Isolation

namespace FeatureFlags

/-! ### The evaluator -/

/-- An evaluation of a feature, with the stack before it and after it. -/
structure Visit where
  feature : String
  before : List String
  after : List String

/-- The state of an evaluation that keeps a stack. -/
structure Walk where
  progress : Progress
  /-- The features that are being evaluated, the innermost first. -/
  stack : List String
  /-- The evaluations of features so far, the latest first. -/
  visits : List Visit

/-- Computations that keep a stack. They have no result if evaluations are nested too deep. -/
abbrev Walking := StateT Walk Option

namespace Walking

variable {α β : Type}

/-- A computation that leaves the stack alone. -/
def ofEval (c : Eval α) : Walking α := fun w =>
  some ((c w.progress).1, { w with progress := (c w.progress).2 })

/-- Puts a feature on the stack, and takes it off when the computation is done. -/
def within (feature : String) (w : Walking α) : Walking α := do
  modify fun w => { w with stack := feature :: w.stack }
  let a ← w
  modify fun w => { w with stack := w.stack.erase feature }
  return a

/-- Notes that a feature was evaluated. -/
def note (feature : String) (before : List String) : Walking Unit := modify fun w =>
  { w with visits := ⟨feature, before, w.stack⟩ :: w.visits }

/-- Evaluates prerequisites in order. -/
def prerequisites (groups : SavedGroups) (walk : String → Walking FeatureResult) :
    List Prerequisite → Walking PrerequisiteOutcome
  | [] => return .met
  | p :: rest => do
    let result ← walk p.feature
    if result.source = .cyclicPrerequisite then return .cyclic
    else if p.accepts groups result then prerequisites groups walk rest
    else return .failed p.gate

end Walking

namespace Setting

/-- What a rule comes to. Once its prerequisites are met no feature is evaluated any more: the
experiment of a rule has no prerequisites. -/
def walkRule? (s : Setting) (walk : String → Walking FeatureResult) (feature : String)
    (rule : FeatureRule) : Walking (Option FeatureResult) := do
  match ← Walking.prerequisites s.savedGroups walk rule.prerequisites with
  | .cyclic => return some .cyclicPrerequisite
  | .failed true => return some .prerequisite
  | .failed false => return none
  | .met => .ofEval (s.outcomeOf? (fun _ => return .unknownFeature) feature rule)

/-- The outcome of the first rule that has one, or else of the value for everybody. -/
def walkRules (s : Setting) (walk : String → Walking FeatureResult) (feature : String)
    (defaultValue : Json) : List FeatureRule → Walking FeatureResult
  | [] => return .defaultValue defaultValue
  | rule :: rest => do
    match ← s.walkRule? walk feature rule with
    | some result => return result
    | none => walkRules s walk feature defaultValue rest

/-- What a feature comes to that is not being evaluated yet. -/
def walkBody (s : Setting) (walk : String → Walking FeatureResult) (feature : String)
    (kind : Option ValueKind) : Walking FeatureResult :=
  match s.override? feature kind with
  | some result => return result
  | none =>
    match s.configuration.feature? feature with
    | none => return .unknownFeature
    | some definition => s.walkRules walk feature definition.defaultValue definition.rules

/-- Evaluates a feature, if there is room for one more evaluation. -/
def walk (s : Setting) : Nat → String → Option ValueKind → Walking FeatureResult
  | 0, _, _ => failure
  | room + 1, feature, kind => do
    let before := (← get).stack
    let result ← (if feature ∈ before then pure .cyclicPrerequisite
      else .within feature (s.walkBody (fun other => s.walk room other none) feature kind))
    Walking.note feature before
    .ofEval (Eval.reportUse before feature result)

/-- Whether an experiment is for the user: filters, condition, prerequisites. -/
def walkTarget (s : Setting) (walk : String → Walking FeatureResult) (e : Experiment) :
    Walking Bool :=
  if e.admits (s.identityFor e) s.attributes ∧ e.conditionHolds s.attributes s.savedGroups then do
    let outcome ← Walking.prerequisites s.savedGroups walk e.prerequisites
    return Decidable.decide (outcome = .met)
  else return false

/-- Whether and how the user takes part in an experiment, if stored assignments say as much. -/
def walkPlace (s : Setting) (walk : String → Walking FeatureResult) (e : Experiment)
    (sticky : StickyVariation) : Walking Decision := do
  if sticky.variation?.isSome then return s.place e sticky
  else if ← s.walkTarget walk e then return s.place e sticky
  else return .excluded

/-- Whether and how the user takes part in an experiment. -/
def walkDecide (s : Setting) (walk : String → Walking FeatureResult) (e : Experiment) :
    Walking Decision :=
  match s.early? e with
  | some decision => return decision
  | none => do s.walkPlace walk e (s.stickyVariation e (← get).progress.documents)

/-- Runs an experiment that belongs to no feature, with room for some nested evaluations. -/
def walkExperiment (s : Setting) (room : Nat) (e : Experiment) : Walking ExperimentResult := do
  let decision ← s.walkDecide (fun feature => s.walk room feature none) e
  .ofEval (s.conclude e none decision)

end Setting

/-! ### Reports -/

/-- The feature whose evaluation is reported, and those that it was evaluated for. -/
def Event.entry? : Event → Option (List String × String)
  | usage path feature _ => some (path, feature)
  | _ => none

/-- The evaluations that have been reported, the latest first. -/
def Progress.entries (p : Progress) : List (List String × String) :=
  p.history.filterMap Event.entry?

namespace Eval

variable {α β : Type}

/-- No evaluation of a feature is reported. -/
def Silent (c : Eval α) : Prop := ∀ p, (c p).2.entries = p.entries

theorem Silent.pure (a : α) : Silent (pure a : Eval α) := fun _ => rfl

theorem Silent.bind {c : Eval α} {f : α → Eval β} (hc : Silent c) (hf : ∀ a, Silent (f a)) :
    Silent (c >>= f) :=
  fun p => (hf (c p).1 (c p).2).trans (hc p)

theorem silent_track (e : Experiment) (result : ExperimentResult) : Silent (track e result) := by
  intro p
  simp only [track, modify_apply]
  split <;> rfl

theorem silent_trackAll : ∀ exposures : List TrackedExposure, Silent (trackAll exposures)
  | [] => .pure ()
  | exposure :: rest =>
    .bind (silent_track exposure.experiment exposure.result) fun _ => silent_trackAll rest

theorem silent_assign (who : Identity) (key variation : String) :
    Silent (assign who key variation) := by
  intro p
  simp only [assign, modify_apply]
  split <;> rfl

end Eval

namespace Setting

variable {s : Setting} {evaluate : String → Eval FeatureResult}

theorem silent_conclude (e : Experiment) (feature : Option String) (decision : Decision) :
    Eval.Silent (s.conclude e feature decision) := by
  cases decision with
  | excluded => exact .pure _
  | blocked => exact .pure _
  | forced variation => exact .pure _
  | assigned variation bucket stored =>
    intro p
    rw [conclude_assigned, Eval.silent_track]
    unfold keep
    split
    · exact Eval.silent_assign _ _ _ p
    · rfl

/-- A rule whose prerequisites are met evaluates no further feature. -/
theorem silent_outcomeOf? (feature : String) (rule : FeatureRule) :
    Eval.Silent (s.outcomeOf? evaluate feature rule) := by
  unfold outcomeOf?
  split
  · exact .pure _
  · split
    · split
      · exact .bind (Eval.silent_trackAll rule.tracks) fun _ => .pure _
      · exact .pure _
    · split
      · exact .pure _
      · rename_i e he
        have hnil := FeatureRule.prerequisites_experiment? he
        have hrun : Eval.Silent (s.run evaluate e (some feature)) := fun p => by
          rw [run_eq_bind, Eval.bind_apply, decide_of_prerequisites_nil hnil]
          exact silent_conclude e (some feature) _ p
        refine .bind hrun fun result => ?_
        split <;> exact .pure _

end Setting

/-! ### A stack that is kept -/

/-- What is reported of an evaluation: the feature, and those on the stack. -/
def Visit.entry (visit : Visit) : List String × String := (visit.before, visit.feature)

/-- The evaluation left the stack as it was, and no more than `limit` evaluations were nested,
this one and those on the stack. -/
structure Visit.Sound (limit : Nat) (visit : Visit) : Prop where
  restored : visit.after = visit.before
  nested : visit.before.length + 1 ≤ limit

namespace Walking

variable {α β : Type} {limit : Nat} {path : List String}

/-- Where the stack is `path`, the computation comes to the same as one that keeps no stack,
and leaves the stack as it was; and so does each evaluation of a feature that is reported on the
way. -/
def Follows (limit : Nat) (path : List String) (w : Walking α) (c : Eval α) : Prop :=
  ∀ p visits, ∃ more : List Visit,
    w ⟨p, path, visits⟩ = some ((c p).1, ⟨(c p).2, path, more ++ visits⟩) ∧
      (c p).2.entries = more.map Visit.entry ++ p.entries ∧
      ∀ visit ∈ more, visit.Sound limit

theorem Follows.pure (a : α) : Follows limit path (pure a) (pure a) :=
  fun _ _ => ⟨[], rfl, rfl, fun _ h => absurd h List.not_mem_nil⟩

theorem Follows.ofEval {c : Eval α} (hc : c.Silent) : Follows limit path (.ofEval c) c :=
  fun p _ => ⟨[], rfl, hc p, fun _ h => absurd h List.not_mem_nil⟩

theorem bind_eq {w : Walking α} {f : α → Walking β} {a : α} {x y : Walk}
    (h : w x = some (a, y)) : (w >>= f) x = f a y := by
  show (w x).bind (fun r => f r.1 r.2) = f a y
  rw [h]
  rfl

theorem Follows.bind {w : Walking α} {c : Eval α} {f : α → Walking β} {g : α → Eval β}
    (hw : Follows limit path w c) (hf : ∀ a, Follows limit path (f a) (g a)) :
    Follows limit path (w >>= f) (c >>= g) := by
  intro p visits
  obtain ⟨first, hfirst, hentries, hsound⟩ := hw p visits
  obtain ⟨second, hsecond, hentries', hsound'⟩ := hf (c p).1 (c p).2 (first ++ visits)
  refine ⟨second ++ first, ?_, ?_, fun visit hvisit => ?_⟩
  · rw [bind_eq hfirst, hsecond, Eval.bind_apply, List.append_assoc]
  · rw [Eval.bind_apply, hentries', hentries, List.map_append, List.append_assoc]
  · rcases List.mem_append.mp hvisit with hvisit | hvisit
    · exact hsound' visit hvisit
    · exact hsound visit hvisit

/-- What is put on the stack is taken off again, if in between the stack is kept. -/
theorem Follows.within {feature : String} {w : Walking α} {c : Eval α}
    (h : Follows limit (feature :: path) w c) : Follows limit path (.within feature w) c := by
  intro p visits
  obtain ⟨more, heq, hrest⟩ := h p visits
  refine ⟨more, ?_, hrest⟩
  unfold Walking.within
  rw [bind_eq (a := ()) (y := ⟨p, feature :: path, visits⟩) rfl, bind_eq heq,
    bind_eq (a := ()) (y := ⟨(c p).2, (feature :: path).erase feature, more ++ visits⟩) rfl,
    List.erase_cons_head]
  rfl

theorem follows_note (feature : String) (result : FeatureResult) (hlimit : path.length < limit) :
    Follows limit path (note feature path >>= fun _ => .ofEval (Eval.reportUse path feature result))
      (Eval.reportUse path feature result) :=
  fun _ _ => ⟨[⟨feature, path, path⟩], rfl, rfl, fun _ hvisit =>
    List.mem_singleton.mp hvisit ▸ ⟨rfl, hlimit⟩⟩

theorem follows_prerequisites (groups : SavedGroups) {walk : String → Walking FeatureResult}
    {evaluate : String → Eval FeatureResult} : ∀ {prerequisites : List Prerequisite},
      (∀ prerequisite ∈ prerequisites,
        Follows limit path (walk prerequisite.feature) (evaluate prerequisite.feature)) →
      Follows limit path (Walking.prerequisites groups walk prerequisites)
        (Eval.prerequisites groups evaluate prerequisites)
  | [], _ => .pure _
  | prerequisite :: rest, h => by
    refine .bind (h prerequisite List.mem_cons_self) fun result => ?_
    split
    · exact .pure _
    · split
      · exact follows_prerequisites groups fun other hother =>
          h other (List.mem_cons_of_mem prerequisite hother)
      · exact .pure _

end Walking

/-- The features whose definitions could be read. -/
def Configuration.readable (configuration : Configuration) : List String :=
  configuration.features.keys.filter fun key => (configuration.feature? key).isSome

namespace Setting

open Walking

variable {s : Setting} {limit : Nat} {path : List String}
  {walk : String → Walking FeatureResult} {evaluate : String → Eval FeatureResult}

theorem pending_nil (s : Setting) : s.pending [] = s.configuration.readable := by
  simp [pending, Configuration.readable]

theorem follows_walkRules (feature : String) (defaultValue : Json) :
    ∀ {rules : List FeatureRule},
      (∀ rule ∈ rules, ∀ prerequisite ∈ rule.prerequisites,
        Follows limit path (walk prerequisite.feature) (evaluate prerequisite.feature)) →
      Follows limit path (s.walkRules walk feature defaultValue rules)
        (s.serveFirst evaluate feature defaultValue rules)
  | [], _ => .pure _
  | rule :: rest, h => by
    have hrule : Follows limit path (s.walkRule? walk feature rule)
        (s.serve? evaluate feature rule) := by
      refine .bind (follows_prerequisites _ (h rule List.mem_cons_self)) fun outcome => ?_
      cases outcome with
      | cyclic => exact .pure _
      | failed gate => cases gate <;> exact .pure _
      | met =>
        have hsame : s.outcomeOf? evaluate feature rule =
            s.outcomeOf? (fun _ => return .unknownFeature) feature rule :=
          outcomeOf?_congr ⟨rfl, rfl, rfl, rfl, rfl⟩ (fun _ _ => rfl) _ _ feature
        simp only [hsame]
        exact .ofEval (silent_outcomeOf? feature rule)
    refine .bind hrule fun outcome => ?_
    cases outcome with
    | some result => exact .pure _
    | none =>
      exact follows_walkRules feature defaultValue fun other hother =>
        h other (List.mem_cons_of_mem rule hother)

/-- A feature on the stack comes to a cycle, and another one to what it comes to on top of the
stack. -/
theorem follows_walk_succ {room : Nat} {feature : String} {kind : Option ValueKind}
    {c : Eval FeatureResult} (hlimit : path.length < limit)
    (h : Follows limit path (if feature ∈ path then pure .cyclicPrerequisite
      else .within feature (s.walkBody (fun other => s.walk room other none) feature kind)) c) :
    Follows limit path (s.walk (room + 1) feature kind) (c >>= Eval.reportUse path feature) :=
  fun p visits => h.bind (fun result => follows_note feature result hlimit) p visits

/-- **An evaluation that keeps a stack comes to the same**, if there is more room than there
are features that could be read and are not on the stack. -/
theorem follows_walk (path : List String) (feature : String) (kind : Option ValueKind)
    {room : Nat} (hroom : (s.pending path).length < room)
    (hlimit : path.length + (s.pending path).length < limit) :
    Follows limit path (s.walk room feature kind) (s.evaluate path feature kind) := by
  have hshort : path.length < limit := Nat.lt_of_le_of_lt (Nat.le_add_right _ _) hlimit
  -- the recursion of `evaluate`: where a feature is pushed, fewer are pending
  induction path, feature, kind using evaluate.induct (s := s) generalizing room with
  | case1 path feature kind hpath =>
    obtain ⟨room, rfl⟩ := Nat.exists_eq_add_one.mpr (Nat.zero_lt_of_lt hroom)
    rw [evaluate_of_mem s kind hpath]
    refine follows_walk_succ (c := pure _) hshort ?_
    rw [if_pos hpath]
    exact .pure _
  | case2 path feature kind hpath result hoverride =>
    obtain ⟨room, rfl⟩ := Nat.exists_eq_add_one.mpr (Nat.zero_lt_of_lt hroom)
    rw [evaluate_of_not_mem s kind hpath, hoverride]
    refine follows_walk_succ (c := pure _) hshort ?_
    rw [if_neg hpath, walkBody, hoverride]
    exact .within (.pure _)
  | case3 path feature kind hpath hoverride hunknown =>
    obtain ⟨room, rfl⟩ := Nat.exists_eq_add_one.mpr (Nat.zero_lt_of_lt hroom)
    rw [evaluate_of_not_mem s kind hpath, hoverride, hunknown]
    refine follows_walk_succ (c := pure _) hshort ?_
    rw [if_neg hpath, walkBody, hoverride, hunknown]
    exact .within (.pure _)
  | case4 path feature kind hpath hoverride definition hdef ih =>
    obtain ⟨room, rfl⟩ := Nat.exists_eq_add_one.mpr (Nat.zero_lt_of_lt hroom)
    have hless := length_pending_cons_lt hpath hdef
    rw [evaluate_of_not_mem s kind hpath, hoverride, hdef]
    refine follows_walk_succ hshort ?_
    rw [if_neg hpath, walkBody, hoverride, hdef]
    refine .within (follows_walkRules feature definition.defaultValue ?_)
    intro rule hrule prerequisite hprerequisite
    have hroom' : (s.pending (feature :: path)).length < room := by omega
    have hlimit' : (feature :: path).length + (s.pending (feature :: path)).length < limit := by
      simp only [List.length_cons]
      omega
    exact ih prerequisite.feature hroom' hlimit' (Nat.lt_of_le_of_lt (Nat.le_add_right _ _) hlimit')

theorem follows_walkTarget {e : Experiment}
    (h : ∀ feature, Follows limit path (walk feature) (evaluate feature)) :
    Follows limit path (s.walkTarget walk e) (s.isTarget evaluate e) := by
  unfold walkTarget isTarget
  split
  · exact .bind (follows_prerequisites _ fun prerequisite _ => h prerequisite.feature)
      fun _ => .pure _
  · exact .pure _

/-- An experiment evaluates its prerequisites on the stack that it finds. -/
theorem follows_walkDecide {e : Experiment}
    (h : ∀ feature, Follows limit path (walk feature) (evaluate feature)) :
    Follows limit path (s.walkDecide walk e) (s.decide evaluate e) := by
  unfold walkDecide Setting.decide
  cases s.early? e with
  | some early => exact .pure _
  | none =>
    have hplace : ∀ sticky : StickyVariation, Follows limit path (s.walkPlace walk e sticky)
        (if sticky.variation?.isSome then pure (s.place e sticky) else do
          if ← s.isTarget evaluate e then return s.place e sticky else return .excluded) := by
      intro sticky
      unfold walkPlace
      split
      · exact .pure _
      · refine .bind (follows_walkTarget h) fun target => ?_
        split <;> exact .pure _
    -- both look at the documents first, and these are the same
    exact fun p visits => hplace (s.stickyVariation e p.documents) p visits

/-- **Evaluation ends on every configuration, and keeps its stack.** With room for one more
evaluation than there are readable features, or for more than that, features and experiments
come to what they come to without a stack of their own. The stack is empty in the end, each
evaluation that is reported on the way has left it as it was, and there were never more nested
evaluations than readable features and one. -/
theorem walk_eq_evaluate (s : Setting) (spare : Nat) (p : Progress) :
    let limit := s.configuration.readable.length + 1
    (∀ feature kind, ∃ visits,
      s.walk (limit + spare) feature kind ⟨p, [], []⟩ =
          some ((s.evaluateFeature feature kind p).1,
            ⟨(s.evaluateFeature feature kind p).2, [], visits⟩) ∧
        (s.evaluateFeature feature kind p).2.entries = visits.map Visit.entry ++ p.entries ∧
        ∀ visit ∈ visits, visit.Sound limit) ∧
    ∀ e, ∃ visits,
      s.walkExperiment (limit + spare) e ⟨p, [], []⟩ =
          some ((s.runExperiment e p).1, ⟨(s.runExperiment e p).2, [], visits⟩) ∧
        (s.runExperiment e p).2.entries = visits.map Visit.entry ++ p.entries ∧
        ∀ visit ∈ visits, visit.Sound limit := by
  intro limit
  have hroom : (s.pending []).length < limit + spare := by
    rw [pending_nil]
    omega
  have hlimit : ([] : List String).length + (s.pending []).length < limit := by
    rw [pending_nil, List.length_nil]
    omega
  have hwalk := fun feature kind => follows_walk [] feature kind hroom hlimit
  refine ⟨fun feature kind => ?_, fun e => ?_⟩
  · obtain ⟨visits, heq, hrest⟩ := hwalk feature kind p []
    rw [List.append_nil] at heq
    exact ⟨visits, heq, hrest⟩
  · have hrun : Follows limit [] (s.walkExperiment (limit + spare) e) (s.runExperiment e) :=
      .bind (follows_walkDecide fun feature => hwalk feature none) fun decision =>
        .ofEval (silent_conclude e none decision)
    obtain ⟨visits, heq, hrest⟩ := hrun p []
    rw [List.append_nil] at heq
    exact ⟨visits, heq, hrest⟩

end Setting
end FeatureFlags
