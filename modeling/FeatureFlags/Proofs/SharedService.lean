/-
# A service that is shared

Several users may keep their documents in one service. What a user hands over is made
from the user's own copy of the document, and takes the place of what the service has. The
copy may be older than that, or may never have been loaded. So an entry that was made
elsewhere can be lost (`exists_lost_entry`).

`entries_survive_iff` says when. An entry is lost by a command that saves its document
from a copy without it, and makes no such entry itself, and in no other way, whatever the
users, evaluators and stores of a world do in whatever order. And if an entry changes, then a
command has assigned the user under its key, or had a copy with another value.

The argument is about one step: after a command that saves a document, the service has
the same document as the user (`perform_cases`), and a user's documents only grow
(`Setting.Grown`).

Key definitions: `World.Action`, `World.after`, `World.Drops`, `World.Replaces`.
Key theorems: `Session.perform_settles_or_moves`, `Session.perform_cases`,
`World.entries_survive_iff`.
-/
import FeatureFlags.Proofs.Documents
import FeatureFlags.Session.World

namespace FeatureFlags

/-! ### One command -/

namespace Session

/-- The experiments that a command may run. -/
def Runs (s : Session) : Command → Experiment → Prop
  | .run e, other => other = e ∨ s.setting.Offers other
  | .evaluate _ _, other => s.setting.Offers other
  | _, _ => False

variable {s : Session} {command : Command} {who : Identity} {key variation : String}

theorem service_refresh (s : Session) : s.refresh.service = s.service := by
  unfold refresh
  split <;> rfl

theorem options_refresh (s : Session) : s.refresh.options = s.options := by
  unfold refresh
  split <;> rfl

/-- A change of the session that is no evaluation. Either documents, attributes and features stay
as they are, or the documents are loaded at the end. -/
inductive Settles (s : Session) : Session → Prop where
  | kept {next : Session} (hservice : next.service = s.service)
    (hoptions : next.options = s.options) (hdocuments : next.documents = s.documents)
    (hattributes : next.profile.attributes = s.profile.attributes)
    (hidentifiers : next.current.identifiers = s.current.identifiers) : Settles s next
  | loaded {before : Session} (hservice : before.service = s.service)
    (hoptions : before.options = s.options) (hdocuments : before.documents = s.documents) :
    Settles s before.refresh

theorem settles_self (s : Session) : s.Settles s := .kept rfl rfl rfl rfl rfl

theorem Settles.service_eq {next : Session} (h : s.Settles next) : next.service = s.service := by
  cases h with
  | kept hservice => exact hservice
  | loaded hservice => rw [service_refresh, hservice]

theorem Settles.options_eq {next : Session} (h : s.Settles next) : next.options = s.options := by
  cases h with
  | kept _ hoptions => exact hoptions
  | loaded _ hoptions => rw [options_refresh, hoptions]

/-- A change for which something may be missing saves nothing. -/
theorem settle_bind {α : Type} (r : Except FlagError α) {change : α → Session}
    (h : ∀ a, s.Settles (change a)) :
    (s.settle (r >>= fun a => pure (change a))).handed = [] ∧
      s.Settles (s.settle (r >>= fun a => pure (change a))).next := by
  cases r with
  | ok a => exact ⟨rfl, h a⟩
  | error error => exact ⟨rfl, settles_self s⟩

/-- **A command settles a change and saves nothing, or it is a computation that takes steps.** -/
theorem perform_settles_or_moves (s : Session) (command : Command) :
    ((s.perform command).handed = [] ∧ s.Settles (s.perform command).next) ∨
    ∃ (α : Type) (computation : Setting → Eval α) (f : α → Reply),
      (computation s.setting).Moves (s.setting.Step (s.Runs command)) ∧
        s.perform command = (s.compute computation).map f := by
  cases command with
  | evaluate feature kind =>
    exact Or.inr ⟨_, fun setting => setting.evaluateFeature feature kind, .feature,
      Setting.moves_evaluateFeature (s := s.setting) feature kind, rfl⟩
  | run e =>
    exact Or.inr ⟨_, fun setting => setting.runExperiment e, .experiment,
      Setting.moves_runExperiment (s := s.setting) e, rfl⟩
  | setFeatures text => exact Or.inl (settle_bind _ fun _ => .loaded rfl rfl rfl)
  | setSavedGroups text => exact Or.inl (settle_bind _ fun _ => .kept rfl rfl rfl rfl rfl)
  | setPayload text => exact Or.inl (settle_bind _ fun _ => .loaded rfl rfl rfl)
  | setConfiguration configuration => exact Or.inl ⟨rfl, .loaded rfl rfl rfl⟩
  | setAttributes text => exact Or.inl (settle_bind _ fun _ => .loaded rfl rfl rfl)
  | setUrl text => exact Or.inl (settle_bind _ fun _ => .kept rfl rfl rfl rfl rfl)
  | forceVariation experiment variation => exact Or.inl ⟨rfl, .kept rfl rfl rfl rfl rfl⟩
  | forceValue feature value => exact Or.inl ⟨rfl, .kept rfl rfl rfl rfl rfl⟩
  | refresh => exact Or.inl ⟨rfl, .loaded rfl rfl rfl⟩

/-- **A command saves nothing, or it leaves the service with the documents it has saved.** -/
theorem perform_cases (s : Session) (command : Command) :
    ((s.perform command).handed = [] ∧ (s.perform command).next.service = s.service) ∨
    ∃ p, s.setting.Grown (s.Runs command) s.documents p ∧ (s.perform command).handed = p.saved ∧
      (s.perform command).next.service = p.saved.foldl StickyDocuments.save s.service := by
  rcases perform_settles_or_moves s command with
    ⟨hhanded, hsettles⟩ | ⟨α, computation, f, hmoves, heq⟩
  · exact Or.inl ⟨hhanded, hsettles.service_eq⟩
  · rw [heq]
    exact Or.inr ⟨_, Setting.grown_of_moves hmoves _ _, rfl, rfl⟩

/-- A command overwrites the document of `who` in the service with one that has no entry
under the key. -/
structure Drops (s : Session) (command : Command) (who : Identity) (key : String) : Prop where
  /-- The document is saved, -/
  saves : StickyDocuments.Holds (s.perform command).handed who
  /-- the copy that the user has had no such entry, -/
  stale : (s.documents.assignmentsOf who).find? key = none
  /-- and the command has made none. -/
  unassigned : ∀ doc ∈ (s.perform command).handed, doc.storageKey = who.storageKey →
    doc.assignments.find? key = none

/-- A command overwrites the document of `who` in the service with one that has the
variation under the key. -/
structure Replaces (s : Session) (command : Command) (who : Identity) (key variation : String) :
    Prop where
  saves : StickyDocuments.Holds (s.perform command).handed who
  /-- The copy that the user has had this entry, or the command has assigned the user. -/
  reason : (s.documents.assignmentsOf who).find? key = some variation ∨
    ∃ other, other.storageKey = who.storageKey ∧
      s.setting.Assigns (s.Runs command) other key variation

/-- A document that no saved one takes the place of is as before. -/
theorem assignmentsOf_of_not_saved
    (h : ¬ StickyDocuments.Holds (s.perform command).handed who) :
    (s.perform command).next.service.assignmentsOf who = s.service.assignmentsOf who := by
  rcases perform_cases s command with ⟨-, hsame⟩ | ⟨p, -, hhanded, hservice⟩
  · rw [hsame]
  · rw [hservice]
    exact StickyDocuments.assignmentsOf_foldl_save_of_not (hhanded ▸ h) s.service

/-- A document that is saved is in the service as the user has it after the command, and
as it was saved last. -/
theorem assignmentsOf_of_saved
    (h : StickyDocuments.Holds (s.perform command).handed who) :
    ∃ p, s.setting.Grown (s.Runs command) s.documents p ∧ (s.perform command).handed = p.saved ∧
      (s.perform command).next.service.assignmentsOf who = p.documents.assignmentsOf who ∧
      ∃ last ∈ p.saved, last.storageKey = who.storageKey ∧
        p.documents.assignmentsOf who = last.assignments := by
  rcases perform_cases s command with ⟨hnothing, -⟩ | ⟨p, hgrown, hhanded, hservice⟩
  · obtain ⟨doc, hdoc, -⟩ := h
    rw [hnothing] at hdoc
    cases hdoc
  · rw [hhanded] at h
    obtain ⟨last, hmem, hwho, hstored⟩ := StickyDocuments.exists_last h
    refine ⟨p, hgrown, hhanded, ?_, last, hmem, hwho, ?_⟩
    · rw [hservice, hgrown.stored, hstored, hstored]
    · rw [hgrown.stored, hstored]

/-- **An entry is lost by a command that drops it, and in no other way.** -/
theorem find?_perform_eq_none_iff
    (h : ((s.service.assignmentsOf who).find? key).isSome) :
    ((s.perform command).next.service.assignmentsOf who).find? key = none ↔
      s.Drops command who key := by
  constructor
  · intro hlost
    by_cases hsaves : StickyDocuments.Holds (s.perform command).handed who
    · obtain ⟨p, hgrown, hhanded, hsame, -⟩ := assignmentsOf_of_saved hsaves
      rw [hsame] at hlost
      refine ⟨hsaves, ?_, fun doc hdoc hwho => ?_⟩
      · rw [← Option.not_isSome_iff_eq_none]
        intro hcopy
        have hkept := hgrown.kept who key hcopy
        rw [hlost] at hkept
        cases hkept
      · rw [← Option.not_isSome_iff_eq_none]
        intro hentry
        have hkept := hgrown.handed doc (hhanded ▸ hdoc) who hwho key hentry
        rw [hlost] at hkept
        cases hkept
    · rw [assignmentsOf_of_not_saved hsaves] at hlost
      rw [hlost] at h
      cases h
  · rintro ⟨hsaves, hstale, hunassigned⟩
    obtain ⟨p, -, hhanded, hsame, last, hmem, hwho, hlast⟩ := assignmentsOf_of_saved hsaves
    rw [hsame, hlast]
    exact hunassigned last (hhanded ▸ hmem) hwho

/-- An entry that is there after a command was there before, or replaces another one. -/
theorem find?_perform_eq_some
    (h : ((s.perform command).next.service.assignmentsOf who).find? key = some variation) :
    (s.service.assignmentsOf who).find? key = some variation ∨
      s.Replaces command who key variation := by
  by_cases hsaves : StickyDocuments.Holds (s.perform command).handed who
  · obtain ⟨p, hgrown, -, hsame, -⟩ := assignmentsOf_of_saved hsaves
    rw [hsame] at h
    exact Or.inr ⟨hsaves, hgrown.assigned who key variation h⟩
  · rw [assignmentsOf_of_not_saved hsaves] at h
    exact Or.inl h

end Session

/-! ### A world in the course of time -/

namespace World

/-- What can happen in a world. -/
inductive Action where
  /-- A user gives a command to an evaluator. -/
  | command (seat : Seat) (command : Command)
  /-- A user is replaced by another one, with whatever documents. -/
  | setUser (index : Nat) (user : User)
  /-- The configuration in a store is replaced from outside. -/
  | configure (store : Nat) (configuration : Configuration)
  /-- An evaluator and a user are added. -/
  | join (evaluator : Evaluator) (profile : Profile)

/-- The world after something has happened. A command at a seat that is not there does
nothing. -/
def act (w : World) : Action → World
  | .command seat command => ((w.perform seat command).map Outcome.next).getD w
  | .setUser index user => { w with users := w.users.set index user }
  | .configure store configuration => w.setConfiguration store configuration
  | .join evaluator profile => w.addClient evaluator profile

/-- The world after several things have happened. -/
def after (w : World) (actions : List Action) : World := actions.foldl act w

/-- What the service has for an identity under a key. -/
def stored? (w : World) (who : Identity) (key : String) : Option String :=
  (w.service.assignmentsOf who).find? key

/-- Who is given a command, and which one. -/
def turn? (w : World) : Action → Option (Session × Command)
  | .command seat command => (w.session? seat).map fun s => (s, command)
  | _ => none

/-- Something happens that overwrites a document in the service with one that has no entry
under the key. -/
def Drops (w : World) (a : Action) (who : Identity) (key : String) : Prop :=
  ∃ s command, w.turn? a = some (s, command) ∧ s.Drops command who key

/-- Something happens that overwrites a document in the service with one that has the
variation under the key. -/
def Replaces (w : World) (a : Action) (who : Identity) (key variation : String) : Prop :=
  ∃ s command, w.turn? a = some (s, command) ∧ s.Replaces command who key variation

variable {w : World} {a : Action} {who : Identity} {key variation : String}

theorem service_put {seat : Seat} {s : Session} (h : w.session? seat = some s) (next : Session) :
    (w.put seat next).service = next.service := by
  cases hevaluator : w.evaluators[seat.evaluator]? with
  | none => simp [session?, hevaluator] at h
  | some evaluator => simp [put, hevaluator]

theorem service_of_session {seat : Seat} {s : Session} (h : w.session? seat = some s) :
    s.service = w.service := by
  unfold session? at h
  obtain ⟨evaluator, -, h⟩ := Option.bind_eq_some_iff.mp h
  obtain ⟨user, -, h⟩ := Option.bind_eq_some_iff.mp h
  cases h
  rfl

theorem service_addClient (w : World) (evaluator : Evaluator) (profile : Profile) :
    (w.addClient evaluator profile).service = w.service := by
  unfold addClient
  simp only
  split
  · rename_i s hs
    rw [service_put hs, Session.service_refresh, service_of_session hs]
  · rfl

/-- Only a command changes the service. -/
theorem service_act (w : World) (a : Action) :
    (w.turn? a = none ∧ (w.act a).service = w.service) ∨
    ∃ s command, w.turn? a = some (s, command) ∧ s.service = w.service ∧
      (w.act a).service = (s.perform command).next.service := by
  cases a with
  | command seat command =>
    cases hs : w.session? seat with
    | none =>
      refine Or.inl ⟨by rw [turn?, hs]; rfl, ?_⟩
      simp [act, perform, within, hs]
    | some s =>
      refine Or.inr ⟨s, command, by rw [turn?, hs]; rfl, service_of_session hs, ?_⟩
      have hact : w.act (.command seat command) = w.put seat (s.perform command).next := by
        simp [act, perform, within, hs]
      rw [hact, service_put hs]
  | setUser index user => exact Or.inl ⟨rfl, rfl⟩
  | configure store configuration => exact Or.inl ⟨rfl, rfl⟩
  | join evaluator profile => exact Or.inl ⟨rfl, service_addClient w evaluator profile⟩

/-- What happens in one step loses an entry exactly if it drops it. -/
theorem stored?_act_eq_none_iff (h : (w.stored? who key).isSome) :
    (w.act a).stored? who key = none ↔ w.Drops a who key := by
  rcases service_act w a with ⟨hturn, hservice⟩ | ⟨s, command, hturn, hsame, hservice⟩
  · have hno : ¬ w.Drops a who key := by
      rintro ⟨s, command, hsome, -⟩
      rw [hturn] at hsome
      cases hsome
    rw [iff_false_right hno, stored?, hservice]
    exact Option.isSome_iff_ne_none.mp h
  · have hiff : w.Drops a who key ↔ s.Drops command who key := by
      constructor
      · rintro ⟨s', command', hturn', hdrops⟩
        rw [hturn] at hturn'
        cases hturn'
        exact hdrops
      · exact fun hdrops => ⟨s, command, hturn, hdrops⟩
    rw [stored?, hservice, hiff]
    rw [stored?, ← hsame] at h
    exact Session.find?_perform_eq_none_iff h

theorem stored?_act_eq_some (h : (w.act a).stored? who key = some variation) :
    w.stored? who key = some variation ∨ w.Replaces a who key variation := by
  rcases service_act w a with ⟨-, hservice⟩ | ⟨s, command, hturn, hsame, hservice⟩
  · rw [stored?, hservice] at h
    exact Or.inl h
  · rw [stored?, hservice] at h
    rcases Session.find?_perform_eq_some h with h | h
    · rw [hsame] at h
      exact Or.inl h
    · exact Or.inr ⟨s, command, hturn, h⟩

theorem after_take_succ {actions : List Action} {n : Nat} (h : actions[n]? = some a) :
    w.after (actions.take (n + 1)) = (w.after (actions.take n)).act a := by
  rw [List.take_add_one, h, after, List.foldl_append]
  rfl

/-- **An entry of the service survives exactly as long as nothing happens that drops it,
and changes only when something replaces it.** -/
theorem entries_survive_iff (w : World) (actions : List Action) (who : Identity) (key : String)
    (h : (w.stored? who key).isSome) :
    ((∀ n, ((w.after (actions.take n)).stored? who key).isSome) ↔
      ∀ n a, actions[n]? = some a → ¬ (w.after (actions.take n)).Drops a who key) ∧
    ∀ n a variation, actions[n]? = some a →
      (w.after (actions.take (n + 1))).stored? who key = some variation →
        (w.after (actions.take n)).stored? who key = some variation ∨
          (w.after (actions.take n)).Replaces a who key variation := by
  refine ⟨⟨fun hsurvives n a ha hdrops => ?_, fun hno n => ?_⟩, fun n a variation ha hsome => ?_⟩
  · have hlost := (stored?_act_eq_none_iff (hsurvives n)).mpr hdrops
    have hthere := hsurvives (n + 1)
    rw [after_take_succ ha, hlost] at hthere
    cases hthere
  · -- an entry that is there after `n` things is there after one more
    induction n with
    | zero => exact h
    | succ n ih =>
      cases ha : actions[n]? with
      | none =>
        rw [List.take_add_one, ha, Option.toList_none, List.append_nil]
        exact ih
      | some a =>
        rw [after_take_succ ha, Option.isSome_iff_ne_none]
        exact fun hlost => hno n a ha ((stored?_act_eq_none_iff ih).mp hlost)
  · rw [after_take_succ ha] at hsome
    exact stored?_act_eq_some hsome

/-- Two users with the same id, an evaluator for both, and a service that has nothing yet. -/
def twins : World :=
  let twin : User := ⟨{ attributes := [("id", .str "1")] }, .empty⟩
  { stores := [none]
    evaluators := [⟨0, { sticky := true }, .ofCapacity Tracker.defaultCapacity⟩]
    users := [twin, twin]
    service := .empty }

/-- A user runs an experiment with two variations. -/
def runs (user : Nat) (key : String) : Action :=
  .command ⟨0, user⟩ (.run (.basic key [.str "x", .str "y"]))

/-- The first user is assigned in one experiment, and then the second one in another. -/
theorem twins_run :
    ((twins.after [runs 0 "a"]).stored? ⟨"id", "1"⟩ "a__0").isSome ∧
      (((twins.after [runs 0 "a"]).after [runs 1 "b"]).stored? ⟨"id", "1"⟩ "a__0") = none := by
  decide +kernel

/-- The copy of the second user has not got the assignment of the first one. -/
theorem twins_drops :
    ((twins.after [runs 0 "a"]).stored? ⟨"id", "1"⟩ "a__0").isSome ∧
      ∃ n a, [runs 1 "b"][n]? = some a ∧
        ((twins.after [runs 0 "a"]).after ([runs 1 "b"].take n)).Drops a ⟨"id", "1"⟩ "a__0" := by
  obtain ⟨hthere, hlost⟩ := twins_run
  refine ⟨hthere, Classical.byContradiction fun hno => ?_⟩
  have hiff := (entries_survive_iff (twins.after [runs 0 "a"]) [runs 1 "b"] _ _ hthere).1
  have hsurvives := hiff.mpr fun n a ha hdrops => hno ⟨n, a, ha, hdrops⟩
  have hafter := hsurvives 1
  rw [List.take_of_length_le (Nat.le_refl 1), hlost] at hafter
  cases hafter

/-- An entry of the service may be lost: two users who have loaded nothing, and a service
that had nothing, are enough. -/
theorem exists_lost_entry :
    ∃ (w : World) (first second : Seat) (e e' : Experiment) (who : Identity) (key : String),
      w.service = .empty ∧ (∀ user ∈ w.users, user.documents = .empty) ∧
        ((w.after [.command first (.run e)]).stored? who key).isSome ∧
          (w.after [.command first (.run e), .command second (.run e')]).stored? who key = none :=
  ⟨twins, ⟨0, 0⟩, ⟨0, 1⟩, .basic "a" [.str "x", .str "y"], .basic "b" [.str "x", .str "y"],
    ⟨"id", "1"⟩, "a__0", rfl, by decide, twins_run⟩

end World
end FeatureFlags
