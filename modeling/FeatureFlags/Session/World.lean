/-
# Sessions that share

Several evaluators may read from one store, several users may be served by one
evaluator, and all of them that store assignments share one sticky service. A client
is an evaluator with one user of its own.

Key definitions:
* `World`: all stores, evaluators and users.
* `World.setConfiguration`, `World.updateConfiguration`, `World.saveDocument`: changes
  made from outside of any session.
* `World.session?`, `World.put`: a session of the world, and the world with it
  changed.
* `World.perform`: a command at one seat.

Key theorems:
* `World.session?_put`: a session that has been put is found again.
-/
import FeatureFlags.Session.Basic

namespace FeatureFlags

/-- Options and tracker, and which store the configuration is in. -/
structure Evaluator where
  store : Nat
  options : EvalOptions
  tracker : Tracker

/-- A profile and the sticky documents at hand. -/
structure User where
  profile : Profile
  documents : StickyDocuments

/-- All stores, evaluators and users, and the sticky service. -/
structure World where
  stores : List (Option Configuration)
  evaluators : List Evaluator
  users : List User
  service : StickyDocuments

/-- Which evaluator a command goes to, and for which user. -/
structure Seat where
  evaluator : Nat
  user : Nat
deriving DecidableEq, Repr

namespace World

/-- The configuration in a store, none until one is set. -/
def configuration? (w : World) (store : Nat) : Option Configuration := w.stores[store]?.join

/-- Replaces the configuration in a store. -/
def setConfiguration (w : World) (store : Nat) (configuration : Configuration) : World :=
  { w with stores := w.stores.set store (some configuration) }

/-- Replaces the configuration in a store by one made from it, or from the empty one if
none has been set. -/
def updateConfiguration (w : World) (store : Nat) (f : Configuration → Configuration) : World :=
  w.setConfiguration store (f ((w.configuration? store).getD .empty))

/-- Stores a document in the sticky service. -/
def saveDocument (w : World) (doc : StickyDocument) : World :=
  { w with service := w.service.save doc }

/-- The session at a seat, if there is an evaluator and a user. -/
def session? (w : World) (seat : Seat) : Option Session := do
  let evaluator ← w.evaluators[seat.evaluator]?
  let user ← w.users[seat.user]?
  return {
    configuration := w.configuration? evaluator.store
    service := w.service
    options := evaluator.options
    tracker := evaluator.tracker
    profile := user.profile
    documents := user.documents }

/-- The world after the session at a seat has become another one. -/
def put (w : World) (seat : Seat) (s : Session) : World :=
  match w.evaluators[seat.evaluator]? with
  | none => w
  | some evaluator =>
    { stores := w.stores.set evaluator.store s.configuration
      evaluators := w.evaluators.set seat.evaluator
        { evaluator with options := s.options, tracker := s.tracker }
      users := w.users.set seat.user ⟨s.profile, s.documents⟩
      service := s.service }

/-- The session that has been put is found again. Its evaluator must have a store. -/
theorem session?_put {w : World} {seat : Seat} {evaluator : Evaluator}
    (hevaluator : w.evaluators[seat.evaluator]? = some evaluator)
    (hstore : evaluator.store < w.stores.length) (huser : seat.user < w.users.length)
    (s : Session) : (w.put seat s).session? seat = some s := by
  obtain ⟨hbound, rfl⟩ := List.getElem?_eq_some_iff.mp hevaluator
  simp [put, session?, configuration?, hbound, huser, List.getElem?_set_self hstore]

/-- What the session at a seat does, in the world. -/
def within {α : Type} (w : World) (seat : Seat) (f : Session → Outcome α) :
    Option (Outcome α World) := do
  let s ← w.session? seat
  let o := f s
  return { answer := o.answer, events := o.events, next := w.put seat o.next }

/-- Carries out a command at a seat. -/
def perform (w : World) (seat : Seat) (command : Command) : Option (Outcome Reply World) :=
  w.within seat (·.perform command)

/-- The world with one more evaluator and one more user, a client if they belong
together. The documents of the user are loaded. -/
def addClient (w : World) (evaluator : Evaluator) (profile : Profile) : World :=
  let seat : Seat := ⟨w.evaluators.length, w.users.length⟩
  let w : World := { w with
    evaluators := w.evaluators ++ [evaluator]
    users := w.users ++ [⟨profile, .empty⟩] }
  match w.session? seat with
  | some s => w.put seat s.refresh
  | none => w

end World
end FeatureFlags
