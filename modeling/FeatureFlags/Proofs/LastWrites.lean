/-
# A client is what was written last

Clients that share a store and store no assignments are told to do all kinds of things, in any
order, and some of it fails. Still what a client answers is given by the features and saved
groups that any of the clients has written last, and by the attributes, the page and the forced
values that the client has been given itself (`World.answers_of_last_writes`). Everything else
that has been done does not matter, evaluations and failures in particular.

What a call writes is read off from the call alone (`Session.Call.features?` and so on), and one
call changes a session by just that (`Session.writes_call`). The rest is induction over the calls
(`World.reflects_turns`), with the world of all clients as a function of what they are now
(`World.shared`).

A call that fails leaves no trace, with one exception. An experiment with values of a type is run
before the value of the result is read. If it does not fit, the call fails, but the exposure is
remembered (`World.exists_failure_remembered`).

Key definitions: `Client`, `World.ofClients`, `World.turns`, `lastWrites`.
Key theorems: `Session.writes_call`, `Session.next_call_of_error`, `World.reflects_turns`,
`World.answers_of_last_writes`.
-/
import FeatureFlags.Proofs.Oblivious
import Mathlib.Data.List.Induction

namespace FeatureFlags

/-! ### What a call writes -/

namespace Session.Call

/-- The features that a call writes. A call that fails writes nothing. -/
def features? : Call → Option Features
  | .command (.setFeatures text) => Features.ofText? text
  | .command (.setPayload text) => (Configuration.ofPayload? text).map (·.features)
  | .command (.setConfiguration configuration) => some configuration.features
  | _ => none

/-- The saved groups that a call writes. -/
def savedGroups? : Call → Option SavedGroups
  | .command (.setSavedGroups text) => savedGroupsOfText? text
  | .command (.setPayload text) => (Configuration.ofPayload? text).map (·.savedGroups)
  | .command (.setConfiguration configuration) => some configuration.savedGroups
  | _ => none

/-- The attributes that a call writes. -/
def attributes? : Call → Option Attributes
  | .command (.setAttributes text) => (Profile.readAttributes text).toOption
  | .setAttributes attributes => some attributes
  | _ => none

/-- The page that a call writes. -/
def url? : Call → Option Url
  | .command (.setUrl text) => (Profile.readUrl text).toOption
  | _ => none

/-- The variation that a call forces an experiment to. -/
def forcedVariation? : Call → Option (String × Nat)
  | .command (.forceVariation experiment variation) => some (experiment, variation)
  | _ => none

/-- The value that a call forces a feature to. -/
def forcedValue? : Call → Option (String × Json)
  | .command (.forceValue feature value) => some (feature, value)
  | _ => none

/-- A call writes none of these. -/
structure WritesNothing (c : Call) : Prop where
  features : c.features? = none
  savedGroups : c.savedGroups? = none
  attributes : c.attributes? = none
  url : c.url? = none
  forcedVariation : c.forcedVariation? = none
  forcedValue : c.forcedValue? = none

/-- A call evaluates a feature or runs an experiment. -/
def Evaluates : Call → Prop
  | .command (.evaluate ..) | .command (.run _) | .runTyped .. => True
  | _ => False

/-- What is wrong with a call, if it fails. -/
def error? (s : Session) : Call → Option FlagError
  | .command told =>
    match (s.perform told).answer with
    | .failed error => some error
    | _ => none
  | .setAttributes _ => none
  | .runTyped type e =>
    match (s.runTyped type e).answer with
    | .error error => some error
    | .ok _ => none

theorem Evaluates.writesNothing {c : Call} (h : c.Evaluates) : c.WritesNothing := by
  cases c with
  | command command =>
    cases command with
    | evaluate | run => exact ⟨rfl, rfl, rfl, rfl, rfl, rfl⟩
    | _ => exact h.elim
  | setAttributes attributes => exact h.elim
  | runTyped type e => exact ⟨rfl, rfl, rfl, rfl, rfl, rfl⟩

end Session.Call

/-- The configuration after a call. -/
def Configuration.write (configuration : Configuration) (c : Session.Call) : Configuration where
  features := c.features?.getD configuration.features
  savedGroups := c.savedGroups?.getD configuration.savedGroups

/-- The profile of a user after a call. -/
def Profile.write (profile : Profile) (c : Session.Call) : Profile where
  attributes := c.attributes?.getD profile.attributes
  url := c.url?.or profile.url
  forcedVariations := profile.forcedVariations.insertAll c.forcedVariation?.toList
  forcedValues := profile.forcedValues.insertAll c.forcedValue?.toList

/-! ### One call -/

namespace Session

variable {s : Session}

theorem toOption_orInvalidJson {α : Type} (r : Option α) : (orInvalidJson r).toOption = r := by
  cases r <;> rfl

/-- A change for which something may be missing is made if it is there. -/
theorem next_settle {α : Type} (s : Session) (r : Except FlagError α) (change : α → Session) :
    (s.settle (r >>= fun a => pure (change a))).next = (r.toOption.map change).getD s := by
  cases r <;> rfl

/-- An evaluation changes neither the configuration nor the profile. -/
theorem next_call_of_evaluates {c : Call} (h : c.Evaluates) :
    (s.call c).next.configuration = s.configuration ∧ (s.call c).next.profile = s.profile := by
  cases c with
  | command command =>
    cases command with
    | evaluate | run => exact ⟨rfl, rfl⟩
    | _ => exact h.elim
  | setAttributes attributes => exact h.elim
  | runTyped type e =>
    rw [call, runTyped]
    cases type.lower e <;> exact ⟨rfl, rfl⟩

/-- **A call changes configuration and profile by what it writes.** -/
theorem writes_call (s : Session) (c : Call) :
    (s.call c).next.current = s.current.write c ∧ (s.call c).next.profile = s.profile.write c := by
  cases c with
  | setAttributes attributes => exact ⟨current_refresh _, profile_refresh _⟩
  | runTyped type e =>
    obtain ⟨hconfiguration, hprofile⟩ := next_call_of_evaluates (s := s) (c := .runTyped type e)
      trivial
    exact ⟨congrArg (·.getD Configuration.empty) hconfiguration, hprofile⟩
  | command command =>
    cases command with
    | setFeatures text =>
      simp only [call, perform, Outcome.map, next_settle, toOption_orInvalidJson]
      cases h : Features.ofText? text with
      | none =>
        simp only [Configuration.write, Call.features?, h]
        exact ⟨rfl, rfl⟩
      | some features =>
        simp only [Configuration.write, Call.features?, h]
        exact ⟨current_refresh _, profile_refresh _⟩
    | setSavedGroups text =>
      simp only [call, perform, Outcome.map, next_settle, toOption_orInvalidJson,
        Configuration.write, Call.savedGroups?]
      cases savedGroupsOfText? text <;> exact ⟨rfl, rfl⟩
    | setPayload text =>
      simp only [call, perform, Outcome.map, next_settle, toOption_orInvalidJson,
        Configuration.write, Call.features?, Call.savedGroups?]
      cases Configuration.ofPayload? text with
      | none => exact ⟨rfl, rfl⟩
      | some configuration => exact ⟨current_refresh _, profile_refresh _⟩
    | setConfiguration configuration => exact ⟨current_refresh _, profile_refresh _⟩
    | setAttributes text =>
      simp only [call, perform, Outcome.map, next_settle, Profile.write, Call.attributes?]
      cases (Profile.readAttributes text).toOption with
      | none => exact ⟨rfl, rfl⟩
      | some attributes => exact ⟨current_refresh _, profile_refresh _⟩
    | setUrl text =>
      simp only [call, perform, Outcome.map, next_settle, Profile.write, Call.url?]
      cases (Profile.readUrl text).toOption <;> exact ⟨rfl, rfl⟩
    | refresh => exact ⟨current_refresh _, profile_refresh _⟩
    | forceVariation | forceValue | evaluate | run => exact ⟨rfl, rfl⟩

/-- A change that fails is not made. -/
theorem next_settle_of_failed {r : Except FlagError Session} {error : FlagError}
    (h : (s.settle r).answer = .failed error) : (s.settle r).next = s := by
  cases r with
  | ok next => cases h
  | error other => rfl

/-- A change fails only if something is missing. -/
theorem toOption_of_failed {α : Type} {r : Except FlagError α} {change : α → Session}
    {error : FlagError}
    (h : (s.settle (r >>= fun a => pure (change a))).answer = .failed error) :
    r.toOption = none := by
  cases r with
  | ok a => cases h
  | error other => rfl

theorem failed_of_error {command : Command} {error : FlagError}
    (h : Call.error? s (.command command) = some error) :
    (s.perform command).answer = .failed error := by
  unfold Call.error? at h
  simp only at h
  split at h
  · rename_i hfailed
    cases h
    exact hfailed
  · cases h

theorem next_perform_of_failed {command : Command} {error : FlagError}
    (h : (s.perform command).answer = .failed error) : (s.perform command).next = s := by
  cases command with
  | evaluate | run => cases h
  | _ => exact next_settle_of_failed h

/-- Reading the value of a result fails only if it does not fit. -/
theorem eq_typeMismatch_of_mapM {α : Type} {type : ValueType α} {result : ExperimentResult}
    {error : FlagError} (h : result.mapM type.convert = .error error) : error = .typeMismatch := by
  unfold ExperimentResult.mapM at h
  split at h
  · cases h
  · rename_i value _
    unfold ValueType.convert at h
    cases hread : type.read value with
    | some a =>
      rw [hread] at h
      cases h
    | none =>
      rw [hread] at h
      cases h
      rfl

/-- **A call that fails changes nothing, unless a value did not fit after an evaluation.** -/
theorem next_call_of_error {c : Call} {error : FlagError} (h : c.error? s = some error) :
    (s.call c).next = s ∨ (c.Evaluates ∧ error = .typeMismatch) := by
  cases c with
  | setAttributes attributes => cases h
  | command command => exact Or.inl (next_perform_of_failed (failed_of_error h))
  | runTyped type e =>
    unfold Call.error? at h
    simp only at h
    split at h
    · rename_i hfailed
      cases h
      rw [call]
      unfold runTyped at hfailed ⊢
      cases hlower : type.lower e with
      | error other => exact Or.inl rfl
      | ok lowered =>
        rw [hlower] at hfailed
        exact Or.inr ⟨trivial, eq_typeMismatch_of_mapM hfailed⟩
    · cases h

/-- A call that fails writes nothing. -/
theorem writesNothing_of_error {c : Call} {error : FlagError} (h : c.error? s = some error) :
    c.WritesNothing := by
  cases c with
  | setAttributes attributes => cases h
  | runTyped type e => exact Call.Evaluates.writesNothing (c := .runTyped type e) trivial
  | command command =>
    have hfailed := failed_of_error h
    cases command with
    | setFeatures text =>
      have hnone : Features.ofText? text = none :=
        (toOption_orInvalidJson _).symm.trans (toOption_of_failed hfailed)
      exact ⟨hnone, rfl, rfl, rfl, rfl, rfl⟩
    | setSavedGroups text =>
      have hnone : savedGroupsOfText? text = none :=
        (toOption_orInvalidJson _).symm.trans (toOption_of_failed hfailed)
      exact ⟨rfl, hnone, rfl, rfl, rfl, rfl⟩
    | setPayload text =>
      have hnone : Configuration.ofPayload? text = none :=
        (toOption_orInvalidJson _).symm.trans (toOption_of_failed hfailed)
      exact ⟨congrArg (Option.map _) hnone, congrArg (Option.map _) hnone, rfl, rfl, rfl, rfl⟩
    | setAttributes text => exact ⟨rfl, rfl, toOption_of_failed hfailed, rfl, rfl, rfl⟩
    | setUrl text => exact ⟨rfl, rfl, rfl, toOption_of_failed hfailed, rfl, rfl⟩
    | setConfiguration | forceVariation | forceValue | refresh | evaluate | run => cases hfailed

/-- **An evaluation changes nothing but the tracker**, where no assignments are stored. -/
theorem next_call_of_not_sticky (hsticky : s.options.sticky = false) {c : Call}
    (h : c.Evaluates) : (s.call c).next = { s with tracker := (s.call c).next.tracker } := by
  obtain ⟨hconfiguration, hprofile⟩ := next_call_of_evaluates (s := s) h
  have hservice : (s.call c).next.service = s.service := by
    rw [service_call, handed_call hsticky]
    rfl
  have hoptions := options_call s c
  have hdocuments := documents_call hsticky c
  generalize (s.call c).next = next at *
  cases next
  cases hconfiguration
  cases hprofile
  cases hservice
  cases hoptions
  cases hdocuments
  rfl

end Session

/-! ### Clients of one store -/

/-- A client that stores no assignments. -/
structure Client where
  options : EvalOptions
  tracker : Tracker
  profile : Profile
  unsticky : options.sticky = false

namespace Client

/-- The session of a client. It has no documents. -/
def session (client : Client) (configuration : Option Configuration) : Session where
  configuration := configuration
  service := .empty
  options := client.options
  tracker := client.tracker
  profile := client.profile
  documents := .empty

/-- The client after its session has become another one. -/
def after (client : Client) (next : Session) : Client :=
  { client with tracker := next.tracker, profile := next.profile }

end Client

namespace World

/-- Clients that share a store, in which nothing has been set yet. -/
def ofClients (clients : List Client) : World :=
  clients.foldl (fun w client => w.addClient ⟨0, client.options, client.tracker⟩ client.profile)
    ⟨[none], [], [], .empty⟩

/-- A client is told to do something. -/
def turn (w : World) (i : Nat) (c : Session.Call) : World :=
  ((w.within ⟨i, i⟩ (·.call c)).map (·.next)).getD w

/-- What is wrong with what a client is told, if it fails. -/
def error? (w : World) (i : Nat) (c : Session.Call) : Option FlagError :=
  (w.session? ⟨i, i⟩).bind (c.error? ·)

/-- What a client answers for a feature. -/
def answer? (w : World) (i : Nat) (feature : String) (kind : Option ValueKind) :
    Option FeatureResult :=
  (w.within ⟨i, i⟩ (·.evaluate feature kind)).map (·.answer)

/-- What running an experiment comes to for a client. -/
def result? (w : World) (i : Nat) (e : Experiment) : Option ExperimentResult :=
  (w.within ⟨i, i⟩ (·.run e)).map (·.answer)

/-- The world of some clients, with what is in their store. -/
def shared (configuration : Option Configuration) (clients : List Client) : World where
  stores := [configuration]
  evaluators := clients.map fun client => ⟨0, client.options, client.tracker⟩
  users := clients.map fun client => ⟨client.profile, .empty⟩
  service := .empty

variable {w : World} {configuration : Option Configuration} {clients : List Client} {i : Nat}
  {client : Client}

theorem turn_of_session {s : Session} (h : w.session? ⟨i, i⟩ = some s) (c : Session.Call) :
    w.turn i c = w.put ⟨i, i⟩ (s.call c).next := by
  simp only [turn, within, h, Option.bind_eq_bind, Option.bind_some, Option.pure_def,
    Option.map_some, Option.getD_some]

theorem session?_shared (h : clients[i]? = some client) :
    (shared configuration clients).session? ⟨i, i⟩ = some (client.session configuration) := by
  simp only [session?, shared, List.getElem?_map, h, Option.map_some, Option.bind_eq_bind,
    Option.bind_some]
  rfl

/-- A client that has done something is another client in the same world. -/
theorem put_shared (h : clients[i]? = some client) {next : Session}
    (hoptions : next.options = client.options) (hservice : next.service = .empty)
    (hdocuments : next.documents = .empty) :
    (shared configuration clients).put ⟨i, i⟩ next =
      shared next.configuration (clients.set i (client.after next)) := by
  simp only [put, shared, List.getElem?_map, h, Option.map_some, hoptions, hservice, hdocuments,
    List.map_set]
  rfl

theorem put_shared_self (h : clients[i]? = some client) :
    (shared configuration clients).put ⟨i, i⟩ (client.session configuration) =
      shared configuration clients := by
  obtain ⟨hbound, rfl⟩ := List.getElem?_eq_some_iff.mp h
  rw [put_shared h rfl rfl rfl]
  exact congrArg (shared configuration) (List.set_getElem_self hbound)

theorem turn_shared (h : clients[i]? = some client) (c : Session.Call) :
    let next := ((client.session configuration).call c).next
    (shared configuration clients).turn i c =
      shared next.configuration (clients.set i (client.after next)) := by
  have hsticky : (client.session configuration).options.sticky = false := client.unsticky
  rw [turn_of_session (session?_shared h)]
  refine put_shared h (Session.options_call _ c) ?_ (Session.documents_call hsticky c)
  rw [Session.service_call, Session.handed_call hsticky]
  rfl

theorem addClient_shared (clients : List Client) (client : Client) :
    (shared configuration clients).addClient ⟨0, client.options, client.tracker⟩ client.profile =
      shared configuration (clients ++ [client]) := by
  have hlast : (clients ++ [client])[clients.length]? = some client := by
    simp only [List.getElem?_append_right (Nat.le_refl _), Nat.sub_self]
    rfl
  have hrefresh : (client.session configuration).refresh = client.session configuration :=
    Session.refresh_of_not_sticky client.unsticky
  have hworld : shared configuration (clients ++ [client]) =
      { shared configuration clients with
        evaluators := (shared configuration clients).evaluators ++
          [⟨0, client.options, client.tracker⟩]
        users := (shared configuration clients).users ++ [⟨client.profile, .empty⟩] } := by
    simp only [shared, List.map_append, List.map_cons, List.map_nil]
  have hevaluators : (shared configuration clients).evaluators.length = clients.length :=
    List.length_map _
  have husers : (shared configuration clients).users.length = clients.length := List.length_map _
  unfold addClient
  rw [hevaluators, husers, ← hworld]
  simp only [session?_shared hlast, hrefresh, put_shared_self hlast]

theorem ofClients_eq_shared (clients : List Client) : ofClients clients = shared none clients := by
  have hall : ∀ rest done : List Client,
      rest.foldl
        (fun w client => w.addClient ⟨0, client.options, client.tracker⟩ client.profile)
        (shared none done) = shared none (done ++ rest) := by
    intro rest
    induction rest with
    | nil =>
      intro done
      rw [List.append_nil]
      rfl
    | cons client rest ih =>
      intro done
      rw [List.foldl_cons, addClient_shared, ih, List.append_assoc]
      rfl
  exact hall clients []

end World

/-! ### Many calls -/

/-- What some clients have been told, one after the other. -/
abbrev Log (n : Nat) := List (Fin n × Session.Call)

namespace Log

variable {n : Nat}

/-- What any of the clients has been told. -/
def calls (log : Log n) : List Session.Call := log.map (·.2)

/-- What one of the clients has been told. -/
def callsOf (log : Log n) (i : Fin n) : List Session.Call := (log.filter (·.1 = i)).map (·.2)

end Log

/-- The last of what some calls write, `initial` if they write nothing. -/
def lastWritten {α : Type} (write? : Session.Call → Option α) (initial : α)
    (calls : List Session.Call) : α :=
  (calls.filterMap write?).getLast?.getD initial

/-- The configuration that is made of the last features and the last saved groups. -/
def Configuration.lastWritten (calls : List Session.Call) : Configuration where
  features := FeatureFlags.lastWritten (·.features?) .empty calls
  savedGroups := FeatureFlags.lastWritten (·.savedGroups?) [] calls

/-- The profile with the last attributes, the last page, and all that has been forced. -/
def Profile.lastWritten (profile : Profile) (calls : List Session.Call) : Profile where
  attributes := FeatureFlags.lastWritten (·.attributes?) profile.attributes calls
  url := (calls.filterMap (·.url?)).getLast?.or profile.url
  forcedVariations := profile.forcedVariations.insertAll (calls.filterMap (·.forcedVariation?))
  forcedValues := profile.forcedValues.insertAll (calls.filterMap (·.forcedValue?))

/-- What evaluations depend on, as it has been written last. -/
def lastWrites (clients : List Client) (log : Log clients.length) (i : Fin clients.length) :
    Setting where
  configuration := .lastWritten log.calls
  options := clients[i].options
  profile := clients[i].profile.lastWritten (log.callsOf i)

theorem lastWritten_append {α : Type} (write? : Session.Call → Option α) (initial : α)
    (calls : List Session.Call) (c : Session.Call) :
    lastWritten write? initial (calls ++ [c]) =
      (write? c).getD (lastWritten write? initial calls) := by
  unfold lastWritten
  rw [List.filterMap_append]
  cases h : write? c with
  | none => simp [h]
  | some a => simp [h]

theorem Configuration.lastWritten_append (calls : List Session.Call) (c : Session.Call) :
    Configuration.lastWritten (calls ++ [c]) = (Configuration.lastWritten calls).write c := by
  unfold Configuration.lastWritten Configuration.write
  simp only [FeatureFlags.lastWritten_append]

theorem Dictionary.insertAll_append {α : Type} (dict : Dictionary α)
    (pairs rest : List (String × α)) :
    dict.insertAll (pairs ++ rest) = (dict.insertAll pairs).insertAll rest := by
  unfold Dictionary.insertAll Entries.insertAll
  simp only [List.foldl_append]

theorem Profile.lastWritten_append (profile : Profile) (calls : List Session.Call)
    (c : Session.Call) :
    profile.lastWritten (calls ++ [c]) = (profile.lastWritten calls).write c := by
  have hsingle : ∀ {α : Type} (write? : Session.Call → Option α),
      [c].filterMap write? = (write? c).toList := by
    intro α write?
    cases h : write? c <;> simp [h]
  have hurl : ((calls ++ [c]).filterMap (·.url?)).getLast?.or profile.url =
      c.url?.or ((calls.filterMap (·.url?)).getLast?.or profile.url) := by
    rw [List.filterMap_append, hsingle]
    cases c.url? with
    | none => simp
    | some url => simp
  unfold Profile.lastWritten Profile.write
  rw [hurl]
  simp only [FeatureFlags.lastWritten_append, List.filterMap_append, hsingle,
    Dictionary.insertAll_append]

theorem Log.callsOf_append {n : Nat} (log rest : Log n) (i : Fin n) :
    Log.callsOf (log ++ rest) i = log.callsOf i ++ rest.callsOf i := by
  unfold Log.callsOf
  rw [List.filter_append, List.map_append]

theorem Log.callsOf_nil {n : Nat} (i : Fin n) : Log.callsOf ([] : Log n) i = [] := rfl

theorem Log.callsOf_cons {n : Nat} (j : Fin n) (c : Session.Call) (rest : Log n) (i : Fin n) :
    Log.callsOf ((j, c) :: rest) i = if j = i then c :: rest.callsOf i else rest.callsOf i := by
  unfold Log.callsOf
  by_cases h : j = i
  · simp [h]
  · simp [h]

namespace World

/-- The clients are told to do some things. -/
def turns {n : Nat} (w : World) (log : Log n) : World :=
  log.foldl (fun w entry => w.turn entry.1 entry.2) w

theorem turns_append {n : Nat} (w : World) (log rest : Log n) :
    w.turns (log ++ rest) = (w.turns log).turns rest :=
  List.foldl_append

/-- What is in the store, and what the clients are now, is what has been written last. -/
structure Reflects (clients : List Client) (log : Log clients.length)
    (configuration : Option Configuration) (now : List Client) : Prop where
  configuration : configuration.getD .empty = .lastWritten log.calls
  client : ∀ i : Fin clients.length, ∃ client, now[i]? = some client ∧
    client.options = clients[i].options ∧
    client.profile = clients[i].profile.lastWritten (log.callsOf i)

variable {clients now : List Client} {log : Log clients.length}
  {configuration : Option Configuration}

theorem reflects_start (clients : List Client) : Reflects clients [] none clients where
  configuration := rfl
  client i := ⟨clients[i], List.getElem?_eq_getElem i.2, rfl, rfl⟩

/-- One more call, and one more write. -/
theorem Reflects.turn (h : Reflects clients log configuration now) {j : Fin clients.length}
    {client : Client} (hclient : now[j]? = some client) (c : Session.Call) :
    let next := ((client.session configuration).call c).next
    Reflects clients (log ++ [(j, c)]) next.configuration (now.set j (client.after next)) := by
  intro next
  obtain ⟨hcurrent, hprofile⟩ := Session.writes_call (client.session configuration) c
  constructor
  · rw [Log.calls, List.map_append, List.map_singleton, Configuration.lastWritten_append]
    refine hcurrent.trans ?_
    exact congrArg (Configuration.write · c) h.configuration
  · intro i
    obtain ⟨other, hother, hoptions, hwritten⟩ := h.client i
    rw [Log.callsOf_append, Log.callsOf_cons]
    by_cases heq : j = i
    · cases heq
      cases hclient.symm.trans hother
      obtain ⟨hbound, -⟩ := List.getElem?_eq_some_iff.mp hclient
      refine ⟨client.after next, List.getElem?_set_self hbound, hoptions, ?_⟩
      rw [if_pos rfl, Log.callsOf_nil, Profile.lastWritten_append, ← hwritten]
      exact hprofile
    · have hne : (j : Nat) ≠ i := fun hval => heq (Fin.ext hval)
      rw [if_neg heq, Log.callsOf_nil, List.append_nil]
      exact ⟨other, (List.getElem?_set_ne hne).trans hother, hoptions, hwritten⟩

/-- **The clients are what has been written last.** -/
theorem reflects_turns (clients : List Client) (log : Log clients.length) :
    ∃ configuration now, (ofClients clients).turns log = shared configuration now ∧
      Reflects clients log configuration now := by
  -- one call after the other, so the last one is taken off first
  induction log using List.reverseRecOn with
  | nil => exact ⟨none, clients, ofClients_eq_shared clients, reflects_start clients⟩
  | append_singleton log entry ih =>
    obtain ⟨configuration, now, hworld, hreflects⟩ := ih
    obtain ⟨client, hclient, -⟩ := hreflects.client entry.1
    refine ⟨_, _, ?_, hreflects.turn hclient entry.2⟩
    rw [turns_append, hworld]
    exact turn_shared hclient entry.2

/-- **What a client computes is given by what has been written last**, whatever the documents, the
tracker and the history are that the computation starts with, if they do not matter. -/
theorem answer_compute_turns (clients : List Client) (log : Log clients.length)
    (i : Fin clients.length) {α : Type} {computation : Setting → Eval α}
    (h : (computation (lastWrites clients log i)).Oblivious) (p : Progress) :
    (((ofClients clients).turns log).within ⟨i, i⟩ (·.compute computation)).map (·.answer) =
      some (computation (lastWrites clients log i) p).1 := by
  obtain ⟨configuration, now, hworld, hreflects⟩ := reflects_turns clients log
  obtain ⟨client, hclient, hoptions, hprofile⟩ := hreflects.client i
  have hsetting : (client.session configuration).setting = lastWrites clients log i := by
    show (⟨configuration.getD .empty, client.options, client.profile⟩ : Setting) = _
    rw [hreflects.configuration, hoptions, hprofile]
    rfl
  rw [hworld, within, session?_shared hclient]
  simp only [Option.bind_eq_bind, Option.bind_some, Option.pure_def, Option.map_some,
    Session.compute_eq, hsetting]
  exact congrArg some (h ⟨.empty, client.tracker, []⟩ p)

theorem answer?_turns (clients : List Client) (log : Log clients.length) (i : Fin clients.length)
    (feature : String) (kind : Option ValueKind) (p : Progress) :
    ((ofClients clients).turns log).answer? i feature kind =
      some ((lastWrites clients log i).evaluateFeature feature kind p).1 :=
  answer_compute_turns clients log i
    (Setting.oblivious_evaluate clients[i].unsticky [] feature kind) p

theorem result?_turns (clients : List Client) (log : Log clients.length) (i : Fin clients.length)
    (e : Experiment) (p : Progress) :
    ((ofClients clients).turns log).result? i e =
      some ((lastWrites clients log i).runExperiment e p).1 :=
  answer_compute_turns clients log i (Setting.oblivious_runExperiment clients[i].unsticky e) p

/-! ### What does not matter -/

theorem lastWritten_of_none {α : Type} {write? : Session.Call → Option α} {c : Session.Call}
    (h : write? c = none) (initial : α) (before after : List Session.Call) :
    lastWritten write? initial (before ++ c :: after) =
      lastWritten write? initial (before ++ after) := by
  unfold lastWritten
  rw [List.filterMap_append, List.filterMap_cons_none h, List.filterMap_append]

/-- What writes nothing may be left out. -/
theorem lastWrites_of_writesNothing {c : Session.Call} (h : c.WritesNothing)
    (before after : Log clients.length) (j i : Fin clients.length) :
    lastWrites clients (before ++ (j, c) :: after) i = lastWrites clients (before ++ after) i := by
  have hconfiguration : Configuration.lastWritten (Log.calls (before ++ (j, c) :: after)) =
      Configuration.lastWritten (Log.calls (before ++ after)) := by
    simp only [Configuration.lastWritten, Log.calls, List.map_append, List.map_cons,
      lastWritten_of_none h.features, lastWritten_of_none h.savedGroups]
  have hprofile : ∀ (profile : Profile) (earlier later : List Session.Call),
      profile.lastWritten (earlier ++ c :: later) = profile.lastWritten (earlier ++ later) := by
    intro profile earlier later
    simp only [Profile.lastWritten, lastWritten_of_none h.attributes, List.filterMap_append,
      List.filterMap_cons_none h.url, List.filterMap_cons_none h.forcedVariation,
      List.filterMap_cons_none h.forcedValue]
  have hcalls : clients[i].profile.lastWritten (Log.callsOf (before ++ (j, c) :: after) i) =
      clients[i].profile.lastWritten (Log.callsOf (before ++ after) i) := by
    rw [Log.callsOf_append, Log.callsOf_append, Log.callsOf_cons]
    by_cases heq : j = i
    · rw [if_pos heq, hprofile]
    · rw [if_neg heq]
  unfold lastWrites
  rw [hconfiguration, hcalls]

/-- **A client is what was written last.** After any calls of any clients that share a store
* a client answers for a feature what is evaluated under the last features and saved groups of
  all clients and its own last attributes, page and forced values, and so for an experiment,
* a call that fails changes nothing, unless it has run an experiment whose value does not fit,
* evaluating a feature or running an experiment changes nothing but the tracker of the client, and
* if a call fails or evaluates, then all later answers are as if it had not been there. -/
theorem answers_of_last_writes (clients : List Client) (log : Log clients.length)
    (i : Fin clients.length) :
    let w := (ofClients clients).turns log
    (∀ feature kind p, w.answer? i feature kind =
      some ((lastWrites clients log i).evaluateFeature feature kind p).1) ∧
    (∀ e p, w.result? i e = some ((lastWrites clients log i).runExperiment e p).1) ∧
    (∀ c error, w.error? i c = some error →
      w.turn i c = w ∨ (c.Evaluates ∧ error = .typeMismatch)) ∧
    (∀ c : Session.Call, c.Evaluates → ∃ s tracker, w.session? ⟨i, i⟩ = some s ∧
      w.turn i c = w.put ⟨i, i⟩ { s with tracker }) ∧
    ∀ c : Session.Call, (c.Evaluates ∨ ∃ error, w.error? i c = some error) →
      ∀ (later : Log clients.length) (j : Fin clients.length),
        let told := (ofClients clients).turns (log ++ (i, c) :: later)
        let untold := (ofClients clients).turns (log ++ later)
        (∀ feature kind, told.answer? j feature kind = untold.answer? j feature kind) ∧
        ∀ e, told.result? j e = untold.result? j e := by
  intro w
  obtain ⟨configuration, now, hworld, hreflects⟩ := reflects_turns clients log
  obtain ⟨client, hclient, -⟩ := hreflects.client i
  have hw : w = shared configuration now := hworld
  have hsession : w.session? ⟨i, i⟩ = some (client.session configuration) := by
    rw [hw]
    exact session?_shared hclient
  have hturn := fun c => turn_of_session hsession c
  have herror : ∀ {c error}, w.error? i c = some error →
      c.error? (client.session configuration) = some error := by
    intro c error h
    rw [error?, hsession] at h
    exact h
  refine ⟨answer?_turns clients log i, result?_turns clients log i, fun c error h => ?_,
    fun c h => ?_, fun c h later j => ?_⟩
  · rcases Session.next_call_of_error (herror h) with hsame | hmismatch
    · refine Or.inl ?_
      rw [hturn, hsame, hw]
      exact put_shared_self hclient
    · exact Or.inr hmismatch
  · refine ⟨_, ((client.session configuration).call c).next.tracker, hsession, ?_⟩
    rw [hturn]
    exact congrArg (w.put ⟨i, i⟩) (Session.next_call_of_not_sticky client.unsticky h)
  · have hnothing : c.WritesNothing := by
      rcases h with h | ⟨error, h⟩
      · exact h.writesNothing
      · exact Session.writesNothing_of_error (herror h)
    have hsame : lastWrites clients (log ++ (i, c) :: later) j =
        lastWrites clients (log ++ later) j := lastWrites_of_writesNothing hnothing log later i j
    let start : Progress := ⟨.empty, .ofCapacity 0, []⟩
    refine ⟨fun feature kind => ?_, fun e => ?_⟩
    · rw [answer?_turns clients _ j feature kind start, hsame,
        answer?_turns clients _ j feature kind start]
    · rw [result?_turns clients _ j e start, hsame, result?_turns clients _ j e start]

/-- A client of somebody who is known by an id. -/
def guest : Client where
  options := {}
  tracker := .ofCapacity Tracker.defaultCapacity
  profile := { attributes := [("id", .str "1")] }
  unsticky := rfl

/-- Two clients. One of them sets a configuration and forces a value for itself; the other one is
given a page that is none. -/
def story : Log [guest, guest].length := [
  (0, .command (.setConfiguration ⟨.ofList [("button", .feature ⟨.str "plain", []⟩)], []⟩)),
  (0, .command (.forceValue "button" (.str "red"))),
  (1, .command (.setUrl ""))]

/-- Both clients see the configuration, and only one of them the forced value. -/
theorem story_answers :
    ((ofClients [guest, guest]).turns story).answer? 0 "button" none =
      some (.override (.str "red")) ∧
    ((ofClients [guest, guest]).turns story).answer? 1 "button" none =
      some (.defaultValue (.str "plain")) := by
  let start : Progress := ⟨.empty, .ofCapacity 0, []⟩
  have hfirst := (answers_of_last_writes [guest, guest] story 0).1 "button" none start
  have hsecond := (answers_of_last_writes [guest, guest] story 1).1 "button" none start
  have hnil : "button" ∉ ([] : List String) := List.not_mem_nil
  rw [Setting.evaluateFeature, Setting.evaluate_of_not_mem _ none hnil] at hfirst hsecond
  exact ⟨hfirst, hsecond⟩

/-- Whole numbers that are written as texts, so that none is read back. -/
def lossy : ValueType Int where
  read
    | .num (.int n) => some n
    | _ => none
  write n := some (.str (toString n))

/-- The guest is to take part in an experiment with such values. -/
def misread : Session.Call := .runTyped lossy (.basic "exp" [1, 2])

/-- A call may fail and be remembered: the experiment is run and reported before it turns out that
the value cannot be read. -/
theorem exists_failure_remembered :
    (ofClients [guest]).error? 0 misread = some .typeMismatch ∧
      ((ofClients [guest]).evaluators.map (·.tracker.recent)) = [[]] ∧
      (((ofClients [guest]).turn 0 misread).evaluators.map (·.tracker.recent)) =
        [[⟨"id", "1", "exp", 0⟩]] ∧
      (ofClients [guest]).turn 0 misread ≠ ofClients [guest] := by
  have hbefore : ((ofClients [guest]).evaluators.map (·.tracker.recent)) = [[]] := rfl
  have hafter : (((ofClients [guest]).turn 0 misread).evaluators.map (·.tracker.recent)) =
      [[⟨"id", "1", "exp", 0⟩]] := by
    decide +kernel
  refine ⟨by decide +kernel, hbefore, hafter, fun hsame => ?_⟩
  rw [hsame, hbefore] at hafter
  cases hafter

end World
end FeatureFlags
