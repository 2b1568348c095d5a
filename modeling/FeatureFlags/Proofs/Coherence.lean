/-
# A user with a service of its own

The documents at hand are copies of those in the service. Loading makes copies, and an
assignment is put into the copy and into the service. So a user who shares the service with
nobody always has true copies (`Lone.coherent`), whatever is done in whatever order, and
also if what is done fails.

It follows that nothing gets lost. A document that is saved takes the place of one that is the
same up to one assignment, which is new (`Lone.saves_one_entry`).

Key definitions: `StickyDocuments.CoherentWith`, `Session.Call`, `Session.Lone`.
Key theorems: `Session.call_cases`, `Session.Lone.coherent`, `Session.Lone.saves_one_entry`.
-/
import FeatureFlags.Proofs.Loaded
import FeatureFlags.Proofs.SharedService
import FeatureFlags.Session.Typed

namespace FeatureFlags

/-! ### Copies of documents -/

namespace StickyDocuments

/-- All documents are stored under their own keys, and are those of the service. -/
structure CoherentWith (docs service : StickyDocuments) : Prop where
  wellKept : docs.WellKept
  same : ∀ key doc, docs.find? key = some doc → service.find? key = some doc

variable {docs service : StickyDocuments}

theorem coherentWith_empty (service : StickyDocuments) : CoherentWith .empty service where
  wellKept _ _ h := nomatch h
  same _ _ h := nomatch h

/-- Loading makes copies. -/
theorem coherentWith_loadAll (h : service.WellKept) (values : List (String × String)) :
    (service.loadAll values).CoherentWith service where
  wellKept key doc hfind := by
    obtain ⟨-, -, -, -, hkey⟩ := find?_loadAll hfind
    exact hkey
  same _ _ hfind := find?_of_loadAll h hfind

/-- A document that is stored on both sides is the same on both sides. -/
theorem CoherentWith.save (h : docs.CoherentWith service) (doc : StickyDocument) :
    (docs.save doc).CoherentWith (service.save doc) where
  wellKept := h.wellKept.save doc
  same key doc' hfind := by
    rw [find?_save] at hfind ⊢
    split at hfind
    · rename_i hkey
      rw [if_pos hkey, hfind]
    · rename_i hkey
      rw [if_neg hkey]
      exact h.same key doc' hfind

theorem CoherentWith.foldl_save (h : docs.CoherentWith service) (saved : List StickyDocument) :
    (saved.foldl StickyDocuments.save docs).CoherentWith
      (saved.foldl StickyDocuments.save service) := by
  induction saved generalizing docs service with
  | nil => exact h
  | cons doc rest ih => exact ih (h.save doc)

theorem WellKept.foldl_save (h : service.WellKept) (saved : List StickyDocument) :
    (saved.foldl StickyDocuments.save service).WellKept := by
  induction saved generalizing service with
  | nil => exact h
  | cons doc rest ih => exact ih (h.save doc)

end StickyDocuments

/-! ### What can be done with a session -/

namespace Session

/-- Replaces the attributes of the user. -/
def setAttributes (s : Session) (attributes : Attributes) : Session :=
  (s.updateProfile ({ · with attributes })).refresh

/-- What can be done with a session: the commands, and what takes values of a type. -/
inductive Call : Type 1 where
  | command (command : Command)
  | setAttributes (attributes : Attributes)
  | runTyped {α : Type} (type : ValueType α) (e : Experiment α)

/-- Does it, whatever the answer. -/
def call (s : Session) : Call → Outcome Unit
  | .command command => (s.perform command).map fun _ => ()
  | .setAttributes attributes => ⟨(), [], s.setAttributes attributes⟩
  | .runTyped type e => (s.runTyped type e).map fun _ => ()

/-- The experiments that may be run. -/
def Call.Runs (s : Session) : Call → Experiment → Prop
  | .command c, other => s.Runs c other
  | .setAttributes _, _ => False
  | .runTyped type e, other => type.lower e = .ok other ∨ s.setting.Offers other

variable {s : Session}

/-- **A call settles a change and saves nothing, or it is a computation that takes steps.** -/
theorem call_cases (s : Session) (c : Call) :
    ((s.call c).handed = [] ∧ s.Settles (s.call c).next) ∨
    ∃ (α : Type) (computation : Setting → Eval α),
      (computation s.setting).Moves (s.setting.Step (c.Runs s)) ∧
        s.call c = (s.compute computation).map fun _ => () := by
  cases c with
  | setAttributes attributes => exact Or.inl ⟨rfl, .loaded rfl rfl rfl⟩
  | runTyped type e =>
    cases hlower : type.lower e with
    | error error =>
      refine Or.inl ?_
      rw [call, runTyped, hlower]
      exact ⟨rfl, settles_self s⟩
    | ok lowered =>
      refine Or.inr ⟨_, fun setting => setting.runExperiment lowered, ?_, ?_⟩
      · have hev : ∀ feature, Eval.Moves (s.setting.Step (Call.Runs s (.runTyped type e)))
            (s.setting.evaluate [] feature none) :=
          fun feature => Setting.moves_evaluate (fun _ h => Or.inr h) [] feature none
        exact Setting.moves_run hev (Or.inl hlower) none
      · rw [call, runTyped, hlower]
        rfl
  | command command =>
    rcases perform_settles_or_moves s command with
      ⟨hhanded, hsettles⟩ | ⟨α, computation, f, hmoves, heq⟩
    · exact Or.inl ⟨hhanded, hsettles⟩
    · exact Or.inr ⟨α, computation, hmoves, congrArg (Outcome.map fun _ => ()) heq⟩

/-- What a call hands over is in the service afterwards. -/
theorem service_call (s : Session) (c : Call) :
    (s.call c).next.service = (s.call c).handed.foldl StickyDocuments.save s.service := by
  rcases call_cases s c with ⟨hhanded, hsettles⟩ | ⟨α, computation, -, heq⟩
  · rw [hhanded, hsettles.service_eq, List.foldl_nil]
  · rw [heq]
    rfl

theorem options_call (s : Session) (c : Call) : (s.call c).next.options = s.options := by
  rcases call_cases s c with ⟨-, hsettles⟩ | ⟨α, computation, -, heq⟩
  · exact hsettles.options_eq
  · rw [heq]
    rfl

/-! ### Nobody else -/

/-- A session with a service of its own. At first the service has some documents, and what is
there for the user is loaded; then anything may be done. -/
inductive Lone : Session → Prop where
  | start (configuration : Option Configuration) (saved : List StickyDocument)
    (options : EvalOptions) (tracker : Tracker) (profile : Profile) :
    Lone (Session.refresh ⟨configuration, .ofList saved, options, tracker, profile, .empty⟩)
  | call {s : Session} (c : Call) (h : Lone s) : Lone (s.call c).next

theorem Lone.wellKept (h : s.Lone) : s.service.WellKept := by
  induction h with
  | start configuration saved options tracker profile =>
    rw [service_refresh]
    exact StickyDocuments.wellKept_ofList saved
  | call c _ ih =>
    rw [service_call]
    exact ih.foldl_save _

/-- Loading makes the documents copies; without it they are as before. -/
theorem coherent_refresh (hservice : s.service.WellKept)
    (h : s.documents.CoherentWith s.service) :
    s.refresh.documents.CoherentWith s.refresh.service := by
  rw [service_refresh]
  unfold refresh
  split
  · exact StickyDocuments.coherentWith_loadAll hservice _
  · exact h

theorem Settles.coherent {next : Session} (hsettles : s.Settles next)
    (hservice : s.service.WellKept) (h : s.documents.CoherentWith s.service) :
    next.documents.CoherentWith next.service := by
  cases hsettles with
  | kept hsame _ hdocuments =>
    rw [hsame, hdocuments]
    exact h
  | loaded hsame _ hdocuments =>
    rw [← hsame] at hservice h
    rw [← hdocuments] at h
    exact coherent_refresh hservice h

/-- **The documents at hand are copies of those in the service.** -/
theorem Lone.coherent (h : s.Lone) : s.documents.CoherentWith s.service := by
  induction h with
  | start configuration saved options tracker profile =>
    exact coherent_refresh (StickyDocuments.wellKept_ofList saved)
      (StickyDocuments.coherentWith_empty _)
  | @call s c h ih =>
    rcases call_cases s c with ⟨-, hsettles⟩ | ⟨α, computation, hmoves, heq⟩
    · exact hsettles.coherent h.wellKept ih
    · -- what is handed over is put into the copies and into the service
      have hgrown := Setting.grown_of_moves hmoves s.documents s.tracker
      have hdocuments : (s.call c).next.documents =
          (s.call c).handed.foldl StickyDocuments.save s.documents := by
        rw [heq]
        exact hgrown.stored
      rw [hdocuments, service_call]
      exact ih.foldl_save _

/-- The documents at hand stay the user's if a change is settled. -/
theorem Settles.current {next : Session} (hsettles : s.Settles next)
    (hservice : s.service.WellKept) (hsticky : s.options.sticky = true)
    (hnames : ∀ name ∈ next.current.identifiers, '|' ∉ name.toList)
    (h : (∀ name ∈ s.current.identifiers, '|' ∉ name.toList) →
      s.documents.Current s.profile.attributes) :
    next.documents.Current next.profile.attributes := by
  cases hsettles with
  | kept _ _ hdocuments hattributes hidentifiers =>
    rw [hdocuments, hattributes]
    rw [hidentifiers] at hnames
    exact h hnames
  | @loaded before hsame hoptions _ =>
    rw [← hsame] at hservice
    rw [← hoptions] at hsticky
    rw [current_refresh] at hnames
    rw [profile_refresh]
    exact own_refresh hservice hsticky fun name hname _ => hnames name hname

/-- **The documents at hand are those of the user**, whatever the attributes are now. -/
theorem Lone.current (h : s.Lone) (hsticky : s.options.sticky = true)
    (hnames : ∀ name ∈ s.current.identifiers, '|' ∉ name.toList) :
    s.documents.Current s.profile.attributes := by
  induction h with
  | start configuration saved options tracker profile =>
    rw [options_refresh] at hsticky
    rw [current_refresh] at hnames
    rw [profile_refresh]
    exact own_refresh (StickyDocuments.wellKept_ofList saved) hsticky
      fun name hname _ => hnames name hname
  | @call s c h ih =>
    rw [options_call] at hsticky
    rcases call_cases s c with ⟨-, hsettles⟩ | ⟨α, computation, hmoves, heq⟩
    · exact hsettles.current h.wellKept hsticky hnames (ih hsticky)
    · rw [heq] at hnames ⊢
      exact hmoves.preserves (fun _ _ hstep hp => hstep.current hp)
        (p := ⟨s.documents, s.tracker, []⟩) (ih hsticky hnames)

/-- **A document that is saved is the one in the service with one new entry**, if the user had a
copy of it. Nothing else of it is changed, and it takes the place of the old one. -/
theorem Lone.saves_one_entry (h : s.Lone) (c : Call) :
    (∀ key doc, s.documents.find? key = some doc →
      doc.storageKey = key ∧ s.service.find? key = some doc) ∧
    (s.call c).next.service = (s.call c).handed.foldl StickyDocuments.save s.service ∧
    ∀ before doc after, (s.call c).handed = before ++ doc :: after → ∀ cached,
      (before.foldl StickyDocuments.save s.documents).find? doc.storageKey = some cached →
      (before.foldl StickyDocuments.save s.service).find? doc.storageKey = some cached ∧
      ∃ who key variation, s.setting.Assigns (c.Runs s) who key variation ∧
        cached.assignments.find? key ≠ some variation ∧
        doc = ⟨who.name, who.value, cached.assignments.insert key variation⟩ := by
  have hcoherent := h.coherent
  refine ⟨fun key doc hfind => ⟨hcoherent.wellKept key doc hfind, hcoherent.same key doc hfind⟩,
    service_call s c, fun before doc after hsplit cached hcached => ?_⟩
  refine ⟨(hcoherent.foldl_save before).same _ cached hcached, ?_⟩
  have hentered : s.setting.Entered (c.Runs s) s.documents (s.call c).handed := by
    rcases call_cases s c with ⟨hhanded, -⟩ | ⟨α, computation, hmoves, heq⟩
    · rw [hhanded]
      exact Setting.entered_nil _
    · rw [heq]
      exact Setting.entered_of_moves hmoves s.documents s.tracker
  obtain ⟨who, key, variation, hassigns, hnew, hdoc⟩ := hentered before doc after hsplit
  -- the copy is the document of the user who is assigned
  have hcopy : (before.foldl StickyDocuments.save s.documents).assignmentsOf who =
      cached.assignments := by
    have hkey : doc.storageKey = who.storageKey := congrArg StickyDocument.storageKey hdoc
    rw [StickyDocuments.assignmentsOf_eq, ← hkey, hcached]
    rfl
  rw [StickyDocuments.updated, hcopy] at hdoc
  rw [hcopy] at hnew
  exact ⟨who, key, variation, hassigns, hnew, hdoc⟩

/-- A feature with an experiment. -/
def banner : FeatureRule := { FeatureRule.idle with variations := some [.str "a", .str "b"] }

/-- What is stored for somebody who took part in another experiment. -/
def earlier : StickyDocument := ⟨"id", "1", .ofList [("other__0", "x")]⟩

/-- Somebody who comes back. -/
def returning : Session :=
  Session.refresh ⟨some ⟨.ofList [("banner", .feature ⟨.null, [banner]⟩)], []⟩, .ofList [earlier],
    { sticky := true }, .ofCapacity Tracker.defaultCapacity, { attributes := [("id", .str "1")] },
    .empty⟩

/-- What the user asks for. -/
def visit : Call := .command (.evaluate "banner" none)

/-- What is stored for the user then. -/
def afterwards : StickyDocument := ⟨"id", "1", .ofList [("banner__0", "1"), ("other__0", "x")]⟩

/-- What was stored for the user is stored again, with one more entry. -/
theorem returning_saves :
    (returning.call visit).handed = [afterwards] ∧
      returning.service.find? afterwards.storageKey = some earlier ∧
      ∃ who key variation, returning.setting.Assigns (visit.Runs returning) who key variation ∧
        afterwards = ⟨who.name, who.value, earlier.assignments.insert key variation⟩ := by
  have hhanded : (returning.call visit).handed = [afterwards] := by decide +kernel
  have hcached : returning.documents.find? afterwards.storageKey = some earlier := by decide +kernel
  have hlone : returning.Lone := .start _ _ _ _ _
  obtain ⟨-, -, hsaves⟩ := hlone.saves_one_entry visit
  obtain ⟨hservice, who, key, variation, hassigns, -, hdoc⟩ :=
    hsaves [] afterwards [] hhanded earlier hcached
  exact ⟨hhanded, hservice, who, key, variation, hassigns, hdoc⟩

end Session
end FeatureFlags
