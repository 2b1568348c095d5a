/-
# Experiments do not meet in documents

Two experiments may keep assignments of a user in one document, and each of them reads what the
other one has written. But with different keys they read different entries of it. So running
one of them changes neither what is decided on the other one nor whether that is stored
(`Setting.decision_put`, `Setting.newKey?_put`). And whichever is run first, the same entries are
put into the same documents in the end (`Setting.put_put_comm`). Hence the order in which two
experiments are run does not matter (`Session.runs_commute`).

Documents are told apart by their storage keys, so they have to be stored under them, and the
attributes must not have a bar in their names (`StickyDocuments.OwnKeyed`).

Key definitions: `StickyDocuments.OwnKeyed`, `Setting.newKey?`, `Setting.newDocument?`.
Key theorems: `StickyDocuments.save_updated_comm`, `Setting.put_put_comm`,
`Session.runs_commute`.
-/
import FeatureFlags.Proofs.Settling

namespace FeatureFlags

namespace StickyDocuments

variable {docs : StickyDocuments} {who other : Identity}

/-! ### Two documents that are stored -/

theorem save_save (docs : StickyDocuments) {doc doc' : StickyDocument}
    (h : doc.storageKey = doc'.storageKey) : (docs.save doc).save doc' = docs.save doc' := by
  unfold save
  rw [h, Dictionary.insert_insert]

theorem save_comm (docs : StickyDocuments) {doc doc' : StickyDocument}
    (h : doc.storageKey ≠ doc'.storageKey) :
    (docs.save doc).save doc' = (docs.save doc').save doc :=
  Dictionary.insert_comm docs h doc doc'

/-- A document does not change when that of another identity is replaced. -/
theorem updated_save_of_ne (docs : StickyDocuments) {doc : StickyDocument}
    (h : doc.storageKey ≠ who.storageKey) (key variation : String) :
    (docs.save doc).updated who key variation = docs.updated who key variation := by
  unfold updated
  rw [assignmentsOf_save, if_neg h]

/-- A second assignment goes into the document that the first one has been put into. -/
theorem updated_save_updated (docs : StickyDocuments) (who : Identity)
    (key key' variation variation' : String) :
    (docs.save (docs.updated who key variation)).updated who key' variation' =
      ⟨who.name, who.value,
        ((docs.assignmentsOf who).insert key variation).insert key' variation'⟩ := by
  have hdoc : (docs.updated who key variation).storageKey = who.storageKey := rfl
  rw [updated, assignmentsOf_save, if_pos hdoc]
  rfl

/-- **Two assignments with different keys may be stored in either order**, in the same document
or in two. -/
theorem save_updated_comm (docs store : StickyDocuments)
    (hwho : who.storageKey = other.storageKey → who = other) {key key' : String}
    (hkey : key ≠ key') (variation variation' : String) :
    (store.save (docs.updated who key variation)).save
        ((docs.save (docs.updated who key variation)).updated other key' variation') =
      (store.save (docs.updated other key' variation')).save
        ((docs.save (docs.updated other key' variation')).updated who key variation) := by
  by_cases hsame : who.storageKey = other.storageKey
  · -- one document, and the last version of it has both assignments
    obtain rfl := hwho hsame
    have hboth : (docs.save (docs.updated who key variation)).updated who key' variation' =
        (docs.save (docs.updated who key' variation')).updated who key variation := by
      rw [updated_save_updated, updated_save_updated, Dictionary.insert_comm _ hkey]
    rw [hboth, save_save, save_save]
    · rfl
    · rfl
  · -- two documents, and neither of them depends on the other one
    have hfirst : (docs.updated who key variation).storageKey ≠ other.storageKey := hsame
    have hsecond : (docs.updated other key' variation').storageKey ≠ who.storageKey := Ne.symm hsame
    rw [updated_save_of_ne docs hfirst, updated_save_of_ne docs hsecond]
    exact save_comm store hsame

/-- The documents with another one put in, if there is another one. -/
def put (docs : StickyDocuments) (doc? : Option StickyDocument) : StickyDocuments :=
  doc?.elim docs docs.save

/-! ### Documents under their own keys -/

/-- Every document is stored under its own key, and no attribute has a bar in its name. -/
structure OwnKeyed (docs : StickyDocuments) : Prop where
  wellKept : docs.WellKept
  bars : ∀ key doc, docs.find? key = some doc → '|' ∉ doc.attributeName.toList

/-- The document at hand for an identity of the user is the user's. -/
theorem OwnKeyed.truthfulFor (h : docs.OwnKeyed) {attributes : Attributes}
    (hwho : who.value = Identity.textOf attributes who.name) (hbar : '|' ∉ who.name.toList) :
    docs.TruthfulFor attributes who := by
  intro doc hfind
  have hkey : doc.storageKey = who.storageKey := h.wellKept _ doc hfind
  obtain ⟨hname, hvalue⟩ := documentKey_inj (h.bars _ doc hfind) hbar hkey
  rw [hvalue, hwho, hname]

end StickyDocuments

theorem Identity.eq_of_storageKey {who other : Identity} (hwho : '|' ∉ who.name.toList)
    (hother : '|' ∉ other.name.toList) (h : who.storageKey = other.storageKey) : who = other := by
  obtain ⟨hname, hvalue⟩ := documentKey_inj hwho hother h
  cases who
  cases other
  cases hname
  cases hvalue
  rfl

/-! ### What a run stores -/

namespace Setting

variable {s : Setting} {docs : StickyDocuments} {x z : Experiment}

/-- The variation key that is stored when an experiment without prerequisites is run, unless
nothing is, or nothing new. -/
def newKey? (s : Setting) (docs : StickyDocuments) (e : Experiment) : Option String :=
  match s.decision docs e with
  | .assigned variation bucket stored =>
    let key := (s.resultOf e none (.assigned variation bucket stored)).key
    if s.sticks e.disableSticky ∧ s.ownAssignment? docs e ≠ some key then some key else none
  | _ => none

/-- The document that is handed to the service then. -/
def newDocument? (s : Setting) (docs : StickyDocuments) (e : Experiment) : Option StickyDocument :=
  (s.newKey? docs e).map
    (docs.updated (s.identityFor e) (assignmentKey e.key e.bucketVersion))

/-- **What follows from the decision is that this document is stored**, at hand and in the
service. -/
theorem conclude_stores (s : Setting) (e : Experiment) (p : Progress) :
    (s.conclude e none (s.decision p.documents e) p).2.documents =
        p.documents.put (s.newDocument? p.documents e) ∧
      (s.conclude e none (s.decision p.documents e) p).2.saved =
        p.saved ++ (s.newDocument? p.documents e).toList := by
  unfold newDocument? newKey?
  cases hd : s.decision p.documents e with
  | excluded => exact ⟨rfl, (List.append_nil _).symm⟩
  | blocked => exact ⟨rfl, (List.append_nil _).symm⟩
  | forced variation => exact ⟨rfl, (List.append_nil _).symm⟩
  | assigned variation bucket stored =>
    rw [conclude_assigned]
    simp only [Eval.documents_track, Eval.saved_track, keep]
    by_cases hsticks : s.sticks e.disableSticky = true
    · by_cases hknown : s.ownAssignment? p.documents e =
          some (s.resultOf e none (.assigned variation bucket stored)).key
      · simp only [hsticks, hknown, ↓reduceIte, ne_eq, not_true, and_false, Option.map_none]
        rw [Eval.assign_of_known hknown]
        exact ⟨rfl, (List.append_nil _).symm⟩
      · simp only [hsticks, hknown, ↓reduceIte, ne_eq, not_false_iff, and_self, Option.map_some]
        rw [Eval.assign_of_new hknown]
        exact ⟨rfl, Progress.saved_cons _ _ _ _⟩
    · rw [if_neg hsticks, if_neg fun hboth => hsticks hboth.1]
      exact ⟨rfl, (List.append_nil _).symm⟩

/-! ### What another experiment has stored -/

/-- **What another experiment has stored makes no difference for the decision.** -/
theorem decision_put (htrue : docs.TruthfulFor s.attributes (s.identityFor z))
    (hkey : x.key ≠ z.key) :
    s.decision (docs.put (s.newDocument? docs z)) x = s.decision docs x := by
  unfold newDocument?
  cases s.newKey? docs z with
  | none => rfl
  | some variation =>
    refine decision_of_stickyVariation ?_
    exact stickyVariation_save_of_ne (fun _ => htrue) (s.value_identityFor z) hkey _ _

/-- And none for what is stored. -/
theorem newKey?_put (htrue : docs.TruthfulFor s.attributes (s.identityFor z))
    (hkey : x.key ≠ z.key) :
    s.newKey? (docs.put (s.newDocument? docs z)) x = s.newKey? docs x := by
  have hown : s.ownAssignment? (docs.put (s.newDocument? docs z)) x = s.ownAssignment? docs x := by
    unfold newDocument?
    cases s.newKey? docs z with
    | none => rfl
    | some variation =>
      show ((docs.save _).assignmentsOf _).find? _ = _
      rw [StickyDocuments.find?_save_updated, if_neg]
      · rfl
      · exact fun hboth => hkey (experiment_eq_of_assignmentKey hboth.2).symm
  unfold newKey?
  rw [decision_put htrue hkey, hown]

/-- **The documents of two experiments may be put in in either order**, into those at hand or
into the service. -/
theorem put_put_comm (htruex : docs.TruthfulFor s.attributes (s.identityFor x))
    (htruez : docs.TruthfulFor s.attributes (s.identityFor z))
    (hwho : (s.identityFor x).storageKey = (s.identityFor z).storageKey →
      s.identityFor x = s.identityFor z) (hkey : x.key ≠ z.key) (store : StickyDocuments) :
    (store.put (s.newDocument? docs x)).put
        (s.newDocument? (docs.put (s.newDocument? docs x)) z) =
      (store.put (s.newDocument? docs z)).put
        (s.newDocument? (docs.put (s.newDocument? docs z)) x) := by
  have hx := newKey?_put (x := x) htruez hkey
  have hz := newKey?_put (x := z) htruex hkey.symm
  have hentry : assignmentKey x.key x.bucketVersion ≠ assignmentKey z.key z.bucketVersion :=
    fun heq => hkey (experiment_eq_of_assignmentKey heq)
  unfold newDocument? at hx hz ⊢
  rw [hx, hz]
  cases s.newKey? docs x with
  | none => rfl
  | some variation =>
    cases s.newKey? docs z with
    | none => rfl
    | some variation' =>
      exact StickyDocuments.save_updated_comm docs store hwho hentry variation variation'

end Setting

/-! ### Two runs -/

namespace Session

variable {s : Session} {e : Experiment}

/-- What a run answers and stores. -/
theorem run_stores (h : e.prerequisites = []) :
    (s.run e).answer = s.setting.resultOf e none (s.setting.decision s.documents e) ∧
      (s.run e).next.documents = s.documents.put (s.setting.newDocument? s.documents e) ∧
      (s.run e).next.service = s.service.put (s.setting.newDocument? s.documents e) := by
  obtain ⟨hdocuments, hsaved⟩ :=
    s.setting.conclude_stores e ⟨s.documents, s.tracker, []⟩
  rw [run_of_prerequisites_nil h, compute_eq]
  refine ⟨Setting.conclude_fst _ _ _ _ _, hdocuments, ?_⟩
  show (Progress.saved _).foldl StickyDocuments.save s.service = _
  rw [hsaved]
  cases s.setting.newDocument? s.documents e <;> rfl

/-- **The order in which two experiments are run does not matter**: each of them gives the answer
that it gives when it is run alone, and the same documents are there in the end, at hand and in
the service. -/
theorem runs_commute (s : Session) (x z : Experiment) (hkey : x.key ≠ z.key)
    (hx : x.prerequisites = []) (hz : z.prerequisites = []) (hdocs : s.documents.OwnKeyed)
    (hbarx : '|' ∉ (s.setting.identityFor x).name.toList)
    (hbarz : '|' ∉ (s.setting.identityFor z).name.toList) :
    ((s.run z).next.run x).answer = (s.run x).answer ∧
      ((s.run x).next.run z).answer = (s.run z).answer ∧
      ((s.run x).next.run z).next.documents = ((s.run z).next.run x).next.documents ∧
      ((s.run x).next.run z).next.service = ((s.run z).next.run x).next.service := by
  have htruex := hdocs.truthfulFor (s.setting.value_identityFor x) hbarx
  have htruez := hdocs.truthfulFor (s.setting.value_identityFor z) hbarz
  have hcomm := Setting.put_put_comm htruex htruez (Identity.eq_of_storageKey hbarx hbarz) hkey
  obtain ⟨hanswerx, hdocsx, hservicex⟩ := run_stores (s := s) hx
  obtain ⟨hanswerz, hdocsz, hservicez⟩ := run_stores (s := s) hz
  obtain ⟨hanswerx', hdocsx', hservicex'⟩ := run_stores (s := (s.run z).next) hx
  obtain ⟨hanswerz', hdocsz', hservicez'⟩ := run_stores (s := (s.run x).next) hz
  -- a run changes nothing that evaluations depend on
  have hsetx : (s.run x).next.setting = s.setting := rfl
  have hsetz : (s.run z).next.setting = s.setting := rfl
  rw [hsetz, hdocsz] at hanswerx' hdocsx' hservicex'
  rw [hsetx, hdocsx] at hanswerz' hdocsz' hservicez'
  refine ⟨?_, ?_, ?_, ?_⟩
  · rw [hanswerx', hanswerx, Setting.decision_put htruez hkey]
  · rw [hanswerz', hanswerz, Setting.decision_put htruex hkey.symm]
  · rw [hdocsz', hdocsx', hcomm s.documents]
  · rw [hservicez', hservicex', hservicez, hservicex, hcomm s.service]

/-- A device that a user has been assigned on before. -/
def tablet : Session :=
  { guest with
    service := .ofList [⟨"device", "d1", .ofList [("old__0", "1")]⟩]
    documents := .ofList [⟨"device", "d1", .ofList [("old__0", "1")]⟩] }

/-- An experiment for users, and for devices of guests. -/
def poster : Experiment :=
  { Experiment.basic "poster" [.str "a", .str "b"] with fallbackAttribute := some "device" }

/-- An experiment for devices, whose key looks like an assignment of the other one. -/
def posterAgain : Experiment :=
  { Experiment.basic "poster__0" [.str "a", .str "b"] with hashAttribute := some "device" }

/-- Both keep their assignments in the document of the device. -/
theorem tablet_runs_commute :
    ((tablet.run posterAgain).next.run poster).answer = (tablet.run poster).answer ∧
      ((tablet.run poster).next.run posterAgain).answer = (tablet.run posterAgain).answer ∧
      ((tablet.run poster).next.run posterAgain).next.service =
        .ofList [⟨"device", "d1",
          .ofList [("old__0", "1"), ("poster__0", "0"), ("poster__0__0", "0")]⟩] ∧
      ((tablet.run posterAgain).next.run poster).next.service =
        ((tablet.run poster).next.run posterAgain).next.service := by
  have hbars : ∀ key doc, tablet.documents.find? key = some doc →
      '|' ∉ doc.attributeName.toList := by
    intro key doc hfind
    rw [show tablet.documents = StickyDocuments.save .empty _ from rfl,
      StickyDocuments.find?_save] at hfind
    split at hfind
    · cases hfind
      decide
    · cases hfind
  have hdocs : tablet.documents.OwnKeyed := ⟨StickyDocuments.wellKept_ofList _, hbars⟩
  obtain ⟨hposter, hagain, -, hservice⟩ := runs_commute tablet poster posterAgain (by decide) rfl rfl
    hdocs (by decide) (by decide)
  exact ⟨hposter, hagain, by decide +kernel, hservice.symm⟩

end Session
end FeatureFlags
