/-
# What keeping an assignment does to documents

An assignment that is kept goes into the document of one identity, in place of an older
one of the same key; every other assignment, and every other document, stays as it is
(`find?_assign`). If this says something new, the document is handed to the service. So
in the course of an evaluation documents only grow, and those at hand are always those at
the start with the documents handed over since put in their places (`Setting.Grown`).

Documents are told apart by their storage key. Attribute names without a bar are told
apart by it, together with the values (`documentKey_inj`).

Key definitions: `Identity.storageKey`, `Setting.Assigns`, `Setting.Grown`, `Setting.Entered`.
Key theorems: `Eval.find?_assign`, `Setting.grown_of_moves`, `Setting.entered_of_moves`,
`documentKey_inj`.
-/
import FeatureFlags.Proofs.Steps

namespace FeatureFlags

/-! ### Storage keys -/

/-- The key that the document of an identity is stored under. -/
def Identity.storageKey (who : Identity) : String := documentKey who.name who.value

/-- What stands before the first mark is no longer than what stands before any mark. -/
theorem length_le_of_append_cons {α : Type} {mark : α} : ∀ {xs ys us vs : List α}, mark ∉ xs →
    xs ++ mark :: us = ys ++ mark :: vs → xs.length ≤ ys.length
  | [], _, _, _, _, _ => Nat.zero_le _
  | x :: xs, [], us, vs, hmark, h => by
    have hx : x = mark := (List.cons.inj h).1
    exact absurd (hx ▸ List.mem_cons_self) hmark
  | x :: xs, y :: ys, us, vs, hmark, h => by
    have hrest := length_le_of_append_cons (fun hmem => hmark (List.mem_cons_of_mem x hmem))
      (List.cons.inj h).2
    simp only [List.length_cons]
    omega

theorem toList_documentKey (name value : String) :
    (documentKey name value).toList = name.toList ++ '|' :: '|' :: value.toList := by
  simp [documentKey]

/-- Of all ways to read a storage key, a name without a bar is the shortest. -/
theorem documentKey_length_le {name name' value value' : String} (hname : '|' ∉ name.toList)
    (h : documentKey name value = documentKey name' value') :
    name.toList.length ≤ name'.toList.length := by
  have hlists := congrArg String.toList h
  rw [toList_documentKey, toList_documentKey] at hlists
  exact length_le_of_append_cons hname hlists

/-- **Storage keys tell names without a bar apart.** -/
theorem documentKey_inj {name name' value value' : String} (hname : '|' ∉ name.toList)
    (hname' : '|' ∉ name'.toList) (h : documentKey name value = documentKey name' value') :
    name = name' ∧ value = value' := by
  have hle := documentKey_length_le hname h
  have hge := documentKey_length_le hname' h.symm
  have hlists := congrArg String.toList h
  rw [toList_documentKey, toList_documentKey] at hlists
  obtain ⟨hnames, hvalues⟩ := List.append_inj hlists (by omega)
  injection hvalues with _ hvalues
  injection hvalues with _ hvalues
  exact ⟨String.toList_inj.mp hnames, String.toList_inj.mp hvalues⟩

/-- The storage key of an empty value is that of no other value. -/
theorem documentKey_value_eq_empty {name name' value : String} (hname : '|' ∉ name.toList)
    (h : documentKey name "" = documentKey name' value) : value = "" := by
  have hle := documentKey_length_le hname h
  have hlengths := congrArg (fun key => key.toList.length) h
  simp only [toList_documentKey, List.length_append, List.length_cons, String.toList_empty,
    List.length_nil] at hlengths
  have hnil : value.toList.length = 0 := by omega
  exact String.toList_inj.mp (List.eq_nil_of_length_eq_zero hnil)

namespace StickyDocuments

/-- The document of an identity with one more assignment. -/
def updated (docs : StickyDocuments) (who : Identity) (key variation : String) : StickyDocument :=
  ⟨who.name, who.value, (docs.assignmentsOf who).insert key variation⟩

theorem assignmentsOf_eq (docs : StickyDocuments) (who : Identity) :
    docs.assignmentsOf who =
      ((docs.find? who.storageKey).map StickyDocument.assignments).getD .empty := by
  unfold assignmentsOf Identity.storageKey
  cases docs.find? (documentKey who.name who.value) <;> rfl

theorem assignmentsOf_congr (docs : StickyDocuments) {who other : Identity}
    (h : who.storageKey = other.storageKey) :
    docs.assignmentsOf who = docs.assignmentsOf other := by
  rw [assignmentsOf_eq, assignmentsOf_eq, h]

theorem assignmentsOf_save (docs : StickyDocuments) (doc : StickyDocument) (who : Identity) :
    (docs.save doc).assignmentsOf who =
      if doc.storageKey = who.storageKey then doc.assignments else docs.assignmentsOf who := by
  rw [assignmentsOf_eq, assignmentsOf_eq, find?_save]
  split <;> rfl

/-- Whether one of the documents is that of the identity. -/
abbrev Holds (saved : List StickyDocument) (who : Identity) : Prop :=
  ∃ doc ∈ saved, doc.storageKey = who.storageKey

/-- Documents of others change nothing. -/
theorem assignmentsOf_foldl_save_of_not {who : Identity} :
    ∀ {saved : List StickyDocument}, ¬ Holds saved who → ∀ docs : StickyDocuments,
      (saved.foldl save docs).assignmentsOf who = docs.assignmentsOf who
  | [], _, _ => rfl
  | doc :: rest, h, docs => by
    have hdoc : doc.storageKey ≠ who.storageKey := fun heq => h ⟨doc, List.mem_cons_self, heq⟩
    have hrest : ¬ Holds rest who := fun ⟨other, hmem, heq⟩ =>
      h ⟨other, List.mem_cons_of_mem _ hmem, heq⟩
    rw [List.foldl_cons, assignmentsOf_foldl_save_of_not hrest, assignmentsOf_save, if_neg hdoc]

/-- What is stored for an identity is what the last of its documents says. -/
theorem exists_last {who : Identity} {saved : List StickyDocument} (h : Holds saved who) :
    ∃ last ∈ saved, last.storageKey = who.storageKey ∧ ∀ docs : StickyDocuments,
      (saved.foldl save docs).assignmentsOf who = last.assignments := by
  induction saved with
  | nil =>
    obtain ⟨doc, hmem, -⟩ := h
    cases hmem
  | cons doc rest ih =>
    by_cases hrest : Holds rest who
    · obtain ⟨last, hmem, hlast, hstored⟩ := ih hrest
      exact ⟨last, List.mem_cons_of_mem _ hmem, hlast, fun docs => hstored (docs.save doc)⟩
    · obtain ⟨other, hmem, hother⟩ := h
      rcases List.mem_cons.mp hmem with rfl | hmem
      · refine ⟨other, List.mem_cons_self, hother, fun docs => ?_⟩
        rw [List.foldl_cons, assignmentsOf_foldl_save_of_not hrest, assignmentsOf_save,
          if_pos hother]
      · exact absurd ⟨other, hmem, hother⟩ hrest

/-- **In an updated document the new assignment is found, and no other one is changed.** -/
theorem find?_save_updated (docs : StickyDocuments) (who other : Identity)
    (key key' variation : String) :
    ((docs.save (docs.updated who key variation)).assignmentsOf other).find? key' =
      if who.storageKey = other.storageKey ∧ key = key' then some variation
      else (docs.assignmentsOf other).find? key' := by
  have hdoc : (docs.updated who key variation).storageKey = who.storageKey := rfl
  rw [assignmentsOf_save, hdoc]
  by_cases hwho : who.storageKey = other.storageKey
  · rw [if_pos hwho, updated, Dictionary.find?_insert, assignmentsOf_congr _ hwho]
    simp [hwho]
  · rw [if_neg hwho, if_neg fun hboth => hwho hboth.1]

/-- What is known goes on to be known. -/
theorem isSome_find?_save_updated (docs : StickyDocuments) (who : Identity)
    (key variation : String) {other : Identity} {key' : String}
    (h : ((docs.assignmentsOf other).find? key').isSome) :
    (((docs.save (docs.updated who key variation)).assignmentsOf other).find? key').isSome := by
  rw [find?_save_updated]
  split
  · rfl
  · exact h

end StickyDocuments

/-! ### Keeping an assignment -/

namespace Eval

variable {who : Identity} {key variation : String} {p : Progress}

/-- What is known already changes nothing. -/
theorem assign_of_known
    (h : (p.documents.assignmentsOf who).find? key = some variation) :
    assign who key variation p = ((), p) := by
  have hsame : (p.documents.assignmentsOf who).insert key variation =
      p.documents.assignmentsOf who := Dictionary.insert_eq_self_iff.mpr h
  have hchanged : (p.documents.assign who (Dictionary.empty.insert key variation)).changed =
      false := decide_eq_false (not_not_intro hsame)
  simp [assign, hchanged]

/-- What is new is put into the document, and the document is handed to the service. -/
theorem assign_of_new
    (h : (p.documents.assignmentsOf who).find? key ≠ some variation) :
    assign who key variation p =
      ((), { p with
        documents := p.documents.save (p.documents.updated who key variation)
        history := .saved (p.documents.updated who key variation) :: p.history }) := by
  have hne : (p.documents.assignmentsOf who).insert key variation ≠
      p.documents.assignmentsOf who := fun hsame => h (Dictionary.insert_eq_self_iff.mp hsame)
  have hchanged : (p.documents.assign who (Dictionary.empty.insert key variation)).changed =
      true := decide_eq_true hne
  simp only [assign, modify_apply, hchanged, ↓reduceIte]
  rfl

/-- **An assignment that is kept is found, and no other one is changed.** -/
theorem find?_assign (other : Identity) (key' : String) :
    ((assign who key variation p).2.documents.assignmentsOf other).find? key' =
      if who.storageKey = other.storageKey ∧ key = key' then some variation
      else (p.documents.assignmentsOf other).find? key' := by
  by_cases h : (p.documents.assignmentsOf who).find? key = some variation
  · rw [assign_of_known h]
    split
    · rename_i hboth
      rw [← StickyDocuments.assignmentsOf_congr _ hboth.1, ← hboth.2, h]
    · rfl
  · rw [assign_of_new h]
    exact StickyDocuments.find?_save_updated _ who other key key' variation

theorem documents_track (e : Experiment) (result : ExperimentResult) (p : Progress) :
    (track e result p).2.documents = p.documents := by
  simp only [track, modify_apply]
  split <;> rfl

end Eval

/-! ### Documents along an evaluation -/

/-- The documents that were handed to the service. -/
def Outcome.handed {α σ : Type} (o : Outcome α σ) : List StickyDocument :=
  o.events.filterMap Event.saved?

theorem Progress.saved_cons (docs : StickyDocuments) (tracker : Tracker) (event : Event)
    (history : List Event) :
    Progress.saved ⟨docs, tracker, event :: history⟩ =
      Progress.saved ⟨docs, tracker, history⟩ ++ event.saved?.toList := by
  cases event <;> simp [saved, events, Event.saved?]

theorem Eval.saved_track (e : Experiment) (result : ExperimentResult) (p : Progress) :
    (track e result p).2.saved = p.saved := by
  simp only [track, modify_apply]
  split
  · rw [Progress.saved_cons]
    exact List.append_nil _
  · rfl

/-- The documents at hand are the same, and no other ones have been handed to the service. -/
structure Progress.SameStored (p q : Progress) : Prop where
  documents : q.documents = p.documents
  saved : q.saved = p.saved

theorem Progress.SameStored.refl (p : Progress) : p.SameStored p := ⟨rfl, rfl⟩

theorem Progress.SameStored.trans {p q r : Progress} (h : p.SameStored q) (h' : q.SameStored r) :
    p.SameStored r :=
  ⟨h'.documents.trans h.documents, h'.saved.trans h.saved⟩

namespace Setting

variable {s : Setting} {runs : Experiment → Prop} {p q : Progress}

theorem sameStored_reportUse (path : List String) (feature : String) (result : FeatureResult)
    (p : Progress) : p.SameStored (Eval.reportUse path feature result p).2 :=
  ⟨rfl, (Progress.saved_cons p.documents p.tracker _ p.history).trans (List.append_nil _)⟩

theorem sameStored_trackAll : ∀ (exposures : List TrackedExposure) (p : Progress),
    p.SameStored (Eval.trackAll exposures p).2
  | [], p => .refl p
  | exposure :: rest, p =>
    .trans ⟨Eval.documents_track exposure.experiment exposure.result p,
      Eval.saved_track exposure.experiment exposure.result p⟩ (sameStored_trackAll rest _)

/-- One of the experiments `runs` may put the user into a variation, and then stores its
key under `key` in the document of `who`. -/
inductive Assigns (s : Setting) (runs : Experiment → Prop) :
    (who : Identity) → (key variation : String) → Prop where
  | place {e : Experiment} {feature : Option String} {sticky : StickyVariation} {variation : Nat}
    {bucket : Float} {stored : Bool} (hruns : runs e) (hsticks : s.sticks e.disableSticky)
    (hearly : s.early? e = none) (hplace : s.place e sticky = .assigned variation bucket stored) :
    Assigns s runs (s.identityFor e) (assignmentKey e.key e.bucketVersion)
      (s.resultOf e feature (.assigned variation bucket stored)).key

/-- A step leaves the documents alone, or it puts a new assignment into the document of
the user, and hands the document over. -/
theorem Step.documents_cases (h : s.Step runs p q) :
    (q.documents = p.documents ∧ q.saved = p.saved) ∨
    ∃ who key variation, s.Assigns runs who key variation ∧
      (p.documents.assignmentsOf who).find? key ≠ some variation ∧
      q.documents = p.documents.save (p.documents.updated who key variation) ∧
      q.saved = p.saved ++ [p.documents.updated who key variation] := by
  cases h with
  | use path feature result =>
    refine Or.inl ⟨rfl, ?_⟩
    exact (Progress.saved_cons p.documents p.tracker _ p.history).trans (List.append_nil _)
  | track e result =>
    exact Or.inl ⟨Eval.documents_track e result p, Eval.saved_track e result p⟩
  | @keep e feature _ variation bucket stored hruns hearly hplace _ =>
    unfold Setting.keep
    split
    · rename_i hsticks
      by_cases hknown : (p.documents.assignmentsOf (s.identityFor e)).find?
          (assignmentKey e.key e.bucketVersion) =
            some (s.resultOf e feature (.assigned variation bucket stored)).key
      · rw [Eval.assign_of_known hknown]
        exact Or.inl ⟨rfl, rfl⟩
      · rw [Eval.assign_of_new hknown]
        exact Or.inr ⟨_, _, _, .place hruns hsticks hearly hplace, hknown, rfl,
          Progress.saved_cons _ _ _ _⟩
    · exact Or.inl ⟨rfl, rfl⟩

/-- What has become of the documents `docs` in the course of an evaluation. -/
structure Grown (s : Setting) (runs : Experiment → Prop) (docs : StickyDocuments)
    (p : Progress) : Prop where
  /-- The documents at hand are those at the start with the ones handed over put in. -/
  stored : p.documents = p.saved.foldl StickyDocuments.save docs
  /-- What was known at the start is known under the same key. -/
  kept : ∀ who key, ((docs.assignmentsOf who).find? key).isSome →
    ((p.documents.assignmentsOf who).find? key).isSome
  /-- What was handed over is known under the same key. -/
  handed : ∀ doc ∈ p.saved, ∀ who, doc.storageKey = who.storageKey → ∀ key,
    (doc.assignments.find? key).isSome → ((p.documents.assignmentsOf who).find? key).isSome
  /-- What was not known at the start has been assigned. -/
  assigned : ∀ who key variation, (p.documents.assignmentsOf who).find? key = some variation →
    (docs.assignmentsOf who).find? key = some variation ∨
      ∃ other, other.storageKey = who.storageKey ∧ s.Assigns runs other key variation

theorem Grown.start (docs : StickyDocuments) (tracker : Tracker) :
    s.Grown runs docs ⟨docs, tracker, []⟩ where
  stored := rfl
  kept _ _ h := h
  handed _ h := absurd h List.not_mem_nil
  assigned _ _ _ h := Or.inl h

theorem Step.grown {docs : StickyDocuments} (h : s.Step runs p q) (hp : s.Grown runs docs p) :
    s.Grown runs docs q := by
  rcases h.documents_cases with
    ⟨hdocs, hsaved⟩ | ⟨who, key, variation, hassigns, -, hdocs, hsaved⟩
  · obtain ⟨hstored, hkept, hhanded, hassigned⟩ := hp
    refine ⟨?_, ?_, ?_, ?_⟩ <;> rw [hdocs]
    · rw [hsaved, hstored]
    · exact hkept
    · rw [hsaved]
      exact hhanded
    · exact hassigned
  · have hfind : ∀ other key', (q.documents.assignmentsOf other).find? key' =
        if who.storageKey = other.storageKey ∧ key = key' then some variation
        else (p.documents.assignmentsOf other).find? key' := by
      intro other key'
      rw [hdocs]
      exact StickyDocuments.find?_save_updated _ who other key key' variation
    have hgrows : ∀ other key', ((p.documents.assignmentsOf other).find? key').isSome →
        ((q.documents.assignmentsOf other).find? key').isSome := by
      intro other key' hsome
      rw [hdocs]
      exact StickyDocuments.isSome_find?_save_updated _ who key variation hsome
    refine ⟨?_, fun other key' h => hgrows other key' (hp.kept other key' h), ?_, ?_⟩
    · rw [hdocs, hsaved, List.foldl_append, ← hp.stored]
      rfl
    · intro doc hdoc other hother key' hsome
      rw [hsaved, List.mem_append, List.mem_singleton] at hdoc
      rcases hdoc with hdoc | rfl
      · exact hgrows other key' (hp.handed doc hdoc other hother key' hsome)
      · rw [hdocs, StickyDocuments.assignmentsOf_save, if_pos hother]
        exact hsome
    · intro other key' variation' hsome
      rw [hfind] at hsome
      split at hsome
      · rename_i hboth
        cases hsome
        exact Or.inr ⟨who, hboth.1, hboth.2 ▸ hassigns⟩
      · exact hp.assigned other key' variation' hsome

/-- **Documents only grow in the course of an evaluation, by assignments.** -/
theorem grown_of_moves {α : Type} {c : Eval α} (hc : c.Moves (s.Step runs))
    (docs : StickyDocuments) (tracker : Tracker) :
    s.Grown runs docs (c ⟨docs, tracker, []⟩).2 :=
  hc.preserves (fun _ _ hstep hp => hstep.grown hp) (.start docs tracker)

/-- Each of some documents is the one that was at hand before it, with one new assignment put
in. The first of them was made from `docs`, and each was put in its place. -/
def Entered (s : Setting) (runs : Experiment → Prop) (docs : StickyDocuments)
    (saved : List StickyDocument) : Prop :=
  ∀ before doc after, saved = before ++ doc :: after →
    ∃ who key variation, s.Assigns runs who key variation ∧
      ((before.foldl StickyDocuments.save docs).assignmentsOf who).find? key ≠ some variation ∧
      doc = (before.foldl StickyDocuments.save docs).updated who key variation

theorem entered_nil (docs : StickyDocuments) : s.Entered runs docs [] :=
  fun before doc after hsplit =>
    absurd hsplit.symm (List.append_ne_nil_of_right_ne_nil before (List.cons_ne_nil doc after))

theorem Step.entered {docs : StickyDocuments} (h : s.Step runs p q) (hp : s.Grown runs docs p)
    (hentered : s.Entered runs docs p.saved) : s.Entered runs docs q.saved := by
  rcases h.documents_cases with
    ⟨-, hsaved⟩ | ⟨who, key, variation, hassigns, hnew, -, hsaved⟩
  · rw [hsaved]
    exact hentered
  · intro before doc after hsplit
    rw [hsaved] at hsplit
    rcases List.eq_nil_or_concat after with rfl | ⟨init, last, rfl⟩
    · -- the document that is handed over by this step
      obtain ⟨hbefore, hdoc⟩ := List.append_inj' hsplit rfl
      cases hdoc
      rw [← hbefore, ← hp.stored]
      exact ⟨who, key, variation, hassigns, hnew, rfl⟩
    · refine hentered before doc init ?_
      rw [List.concat_eq_append, ← List.cons_append, ← List.append_assoc] at hsplit
      exact (List.append_inj' hsplit rfl).1

/-- **Every document that an evaluation hands over has one new entry.** -/
theorem entered_of_moves {α : Type} {c : Eval α} (hc : c.Moves (s.Step runs))
    (docs : StickyDocuments) (tracker : Tracker) :
    s.Entered runs docs (c ⟨docs, tracker, []⟩).2.saved := by
  have hstep : ∀ p q, s.Step runs p q → s.Grown runs docs p ∧ s.Entered runs docs p.saved →
      s.Grown runs docs q ∧ s.Entered runs docs q.saved :=
    fun _ _ h hp => ⟨h.grown hp.1, h.entered hp.1 hp.2⟩
  exact (hc.preserves hstep (p := ⟨docs, tracker, []⟩) ⟨.start docs tracker, entered_nil docs⟩).2

end Setting
end FeatureFlags
