/-
# Where no assignments are stored

What an evaluation answers may depend on the documents at hand, and on nothing else that an
evaluation changes: the tracker decides what is reported, never what is answered. So where no
assignments are stored the answer depends on the setting alone (`Setting.oblivious_evaluate`,
`Setting.oblivious_runExperiment`). And nothing is left of a call but what the tracker remembers
(`Session.documents_call`, `Session.handed_call`).

Key definitions: `Eval.Oblivious`.
Key theorems: `Setting.oblivious_evaluate`, `Session.documents_call`, `Session.handed_call`.
-/
import FeatureFlags.Proofs.Coherence
import FeatureFlags.Proofs.Composition

namespace FeatureFlags

/-! ### Answers -/

/-- The answer does not depend on what has happened before. -/
def Eval.Oblivious {α : Type} (c : Eval α) : Prop := ∀ p q, (c p).1 = (c q).1

namespace Eval

variable {α β : Type}

theorem Oblivious.pure (a : α) : Oblivious (pure a) := fun _ _ => rfl

theorem Oblivious.bind {c : Eval α} {f : α → Eval β} (hc : Oblivious c)
    (hf : ∀ a, Oblivious (f a)) : Oblivious (c >>= f) := by
  intro p q
  have hanswer := hf (c p).1 (c p).2 (c q).2
  rw [bind_apply, bind_apply, hanswer, hc p q]

/-- What only makes progress has one answer. -/
theorem Oblivious.unit (c : Eval Unit) : Oblivious c := fun _ _ => rfl

theorem oblivious_reportUse (path : List String) (feature : String) (result : FeatureResult) :
    Oblivious (reportUse path feature result) :=
  fun _ _ => rfl

theorem compositional_oblivious : Compositional fun _ => Oblivious :=
  ⟨Oblivious.pure, Oblivious.bind⟩

end Eval

namespace Setting

variable {s : Setting} {evaluate : String → Eval FeatureResult}

theorem sticks_of_not_sticky (h : s.options.sticky = false) (disabled : Bool) :
    s.sticks disabled = false := by
  unfold sticks
  rw [h]
  rfl

theorem oblivious_decide (h : s.options.sticky = false)
    (hev : ∀ feature, Eval.Oblivious (evaluate feature)) (e : Experiment) :
    Eval.Oblivious (s.decide evaluate e) := by
  have htarget : Eval.Oblivious (s.isTarget evaluate e) :=
    Eval.compositional_oblivious.isTarget hev e
  intro p q
  cases hearly : s.early? e with
  | some early => rw [decide_of_early hearly, decide_of_early hearly]
  | none =>
    -- documents are looked at only for stored assignments, of which there are none
    have hnone := stickyVariation_of_not_sticks (sticks_of_not_sticky h e.disableSticky)
    rw [decide_of_undecided hearly, decide_of_undecided hearly, hnone, hnone]
    simp only [StickyVariation.variation?, Option.isSome_none, Bool.false_eq_true, ↓reduceIte]
    rw [htarget p q]

theorem oblivious_run (h : s.options.sticky = false)
    (hev : ∀ feature, Eval.Oblivious (evaluate feature)) (e : Experiment)
    (feature : Option String) : Eval.Oblivious (s.run evaluate e feature) := by
  rw [run_eq_bind]
  refine .bind (oblivious_decide h hev e) fun decision => fun p q => ?_
  rw [conclude_fst, conclude_fst]

/-- **Without stored assignments the answer depends on the setting alone.** -/
theorem oblivious_evaluate (h : s.options.sticky = false) (path : List String) (feature : String)
    (kind : Option ValueKind) : Eval.Oblivious (s.evaluate path feature kind) :=
  Eval.compositional_oblivious.evaluate Eval.oblivious_reportUse (fun _ _ => .unit _)
    (fun _ feature _ _ e hev _ _ _ => oblivious_run h hev e (some feature)) path feature kind

theorem oblivious_runExperiment (h : s.options.sticky = false) (e : Experiment) :
    Eval.Oblivious (s.runExperiment e) :=
  oblivious_run h (fun feature => oblivious_evaluate h [] feature none) e none

/-- An assignment is only made where assignments are stored. -/
theorem not_assigns_of_not_sticky (h : s.options.sticky = false) {runs : Experiment → Prop}
    {who : Identity} {key variation : String} : ¬ s.Assigns runs who key variation := by
  intro hassigns
  cases hassigns with
  | place _ hsticks =>
    rw [sticks_of_not_sticky h] at hsticks
    cases hsticks

/-- A computation that takes steps stores nothing where no assignments are stored. -/
theorem sameStored_of_moves {α : Type} {runs : Experiment → Prop} {c : Eval α}
    (h : s.options.sticky = false) (hmoves : c.Moves (s.Step runs)) (p : Progress) :
    (c p).2.documents = p.documents ∧ (c p).2.saved = p.saved := by
  have hstep : ∀ q r : Progress, s.Step runs q r →
      q.documents = p.documents ∧ q.saved = p.saved →
      r.documents = p.documents ∧ r.saved = p.saved := by
    intro q r hstep hq
    rcases hstep.documents_cases with ⟨hdocuments, hsaved⟩ | ⟨who, key, variation, hassigns, -⟩
    · exact ⟨hdocuments.trans hq.1, hsaved.trans hq.2⟩
    · exact absurd hassigns (not_assigns_of_not_sticky h)
  exact hmoves.preserves hstep ⟨rfl, rfl⟩

end Setting

/-! ### In a session -/

namespace Session

variable {s : Session}

/-- Where no assignments are stored there is nothing to load. -/
theorem refresh_of_not_sticky (h : s.options.sticky = false) : s.refresh = s := by
  unfold refresh
  rw [h]
  rfl

/-- Nothing is saved where no assignments are stored. -/
theorem handed_call (h : s.options.sticky = false) (c : Call) : (s.call c).handed = [] := by
  rcases call_cases s c with ⟨hhanded, -⟩ | ⟨α, computation, hmoves, heq⟩
  · exact hhanded
  · rw [heq]
    exact (Setting.sameStored_of_moves h hmoves ⟨s.documents, s.tracker, []⟩).2

theorem Settles.documents_eq {next : Session} (hsettles : s.Settles next)
    (h : s.options.sticky = false) : next.documents = s.documents := by
  cases hsettles with
  | kept _ _ hdocuments => exact hdocuments
  | loaded _ hoptions hdocuments =>
    rw [← hoptions] at h
    rw [refresh_of_not_sticky h]
    exact hdocuments

/-- The documents at hand stay as they are. -/
theorem documents_call (h : s.options.sticky = false) (c : Call) :
    (s.call c).next.documents = s.documents := by
  rcases call_cases s c with ⟨-, hsettles⟩ | ⟨α, computation, hmoves, heq⟩
  · exact hsettles.documents_eq h
  · rw [heq]
    exact (Setting.sameStored_of_moves h hmoves ⟨s.documents, s.tracker, []⟩).1

end Session
end FeatureFlags
