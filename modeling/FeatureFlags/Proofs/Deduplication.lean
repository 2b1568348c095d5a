/-
# Exposures are reported once

A tracker remembers as many exposures as it has room for, and lets those pass that it does not
remember. What it remembers is a suffix of what it has let pass (`Tracker.recent_after`): a new
exposure goes to the end, and the oldest one leaves at the front. An exposure that is turned down is
not moved to the end. So between two reports of one exposure there are as many reports of others as
there is room for (`Tracker.capacity_le_of_log`).

Evaluations ask the tracker whenever an exposure comes up, whether it is that of an experiment or one
that belongs to a rule, and report it if the tracker lets it pass. Which exposures come up depends on
the documents at hand but not on the tracker (`Eval.Tracks`): all of them are seen if nothing is
remembered. So what is reported, whatever sessions share the tracker and whatever is done with them,
is what the tracker lets pass of what comes up (`Tracker.reports_eq_log`).

Key definitions: `Tracker.Request`, `Tracker.log`, `Tracker.sinceClear`, `Eval.Tracks`,
`Tracker.Turn`.
Key theorems: `Tracker.recent_after`, `Session.tracks_call`, `Tracker.reports_eq_log`,
`Tracker.reports_each_once`.
-/
import FeatureFlags.Proofs.Coherence
import FeatureFlags.Proofs.Composition
import Mathlib.Data.List.DropRight

namespace FeatureFlags

/-! ### A tracker by itself -/

namespace Tracker

/-- What a tracker can be told. -/
inductive Request where
  /-- An exposure has come up. -/
  | track (exposure : Exposure)
  | clear
deriving DecidableEq

/-- Whether the tracker goes along with a request: an exposure may be turned down. -/
def grants (t : Tracker) : Request → Bool
  | .track x => (t.track x).1
  | .clear => true

/-- The tracker after a request. -/
def next (t : Tracker) : Request → Tracker
  | .track x => (t.track x).2
  | .clear => t.clear

/-- The tracker after several requests. -/
def after (t : Tracker) (requests : List Request) : Tracker := requests.foldl next t

/-- The requests that are granted: the exposures that are let pass, and each clearing. -/
def log (t : Tracker) : List Request → List Request
  | [] => []
  | request :: rest => (if t.grants request then [request] else []) ++ (t.next request).log rest

/-- The exposures of a log up to now, if `xs` are those before a request. -/
def Request.onto (xs : List Exposure) : Request → List Exposure
  | .track x => xs ++ [x]
  | .clear => []

/-- The exposures of a log since the tracker was cleared last. -/
def sinceClear (requests : List Request) : List Exposure := requests.foldl Request.onto []

variable {t : Tracker} {x : Exposure} {xs : List Exposure} {requests : List Request}

theorem log_append (t : Tracker) (requests rest : List Request) :
    t.log (requests ++ rest) = t.log requests ++ (t.after requests).log rest := by
  induction requests generalizing t with
  | nil => rfl
  | cons request others ih =>
    rw [List.cons_append, log, log, ih, List.append_assoc]
    rfl

theorem after_append (t : Tracker) (requests rest : List Request) :
    t.after (requests ++ rest) = (t.after requests).after rest :=
  List.foldl_append

@[simp] theorem capacity_next (t : Tracker) (request : Request) :
    (t.next request).capacity = t.capacity := by
  cases request with
  | track x => exact capacity_track t x
  | clear => rfl

@[simp] theorem capacity_after (t : Tracker) (requests : List Request) :
    (t.after requests).capacity = t.capacity := by
  induction requests generalizing t with
  | nil => rfl
  | cons request rest ih => exact (ih (t.next request)).trans (capacity_next t request)

/-- An exposure is turned down if it is remembered. -/
theorem track_fst_eq_false_iff : (t.track x).1 = false ↔ x ∈ t.recent := by
  unfold track
  split
  · next h => exact iff_of_true rfl h
  · next h => exact iff_of_false nofun h

/-- **One more exposure is one more at the end of what is remembered**, as far as there is room. -/
theorem recent_remember (h : t.recent = xs.rtake t.capacity) :
    (t.remember x).recent = (xs ++ [x]).rtake t.capacity := by
  have hlength : t.recent.length = min t.capacity xs.length := by
    rw [h, List.rtake, List.length_drop]
    omega
  unfold remember
  split
  · next hzero =>
    rw [hzero, List.rtake_zero] at h ⊢
    exact h
  · next hzero =>
    obtain ⟨n, hn⟩ := Nat.exists_eq_succ_of_ne_zero hzero
    rw [hn, Nat.succ_eq_add_one, List.rtake_concat_succ]
    rw [hn] at h hlength
    split
    · next hroom =>
      have hfew : xs.length ≤ n := by omega
      have hall : ∀ m, xs.length ≤ m → xs.rtake m = xs := fun m hm => by
        rw [List.rtake, Nat.sub_eq_zero_of_le hm, List.drop_zero]
      rw [h, hall n hfew, hall _ (Nat.le_succ_of_le hfew)]
    · next hroom =>
      -- the oldest one leaves
      have hdrop : (xs.rtake (n + 1)).drop 1 = xs.rtake n := by
        rw [List.rtake, List.rtake, List.drop_drop]
        congr 1
        omega
      rw [h, hdrop]

/-- One request, granted or not, keeps what is remembered the end of what was let pass. -/
theorem recent_next (h : t.recent = xs.rtake t.capacity) (request : Request) :
    (t.next request).recent =
      ((if t.grants request then [request] else []).foldl Request.onto xs).rtake t.capacity := by
  cases request with
  | clear => simp [next, clear, grants, Request.onto]
  | track x =>
    by_cases hmem : x ∈ t.recent
    · simp [next, grants, track, hmem, h.symm]
    · simp [next, grants, track, hmem, recent_remember h, Request.onto]

/-- **What is remembered is the end of what was let pass since the tracker was cleared.** -/
theorem recent_after (h : t.recent = xs.rtake t.capacity) : (t.after requests).recent =
    ((t.log requests).foldl Request.onto xs).rtake t.capacity := by
  induction requests generalizing t xs with
  | nil => exact h
  | cons request rest ih =>
    have hnext := recent_next h request
    rw [← capacity_next t request] at hnext ⊢
    rw [log, List.foldl_append]
    exact ih hnext

/-- **An exposure is turned down if it is one of the last ones that were let pass.** -/
theorem track_after_eq_false_iff (capacity : ℕ) (requests : List Request) (x : Exposure) :
    (((ofCapacity capacity).after requests).track x).1 = false ↔
      x ∈ (sinceClear ((ofCapacity capacity).log requests)).rtake capacity := by
  have hstart : (ofCapacity capacity).recent = ([] : List Exposure).rtake capacity :=
    (List.rtake_nil capacity).symm
  rw [track_fst_eq_false_iff, recent_after hstart]
  rfl

/-- What is in a log has been granted when it was asked for. -/
theorem exists_of_log {request : Request} {earlier later : List Request}
    (h : t.log requests = earlier ++ request :: later) :
    ∃ before, t.log before = earlier ∧ (t.after before).grants request = true := by
  induction requests generalizing t earlier with
  | nil => simp [log] at h
  | cons first rest ih =>
    by_cases hfirst : t.grants first = true
    · rw [log, if_pos hfirst, List.singleton_append] at h
      cases earlier with
      | nil =>
        obtain ⟨rfl, -⟩ := List.cons.inj h
        exact ⟨[], rfl, hfirst⟩
      | cons other earlier =>
        obtain ⟨rfl, hrest⟩ := List.cons.inj h
        obtain ⟨before, hlog, hgrants⟩ := ih hrest
        refine ⟨first :: before, ?_, hgrants⟩
        rw [log, if_pos hfirst, hlog, List.singleton_append]
    · rw [log, if_neg hfirst, List.nil_append] at h
      obtain ⟨before, hlog, hgrants⟩ := ih h
      refine ⟨first :: before, ?_, hgrants⟩
      rw [log, if_neg hfirst, hlog, List.nil_append]

/-- Where nothing is cleared, a log goes on with its exposures. -/
theorem sinceClear_append {between : List Request} (h : .clear ∉ between) :
    ∃ ys : List Exposure, between = ys.map Request.track ∧
      ∀ earlier, sinceClear (earlier ++ between) = sinceClear earlier ++ ys := by
  induction between with
  | nil => exact ⟨[], rfl, fun earlier => by simp⟩
  | cons request rest ih =>
    simp only [List.mem_cons, not_or] at h
    obtain ⟨ys, rfl, happend⟩ := ih h.2
    cases request with
    | clear => exact absurd rfl h.1
    | track y =>
      refine ⟨y :: ys, rfl, fun earlier => ?_⟩
      have hlast : sinceClear (earlier ++ [.track y]) = sinceClear earlier ++ [y] := by
        rw [sinceClear, List.foldl_append]
        rfl
      rw [List.append_cons, happend, hlast, List.append_assoc, List.singleton_append]

/-- An exposure that is none of the last ones is followed by as many others. -/
theorem capacity_le_of_not_mem_rtake {capacity : ℕ} {ys : List Exposure}
    (h : x ∉ (xs ++ x :: ys).rtake capacity) : capacity ≤ (ys.filter (· ≠ x)).length := by
  -- else the last ones would reach back to the exposure itself
  have hle : capacity ≤ ys.length := by
    by_contra hlt
    refine h ?_
    have hstart : (xs ++ x :: ys).length - capacity ≤ xs.length := by
      rw [List.length_append, List.length_cons]
      omega
    rw [List.rtake, List.drop_append_of_le_length hstart]
    exact List.mem_append_right _ List.mem_cons_self
  have hsame : (xs ++ x :: ys).rtake capacity = ys.rtake capacity := by
    have hcount : (xs ++ [x] ++ ys).length - capacity =
        (xs ++ [x]).length + (ys.length - capacity) := by
      rw [List.length_append]
      omega
    rw [List.append_cons, List.rtake, hcount, List.drop_length_add_append, List.rtake]
  have hothers : (ys.rtake capacity).filter (· ≠ x) = ys.rtake capacity :=
    List.filter_eq_self.mpr fun y hy => decide_eq_true fun hyx => h (by rwa [hsame, ← hyx])
  have hlength : (ys.rtake capacity).length = capacity := by
    rw [List.rtake, List.length_drop]
    omega
  calc capacity = ((ys.rtake capacity).filter (· ≠ x)).length := by rw [hothers, hlength]
    _ ≤ (ys.filter (· ≠ x)).length := ((List.drop_sublist _ ys).filter _).length_le

/-- **Between two reports of an exposure there are as many of others as there is room for.** -/
theorem capacity_le_of_log {capacity : ℕ} {earlier between later : List Request}
    (h : (ofCapacity capacity).log requests =
      earlier ++ .track x :: (between ++ .track x :: later))
    (hclear : .clear ∉ between) : capacity ≤ (between.filter (· ≠ .track x)).length := by
  have hsplit : (ofCapacity capacity).log requests =
      (earlier ++ .track x :: between) ++ .track x :: later := by
    rw [h, List.append_assoc, List.cons_append]
  -- the second report was granted, so the exposure was none of the last ones then
  obtain ⟨before, hlog, hgrants⟩ := exists_of_log hsplit
  have hgranted : (((ofCapacity capacity).after before).track x).1 = true := hgrants
  have hnew := (track_after_eq_false_iff capacity before x).not.mp (by simp [hgranted])
  obtain ⟨ys, rfl, happend⟩ := sinceClear_append hclear
  have hlast : sinceClear (earlier ++ .track x :: ys.map .track) =
      sinceClear earlier ++ x :: ys := by
    rw [List.append_cons, happend, sinceClear, List.foldl_append, List.append_cons]
    rfl
  rw [hlog, hlast] at hnew
  have hcount := capacity_le_of_not_mem_rtake hnew
  have hmap : (ys.map Request.track).filter (· ≠ .track x) =
      (ys.filter (· ≠ x)).map Request.track := by
    rw [List.filter_map]
    simp [Function.comp_def]
  rwa [hmap, List.length_map]

/-- Where there is room for nothing, everything is let pass. -/
theorem log_ofCapacity_zero : ∀ requests : List Request, (ofCapacity 0).log requests = requests
  | [] => rfl
  | .track x :: rest => congrArg (Request.track x :: ·) (log_ofCapacity_zero rest)
  | .clear :: rest => congrArg (Request.clear :: ·) (log_ofCapacity_zero rest)

end Tracker

/-! ### What comes up in an evaluation -/

/-- What the tracker has been asked for if the event has happened. -/
def Event.request? : Event → Option Tracker.Request
  | exposure e result => some (.track (e.exposure result))
  | _ => none

namespace Eval

variable {α β : Type}

/-- The computation comes from the documents to an answer and other documents, whatever the
tracker. The tracker gets the requests, and those that are granted are reported. -/
def Raises (c : Eval α) (docs : StickyDocuments) (a : α) (docs' : StickyDocuments)
    (requests : List Tracker.Request) : Prop :=
  ∀ tracker history, ∃ news,
    c ⟨docs, tracker, history⟩ = (a, ⟨docs', tracker.after requests, news ++ history⟩) ∧
      news.reverse.filterMap Event.request? = tracker.log requests

/-- What comes up in the course of the computation does not depend on the tracker. -/
def Tracks (c : Eval α) : Prop :=
  ∀ docs, ∃ a docs' requests, c.Raises docs a docs' requests

/-- A computation that does not ask the tracker raises nothing. -/
theorem raises_nil {c : Eval α} {docs docs' : StickyDocuments} {a : α} (news : List Event)
    (h : ∀ tracker history,
      c ⟨docs, tracker, history⟩ = (a, ⟨docs', tracker, news ++ history⟩))
    (hnews : news.filterMap Event.request? = []) : c.Raises docs a docs' [] := fun tracker history =>
  ⟨news, h tracker history, by rw [List.filterMap_reverse, hnews]; rfl⟩

theorem tracks_pure (a : α) : Tracks (pure a : Eval α) := fun docs =>
  ⟨a, docs, [], raises_nil [] (fun _ _ => rfl) rfl⟩

/-- What comes up later comes up after what came up first. -/
theorem Tracks.bind {c : Eval α} {f : α → Eval β} (hc : Tracks c) (hf : ∀ a, Tracks (f a)) :
    Tracks (c >>= f) := by
  intro docs
  obtain ⟨a, docs₁, first, hfirst⟩ := hc docs
  obtain ⟨b, docs₂, second, hsecond⟩ := hf a docs₁
  refine ⟨b, docs₂, first ++ second, fun tracker history => ?_⟩
  obtain ⟨news₁, hrun₁, hnews₁⟩ := hfirst tracker history
  obtain ⟨news₂, hrun₂, hnews₂⟩ := hsecond (tracker.after first) (news₁ ++ history)
  refine ⟨news₂ ++ news₁, ?_, ?_⟩
  · rw [bind_apply, hrun₁, hrun₂, Tracker.after_append, List.append_assoc]
  · rw [List.reverse_append, List.filterMap_append, hnews₁, hnews₂, Tracker.log_append]

theorem compositional_tracks : Compositional fun _ => Tracks := ⟨tracks_pure, Tracks.bind⟩

theorem tracks_reportUse (path : List String) (feature : String) (result : FeatureResult) :
    Tracks (reportUse path feature result) := fun docs =>
  ⟨result, docs, [], raises_nil [.usage path feature result] (fun _ _ => rfl) rfl⟩

/-- **An exposure that comes up is reported if the tracker lets it pass.** -/
theorem tracks_track (e : Experiment) (result : ExperimentResult) : Tracks (track e result) := by
  refine fun docs => ⟨(), docs, [.track (e.exposure result)], fun tracker history => ?_⟩
  cases htrack : tracker.track (e.exposure result) with
  | mk reported next =>
    cases reported with
    | true =>
      refine ⟨[.exposure e result], ?_, ?_⟩
      · simp [track, htrack, Tracker.after, Tracker.next]
      · simp [Event.request?, Tracker.log, Tracker.grants, htrack]
    | false =>
      refine ⟨[], ?_, ?_⟩
      · simp [track, htrack, Tracker.after, Tracker.next]
      · simp [Tracker.log, Tracker.grants, htrack]

theorem tracks_assign (identity : Identity) (assignment variation : String) :
    Tracks (assign identity assignment variation) := by
  intro docs
  by_cases hchanged : (docs.assign identity (.insert .empty assignment variation)).changed = true
  · exact ⟨(), _, [], raises_nil [.saved _]
      (fun _ _ => by simp only [assign, modify_apply, hchanged, ↓reduceIte]; rfl) rfl⟩
  · exact ⟨(), docs, [], raises_nil []
      (fun _ _ => by simp only [assign, modify_apply, hchanged]; rfl) rfl⟩

end Eval

namespace Setting

variable {s : Setting} {evaluate : String → Eval FeatureResult}

theorem tracks_decide (hev : ∀ feature, Eval.Tracks (evaluate feature)) (e : Experiment) :
    Eval.Tracks (s.decide evaluate e) := by
  have htarget : Eval.Tracks (s.isTarget evaluate e) := Eval.compositional_tracks.isTarget hev e
  intro docs
  cases hearly : s.early? e with
  | some early =>
    exact ⟨early, docs, [],
      Eval.raises_nil [] (fun _ _ => decide_of_early hearly _) rfl⟩
  | none =>
    by_cases hstored : (s.stickyVariation e docs).variation?.isSome
    · exact ⟨s.place e (s.stickyVariation e docs), docs, [], Eval.raises_nil []
        (fun _ _ => (decide_of_undecided hearly _).trans (if_pos hstored)) rfl⟩
    · obtain ⟨met, docs', requests, hraises⟩ := htarget docs
      refine ⟨if met then s.place e (s.stickyVariation e docs) else .excluded, docs', requests,
        fun tracker history => ?_⟩
      obtain ⟨news, hrun, hnews⟩ := hraises tracker history
      refine ⟨news, ?_, hnews⟩
      rw [decide_of_undecided hearly, if_neg hstored, hrun]

theorem tracks_conclude (e : Experiment) (feature : Option String) (decision : Decision) :
    Eval.Tracks (s.conclude e feature decision) := by
  cases decision with
  | assigned variation bucket stored =>
    have hreport (result : ExperimentResult) : Eval.Tracks (do
        Eval.track e result
        return result) :=
      (Eval.tracks_track e result).bind fun _ => Eval.tracks_pure result
    unfold conclude
    simp only
    split
    · exact (Eval.tracks_assign _ _ _).bind fun _ => hreport _
    · exact hreport _
  | excluded => exact Eval.tracks_pure _
  | blocked => exact Eval.tracks_pure _
  | forced variation => exact Eval.tracks_pure _

theorem tracks_run (hev : ∀ feature, Eval.Tracks (evaluate feature)) (e : Experiment)
    (feature : Option String) : Eval.Tracks (s.run evaluate e feature) := by
  rw [run_eq_bind]
  exact (tracks_decide hev e).bind fun decision => tracks_conclude e feature decision

/-- **What comes up when a feature is evaluated does not depend on the tracker.** -/
theorem tracks_evaluate (path : List String) (feature : String) (kind : Option ValueKind) :
    Eval.Tracks (s.evaluate path feature kind) :=
  Eval.compositional_tracks.evaluate Eval.tracks_reportUse Eval.tracks_track
    (fun _ feature _ _ e hev _ _ _ => tracks_run hev e (some feature)) path feature kind

theorem tracks_runExperiment (e : Experiment) : Eval.Tracks (s.runExperiment e) :=
  tracks_run (fun feature => tracks_evaluate [] feature none) e none

end Setting

/-! ### In a session -/

namespace Session

variable {s : Session} {α : Type}

/-- Whatever the tracker of the session, it gets the requests, and those that are granted are
reported. -/
def Raises (s : Session) (f : Session → Outcome α) (requests : List Tracker.Request) : Prop :=
  ∀ t : Tracker, (f { s with tracker := t }).next.tracker = t.after requests ∧
    (f { s with tracker := t }).events.filterMap Event.request? = t.log requests

theorem exists_raises_compute (computation : Setting → Eval α)
    (h : (computation s.setting).Tracks) :
    ∃ requests, s.Raises (fun s => s.compute computation) requests := by
  obtain ⟨a, docs, requests, hraises⟩ := h s.documents
  refine ⟨requests, fun t => ?_⟩
  obtain ⟨news, hrun, hnews⟩ := hraises t []
  have hsame : ({ s with tracker := t } : Session).setting = s.setting := rfl
  simpa only [compute_eq, hsame, hrun, Progress.events, List.append_nil, true_and] using hnews

/-- A change that is no evaluation raises nothing. -/
theorem settle_raises_nil (r : Except FlagError α) {change : α → Session}
    (h : ∀ a, (change a).tracker = s.tracker) :
    (s.settle (r >>= fun a => pure (change a))).next.tracker = s.tracker ∧
      (s.settle (r >>= fun a => pure (change a))).events.filterMap Event.request? = [] := by
  cases r with
  | ok a => exact ⟨h a, rfl⟩
  | error error => exact ⟨rfl, rfl⟩

theorem tracker_refresh (s : Session) : s.refresh.tracker = s.tracker := by
  unfold refresh
  split <;> rfl

theorem exists_raises_perform (s : Session) (command : Command) :
    ∃ requests, s.Raises (fun s => s.perform command) requests := by
  cases command with
  | evaluate feature kind =>
    exact exists_raises_compute (fun setting => setting.evaluateFeature feature kind)
      (Setting.tracks_evaluate [] feature kind)
  | run e =>
    exact exists_raises_compute (fun setting => setting.runExperiment e)
      (Setting.tracks_runExperiment e)
  | setFeatures text => exact ⟨[], fun t => settle_raises_nil _ fun _ => tracker_refresh _⟩
  | setSavedGroups text => exact ⟨[], fun t => settle_raises_nil _ fun _ => rfl⟩
  | setPayload text => exact ⟨[], fun t => settle_raises_nil _ fun _ => tracker_refresh _⟩
  | setConfiguration configuration => exact ⟨[], fun t => ⟨tracker_refresh _, rfl⟩⟩
  | setAttributes text => exact ⟨[], fun t => settle_raises_nil _ fun _ => tracker_refresh _⟩
  | setUrl text => exact ⟨[], fun t => settle_raises_nil _ fun _ => rfl⟩
  | forceVariation experiment variation => exact ⟨[], fun t => ⟨rfl, rfl⟩⟩
  | forceValue feature value => exact ⟨[], fun t => ⟨rfl, rfl⟩⟩
  | refresh => exact ⟨[], fun t => ⟨tracker_refresh _, rfl⟩⟩

/-- **What comes up in a call does not depend on the tracker.** -/
theorem exists_raises_call (s : Session) (c : Call) :
    ∃ requests, s.Raises (fun s => s.call c) requests := by
  cases c with
  | command command => exact exists_raises_perform s command
  | setAttributes attributes => exact ⟨[], fun t => ⟨tracker_refresh _, rfl⟩⟩
  | runTyped type e =>
    cases hlower : type.lower e with
    | error error =>
      refine ⟨[], fun t => ?_⟩
      simp only [call, runTyped, hlower]
      exact ⟨rfl, rfl⟩
    | ok lowered =>
      obtain ⟨requests, hraises⟩ := exists_raises_perform s (.run lowered)
      refine ⟨requests, fun t => ?_⟩
      simp only [call, runTyped, hlower]
      exact hraises t

/-- What comes up in a call. Where there is room for nothing, all of it is reported. -/
def requested (s : Session) (c : Call) : List Tracker.Request :=
  ({ s with tracker := .ofCapacity 0 }.call c).events.filterMap Event.request?

/-- **A call reports what the tracker lets pass of what comes up.** -/
theorem raises_call (s : Session) (c : Call) :
    s.Raises (fun s => s.call c) (s.requested c) := by
  obtain ⟨requests, hraises⟩ := exists_raises_call s c
  have hall : s.requested c = requests :=
    (hraises (.ofCapacity 0)).2.trans (Tracker.log_ofCapacity_zero requests)
  rw [hall]
  exact hraises

end Session

/-! ### Sessions that share a tracker -/

namespace Tracker

/-- What can happen to a tracker that sessions share: somebody does something with one of them,
or the tracker is cleared. -/
inductive Turn : Type 1 where
  | call (s : Session) (c : Session.Call)
  | clear

namespace Turn

/-- What comes up, whatever the tracker. -/
def requested : Turn → List Request
  | .call s c => s.requested c
  | .clear => [.clear]

/-- The exposures that are reported, with the tracker as it is. -/
def reports (t : Tracker) : Turn → List Request
  | .call s c => ({ s with tracker := t }.call c).events.filterMap Event.request?
  | .clear => [.clear]

/-- The tracker afterwards. -/
def next (t : Tracker) : Turn → Tracker
  | .call s c => ({ s with tracker := t }.call c).next.tracker
  | .clear => t.clear

end Turn

/-- The exposures that are reported in the course of time, and when the tracker was cleared. -/
def reports (t : Tracker) : List Turn → List Request
  | [] => []
  | turn :: rest => turn.reports t ++ (turn.next t).reports rest

/-- **What is reported is what the tracker lets pass of what comes up.** -/
theorem reports_eq_log (t : Tracker) (turns : List Turn) :
    t.reports turns = t.log (turns.flatMap Turn.requested) := by
  induction turns generalizing t with
  | nil => rfl
  | cons turn rest ih =>
    have hturn : turn.next t = t.after turn.requested ∧ turn.reports t = t.log turn.requested := by
      cases turn with
      | call s c => exact s.raises_call c t
      | clear => exact ⟨rfl, rfl⟩
    rw [List.flatMap_cons, log_append, reports, ih, hturn.1, hturn.2]

/-- A request that comes up is granted, or nothing is left of it. -/
theorem log_split (capacity : ℕ) (before : List Request) (x : Exposure) (later : List Request) :
    (ofCapacity capacity).log (before ++ .track x :: later) =
      (ofCapacity capacity).log before ++
        (if x ∈ (sinceClear ((ofCapacity capacity).log before)).rtake capacity then []
          else [.track x]) ++
        ((ofCapacity capacity).after (before ++ [.track x])).log later := by
  have hiff := track_after_eq_false_iff capacity before x
  have hgrants : (if ((ofCapacity capacity).after before).grants (.track x) then [Request.track x]
      else []) =
      if x ∈ (sinceClear ((ofCapacity capacity).log before)).rtake capacity then []
        else [.track x] := by
    by_cases hmem : x ∈ (sinceClear ((ofCapacity capacity).log before)).rtake capacity
    · rw [if_pos hmem, grants, hiff.mpr hmem]
      rfl
    · rw [if_neg hmem, grants, Bool.of_not_eq_false fun hfalse => hmem (hiff.mp hfalse)]
      rfl
  rw [log_append, log, hgrants, ← List.append_assoc, after_append]
  rfl

/-- **An exposure is reported unless it is among the last ones reported.** A tracker turns an
exposure down exactly if it is one of the last ones that it has let pass since it was cleared, as
many as there is room for. So if an exposure comes up in a session, it is not reported exactly if
it is one of the last ones reported in all sessions that share the tracker. And between two
reports of an exposure, the tracker not being cleared in between, there are as many of others as
there is room for. -/
theorem reports_each_once (capacity : ℕ) :
    (∀ requests x, (((ofCapacity capacity).after requests).track x).1 = false ↔
      x ∈ (sinceClear ((ofCapacity capacity).log requests)).rtake capacity) ∧
    ∀ turns : List Turn,
      (∀ before x later, turns.flatMap Turn.requested = before ++ .track x :: later →
        (ofCapacity capacity).reports turns =
          (ofCapacity capacity).log before ++
            (if x ∈ (sinceClear ((ofCapacity capacity).log before)).rtake capacity then []
              else [.track x]) ++
            ((ofCapacity capacity).after (before ++ [.track x])).log later) ∧
      ∀ earlier x between later,
        (ofCapacity capacity).reports turns =
          earlier ++ .track x :: (between ++ .track x :: later) →
        .clear ∉ between → capacity ≤ (between.filter (· ≠ .track x)).length := by
  refine ⟨track_after_eq_false_iff capacity, fun turns => ⟨fun before x later hsplit => ?_, ?_⟩⟩
  · rw [reports_eq_log, hsplit]
    exact log_split capacity before x later
  · intro earlier x between later hreports hclear
    rw [reports_eq_log] at hreports
    exact capacity_le_of_log hreports hclear

/-- Somebody looks at the banner, takes part in a survey, and looks at the banner twice. -/
def outing : List Turn :=
  [.call Session.returning Session.visit,
    .call Session.returning (.command (.run (Experiment.basic "survey" [.str "x", .str "y"]))),
    .call Session.returning Session.visit, .call Session.returning Session.visit]

/-- The variation of the banner that is seen. -/
def seen : Exposure := ⟨"id", "1", "banner", 1⟩

/-- The answer to the survey. -/
def answered : Exposure := ⟨"id", "1", "survey", 1⟩

/-- With room for one exposure the banner is reported again after the survey, and not reported when
it is looked at once more. -/
theorem outing_reports :
    (ofCapacity 1).reports outing = [.track seen, .track answered, .track seen] ∧
      1 ≤ ([Request.track answered].filter (· ≠ .track seen)).length := by
  have hrequested : outing.flatMap Turn.requested =
      [.track seen, .track answered, .track seen] ++ .track seen :: [] := by decide +kernel
  obtain ⟨-, houting⟩ := reports_each_once 1
  obtain ⟨honce, hapart⟩ := houting outing
  have hreports : (ofCapacity 1).reports outing = [.track seen, .track answered, .track seen] :=
    honce _ seen [] hrequested
  exact ⟨hreports, hapart [] seen [.track answered] [] hreports (by decide)⟩

end Tracker
end FeatureFlags
