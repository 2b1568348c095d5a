/-
# Tracking exposures

An exposure is reported when a user is assigned to a variation, or served by a rule that
it belongs to. A tracker remembers the exposures reported last, so that none of them is
reported again.

Key definitions:
* `Exposure`: who was exposed to what.
* `Tracker.track`: reports an exposure unless it is remembered.

Key theorems:
* `Tracker.length_track_le`: no more than the capacity is remembered.
-/
import FeatureFlags.Experiment

namespace FeatureFlags

/-- Who was exposed to which variation of which experiment. -/
structure Exposure where
  hashAttribute : String
  hashValue : String
  experiment : String
  variation : Nat
deriving DecidableEq, Repr

/-- The exposure that a result of an experiment stands for. -/
def Experiment.exposure {V W : Type} (e : Experiment V) (result : ExperimentResult W) : Exposure :=
  { hashAttribute := result.hashAttribute
    hashValue := result.hashValue
    experiment := e.key
    variation := result.variation }

/-- The exposures reported last, the oldest first. -/
structure Tracker where
  capacity : Nat
  recent : List Exposure

namespace Tracker

/-- How many exposures are remembered if nothing else is said. -/
def defaultCapacity : Nat := 30

/-- A tracker that remembers nothing yet. -/
def ofCapacity (capacity : Nat) : Tracker := ⟨capacity, []⟩

/-- Stores an exposure, if need be in place of the oldest one. -/
def remember (tracker : Tracker) (exposure : Exposure) : Tracker :=
  if tracker.capacity = 0 then tracker
  else if tracker.recent.length < tracker.capacity then
    { tracker with recent := tracker.recent ++ [exposure] }
  else { tracker with recent := tracker.recent.drop 1 ++ [exposure] }

/-- Whether an exposure is to be reported, and the tracker after it. A remembered
exposure is not reported. -/
def track (tracker : Tracker) (exposure : Exposure) : Bool × Tracker :=
  if exposure ∈ tracker.recent then (false, tracker) else (true, tracker.remember exposure)

/-- Forgets all exposures. -/
def clear (tracker : Tracker) : Tracker := { tracker with recent := [] }

@[simp] theorem capacity_track (tracker : Tracker) (exposure : Exposure) :
    (tracker.track exposure).2.capacity = tracker.capacity := by
  unfold track remember
  split
  · rfl
  · split
    · rfl
    · split <;> rfl

theorem length_track_le (tracker : Tracker) (exposure : Exposure)
    (h : tracker.recent.length ≤ tracker.capacity) :
    (tracker.track exposure).2.recent.length ≤ tracker.capacity := by
  unfold track remember
  split
  · exact h
  · split
    · exact h
    · split
      · simp only [List.length_append, List.length_cons, List.length_nil]
        omega
      · simp only [List.length_append, List.length_drop, List.length_cons, List.length_nil]
        omega

end Tracker
end FeatureFlags
