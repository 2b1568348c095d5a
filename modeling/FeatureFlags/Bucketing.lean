/-
# Buckets

Variations of an experiment own ranges of the unit interval. The ranges are laid out
in the order of the variations, each as wide as its weight says. Coverage shortens
every range from its end. So a range only grows when the coverage is raised, and if
no weight is negative, it has no room to grow into where a later one starts: nobody
is moved from one variation to another. With a negative weight, which is accepted
too, ranges may overlap, and raising the coverage may move users.

Ranges are laid out in any scalar type; features are served with binary floats.

Key definitions:
* `BucketRange`: a half-open range.
* `bucketRanges`: the ranges of an experiment.
* `chooseVariation`: the variation whose range a user falls in.
* `Namespace.admits`, `Filter.admits`: exclusion by place.
* `Rollout.includes`: gradual release of a forced value.

Key theorems:
* `length_bucketRanges`: each variation has one range.
-/
import FeatureFlags.Decimal.Finite
import FeatureFlags.Hashing
import FeatureFlags.Identity

namespace FeatureFlags

/-- The numbers from `start` up to, but not including, `stop`. -/
structure BucketRange (α : Type := Float) where
  start : α
  stop : α
deriving DecidableEq

namespace BucketRange

/-- Whether a number lies in the range. -/
def contains {α : Type} [LE α] [LT α] [DecidableLE α] [DecidableLT α]
    (range : BucketRange α) (x : α) : Bool :=
  decide (range.start ≤ x ∧ x < range.stop)

/-- An integer brought into the range of signed 64-bit integers. -/
def clampInt64 (n : Int) : Int := max (-Int.pow 2 63) (min n (Int.pow 2 63 - 1))

/-- A float in thousandths, rounded half away from zero. Infinities count as the
ends of the 64-bit integers, and NaN as zero. -/
def thousandths (x : Float) : Int :=
  match (x * 1000).toModel.unpack with
  | .notANumber => 0
  | .zero _ => 0
  | .infinity .positive => Int.pow 2 63 - 1
  | .infinity .negative => -Int.pow 2 63
  | .finite s m e _ =>
    let half := 2 * m * Nat.pow 2 e.toNat + Nat.pow 2 (-e).toNat
    let magnitude := half / (2 * Nat.pow 2 (-e).toNat)
    clampInt64 (match s with | .positive => magnitude | .negative => -(magnitude : Int))

/-- The two ends in thousandths. -/
def rounded (range : BucketRange) : Int × Int :=
  (thousandths range.start, thousandths range.stop)

/-- Whether two ranges agree to three decimal places. -/
def agrees (a b : BucketRange) : Bool := a.rounded == b.rounded

end BucketRange

section Ranges

variable {α : Type} [NatCast α] [Add α] [Mul α] [Div α] [LE α] [LT α] [DecidableLE α]
  [DecidableLT α]

/-- `n` weights of one `n`-th each. -/
def equalWeights (α : Type) [NatCast α] [Div α] (n : Nat) : List α :=
  List.replicate n (((1 : Nat) : α) / (n : α))

/-- The sum of weights, from the first to the last. -/
def totalWeight (weights : List α) : α := weights.foldl (· + ·) ((0 : Nat) : α)

/-- Whether a number is one, give or take a hundredth. -/
def isNearlyOne (x : α) : Bool :=
  decide (((99 : Nat) : α) / ((100 : Nat) : α) ≤ x ∧ x ≤ ((101 : Nat) : α) / ((100 : Nat) : α))

/-- The weights in use: those given, if there is one for each of the `n` variations
and they add up to one, and equal weights otherwise. -/
def effectiveWeights (n : Nat) (weights : Option (List α)) : List α :=
  match weights with
  | none => equalWeights α n
  | some weights =>
    if weights.length = n ∧ isNearlyOne (totalWeight weights) then weights else equalWeights α n

omit [Mul α] [DecidableLT α] [LT α] in
theorem length_effectiveWeights (n : Nat) (weights : Option (List α)) :
    (effectiveWeights n weights).length = n := by
  unfold effectiveWeights
  cases weights with
  | none => simp [equalWeights]
  | some weights =>
    simp only
    split
    · rename_i h
      exact h.1
    · simp [equalWeights]

/-- Coverage brought between zero and one; what is not a number counts as one. -/
def clampCoverage (coverage : α) : α :=
  if coverage < ((0 : Nat) : α) then ((0 : Nat) : α)
  else if ((1 : Nat) : α) < coverage then ((1 : Nat) : α)
  else if coverage ≤ coverage then coverage
  else ((1 : Nat) : α)

/-- Ranges from `start` on, each beginning where the one before it would end under
full coverage. -/
def layRanges (coverage : α) : α → List α → List (BucketRange α)
  | _, [] => []
  | start, weight :: rest =>
    ⟨start, start + coverage * weight⟩ :: layRanges coverage (start + weight) rest

omit [NatCast α] [Div α] [LE α] [LT α] [DecidableLE α] [DecidableLT α] in
theorem length_layRanges (coverage : α) : ∀ (start : α) (weights : List α),
    (layRanges coverage start weights).length = weights.length
  | _, [] => rfl
  | start, weight :: rest => by
    simp only [layRanges, List.length_cons, length_layRanges coverage (start + weight) rest]

/-- The ranges of `n` variations. -/
def bucketRanges (n : Nat) (coverage : α) (weights : Option (List α)) : List (BucketRange α) :=
  layRanges (clampCoverage coverage) ((0 : Nat) : α) (effectiveWeights n weights)

theorem length_bucketRanges (n : Nat) (coverage : α) (weights : Option (List α)) :
    (bucketRanges n coverage weights).length = n := by
  rw [bucketRanges, length_layRanges, length_effectiveWeights]

/-- The first variation whose range contains `x`. -/
def chooseVariation (x : α) (ranges : List (BucketRange α)) : Option Nat :=
  ranges.findIdx? (·.contains x)

omit [NatCast α] [Add α] [Mul α] [Div α] in
theorem chooseVariation_lt {x : α} {ranges : List (BucketRange α)} {variation : Nat}
    (h : chooseVariation x ranges = some variation) : variation < ranges.length :=
  (List.findIdx?_eq_some_iff_findIdx_eq.mp h).1

end Ranges

/-- A slice of the users of a name space. No user lies in two disjoint slices of one
name space. -/
structure Namespace where
  id : String
  start : Float
  stop : Float
deriving DecidableEq

/-- Whether a user lies in the slice. -/
def Namespace.admits (slice : Namespace) (value : String) : Bool :=
  match hashUnit Float ("__" ++ slice.id) value 1 with
  | some x => BucketRange.contains ⟨slice.start, slice.stop⟩ x
  | none => false

/-- A test that a user passes by falling in one of some ranges under a seed. -/
structure Filter where
  seed : String
  ranges : List BucketRange
  hashAttribute : Option String
  hashVersion : Option Int
deriving DecidableEq

/-- Whether a user passes the filter. Without text for the attribute, or with an
unknown hash version, nobody passes. -/
def Filter.admits (filter : Filter) (attributes : Attributes) : Bool :=
  let user := Identity.resolve filter.hashAttribute none attributes
  if user.value = "" then false
  else match hashUnit Float filter.seed user.value (filter.hashVersion.getD 2) with
    | some x => filter.ranges.any (·.contains x)
    | none => false

/-- How a forced value is released to a part of the users. -/
structure Rollout where
  seed : String
  hashAttribute : Option String
  fallbackAttribute : Option String
  range : Option BucketRange
  coverage : Option Float
  hashVersion : Option Int

namespace Rollout

/-- Whether the place of a user is included; a range goes before coverage. -/
def includesPlace (rollout : Rollout) (x : Float) : Bool :=
  match rollout.range, rollout.coverage with
  | some range, _ => range.contains x
  | none, some coverage => decide (x ≤ coverage)
  | none, none => true

/-- Whether a user is included. Without range and coverage everybody is, and with
coverage zero nobody. -/
def includes (rollout : Rollout) (attributes : Attributes) : Bool :=
  if rollout.range.isNone ∧ rollout.coverage.isNone then true
  else if rollout.range.isNone ∧ rollout.coverage.any (· == 0) then false
  else
    let user := Identity.resolve rollout.hashAttribute rollout.fallbackAttribute attributes
    if user.value = "" then false
    else match hashUnit Float rollout.seed user.value (rollout.hashVersion.getD 1) with
      | some x => rollout.includesPlace x
      | none => false

end Rollout
end FeatureFlags
