/-
# Ranges that divide the users

The ranges of an experiment are laid in the order of its variations. Each starts where the weights
before it add up to, whatever the coverage, and is as wide as its weight under the coverage
(`liesIn_bucketRanges_iff`). If no weight is negative, a range stops before the next one starts. So
a number lies in one range at most, and the first range that holds it is the only one.

Under full coverage each range stops where the next one starts. Then the ranges leave out nothing
between zero and the sum of the weights (`exists_liesIn_layRanges`), and this is where users are
placed: a place is a proper fraction (`hashUnit_nonneg_lt`). So if the weights add up to one, each
user is in exactly one variation (`ranges_divide`).

Numbers are rational here. Served floats round them, which moves an end by the last digits.

Key definitions: `weightBefore`, `LiesIn`, `LaidOut`.
Key theorems: `liesIn_bucketRanges_iff`, `chooseVariation_eq_some_iff`, `ranges_divide`.
-/
import FeatureFlags.Bucketing
import Mathlib.Algebra.Order.BigOperators.Group.List
import Mathlib.Algebra.Order.Field.Basic
import Mathlib.Algebra.Order.Field.Rat
import Mathlib.Tactic.Linarith
import Mathlib.Tactic.Positivity

namespace FeatureFlags

/-! ### Weights -/

/-- The weights of the variations before one. -/
def weightBefore (weights : List ℚ) (variation : ℕ) : ℚ := (weights.take variation).sum

/-- Equal weights add up to one. -/
theorem sum_equalWeights {n : ℕ} (h : 0 < n) : (equalWeights ℚ n).sum = 1 := by
  have hn : (n : ℚ) ≠ 0 := Nat.cast_ne_zero.mpr (by omega)
  rw [equalWeights, List.sum_replicate, nsmul_eq_mul]
  simp [hn]

/-- Weights that take the place of others are not negative. -/
theorem effectiveWeights_nonneg {n : ℕ} {weights : Option (List ℚ)}
    (h : ∀ weight ∈ weights.getD [], 0 ≤ weight) :
    ∀ weight ∈ effectiveWeights n weights, 0 ≤ weight := by
  have hequal : ∀ weight ∈ equalWeights ℚ n, 0 ≤ weight := by
    intro weight hweight
    rw [(List.mem_replicate.mp hweight).2]
    positivity
  unfold effectiveWeights
  cases weights with
  | none => exact hequal
  | some given =>
    simp only
    split
    · exact h
    · exact hequal

theorem weightBefore_mono {weights : List ℚ} (h : ∀ weight ∈ weights, 0 ≤ weight) {i j : ℕ}
    (hij : i ≤ j) : weightBefore weights i ≤ weightBefore weights j := by
  have hsublist : (weights.take i).Sublist (weights.take j) := List.take_sublist_take_left hij
  exact hsublist.sum_le_sum fun weight hweight => h weight (List.mem_of_mem_take hweight)

theorem weightBefore_succ {weights : List ℚ} {i : ℕ} {weight : ℚ} (h : weights[i]? = some weight) :
    weightBefore weights (i + 1) = weightBefore weights i + weight := by
  obtain ⟨hi, rfl⟩ := List.getElem?_eq_some_iff.mp h
  exact List.sum_take_succ weights i hi

/-! ### Where ranges lie -/

/-- A number lies in the range of a variation. -/
def LiesIn (x : ℚ) (ranges : List (BucketRange ℚ)) (variation : ℕ) : Prop :=
  ∃ range, ranges[variation]? = some range ∧ range.contains x = true

theorem getElem?_layRanges (coverage : ℚ) : ∀ (start : ℚ) (weights : List ℚ) (i : ℕ),
    (layRanges coverage start weights)[i]? = weights[i]?.map fun weight =>
      ⟨start + weightBefore weights i, start + weightBefore weights i + coverage * weight⟩
  | _, [], _ => by simp [layRanges]
  | start, weight :: rest, 0 => by simp [layRanges, weightBefore]
  | start, weight :: rest, i + 1 => by
    have hbefore : weightBefore (weight :: rest) (i + 1) = weight + weightBefore rest i := by
      simp [weightBefore]
    simp only [layRanges, List.getElem?_cons_succ, hbefore, ← add_assoc]
    exact getElem?_layRanges coverage (start + weight) rest i

theorem clampCoverage_eq (coverage : ℚ) : clampCoverage coverage = max 0 (min coverage 1) := by
  unfold clampCoverage
  simp only [Nat.cast_zero, Nat.cast_one, le_refl, ↓reduceIte]
  split
  · rename_i hneg
    rw [min_eq_left (by linarith), max_eq_left hneg.le]
  · rename_i hpos
    split
    · rename_i hlarge
      rw [min_eq_right hlarge.le, max_eq_right zero_le_one]
    · rename_i hsmall
      rw [min_eq_left (not_lt.mp hsmall), max_eq_right (not_lt.mp hpos)]

theorem clampCoverage_nonneg (coverage : ℚ) : 0 ≤ clampCoverage coverage := by
  rw [clampCoverage_eq]
  exact le_max_left 0 _

theorem clampCoverage_le_one (coverage : ℚ) : clampCoverage coverage ≤ 1 := by
  rw [clampCoverage_eq]
  exact max_le zero_le_one (min_le_right coverage 1)

/-- **Each range starts where the weights before it add up to, and is as wide as its weight under
the coverage.** -/
theorem getElem?_bucketRanges (n : ℕ) (coverage : ℚ) (weights : Option (List ℚ)) (i : ℕ) :
    (bucketRanges n coverage weights)[i]? = (effectiveWeights n weights)[i]?.map fun weight =>
      ⟨weightBefore (effectiveWeights n weights) i,
        weightBefore (effectiveWeights n weights) i + clampCoverage coverage * weight⟩ := by
  rw [bucketRanges, getElem?_layRanges]
  simp only [Nat.cast_zero, zero_add]

theorem liesIn_bucketRanges_iff {n : ℕ} {coverage : ℚ} {weights : Option (List ℚ)} {x : ℚ}
    {i : ℕ} : LiesIn x (bucketRanges n coverage weights) i ↔
      ∃ weight, (effectiveWeights n weights)[i]? = some weight ∧
        weightBefore (effectiveWeights n weights) i ≤ x ∧
        x < weightBefore (effectiveWeights n weights) i + clampCoverage coverage * weight := by
  unfold LiesIn
  rw [getElem?_bucketRanges]
  cases (effectiveWeights n weights)[i]? with
  | none => simp
  | some weight => simp [BucketRange.contains]

/-- A variation is chosen if the number lies in its range and in no earlier one. -/
theorem chooseVariation_eq_some_iff {x : ℚ} {ranges : List (BucketRange ℚ)} {i : ℕ} :
    chooseVariation x ranges = some i ↔ LiesIn x ranges i ∧ ∀ j < i, ¬ LiesIn x ranges j := by
  unfold chooseVariation LiesIn
  rw [List.findIdx?_eq_some_iff_getElem]
  constructor
  · rintro ⟨hi, hcontains, hfirst⟩
    refine ⟨⟨ranges[i], List.getElem?_eq_getElem hi, hcontains⟩, ?_⟩
    rintro j hj ⟨range, hrange, hheld⟩
    obtain ⟨_, rfl⟩ := List.getElem?_eq_some_iff.mp hrange
    exact hfirst j hj hheld
  · rintro ⟨⟨range, hrange, hcontains⟩, hfirst⟩
    obtain ⟨hi, rfl⟩ := List.getElem?_eq_some_iff.mp hrange
    refine ⟨hi, hcontains, fun j hj hheld => hfirst j hj ?_⟩
    exact ⟨ranges[j], List.getElem?_eq_getElem (by omega), hheld⟩

/-! ### Ranges that are laid apart -/

variable {n : ℕ} {coverage : ℚ} {weights : Option (List ℚ)} {x : ℚ}

/-- A range stops before the next one starts under full coverage. -/
theorem stop_le_of_getElem? (h : ∀ weight ∈ effectiveWeights n weights, 0 ≤ weight) {i : ℕ}
    {weight : ℚ} (hweight : (effectiveWeights n weights)[i]? = some weight) :
    weightBefore (effectiveWeights n weights) i + clampCoverage coverage * weight ≤
      weightBefore (effectiveWeights n weights) (i + 1) := by
  have hnonneg : 0 ≤ weight := h weight (List.mem_of_getElem? hweight)
  have hle : clampCoverage coverage * weight ≤ 1 * weight :=
    mul_le_mul_of_nonneg_right (clampCoverage_le_one coverage) hnonneg
  rw [weightBefore_succ hweight]
  linarith

/-- **No number lies in two ranges**, if no weight is negative. -/
theorem not_liesIn_of_lt (h : ∀ weight ∈ effectiveWeights n weights, 0 ≤ weight) {i j : ℕ}
    (hij : i < j) (hi : LiesIn x (bucketRanges n coverage weights) i) :
    ¬ LiesIn x (bucketRanges n coverage weights) j := by
  intro hj
  obtain ⟨weight, hweight, -, hbelow⟩ := liesIn_bucketRanges_iff.mp hi
  obtain ⟨_, -, habove, -⟩ := liesIn_bucketRanges_iff.mp hj
  have hstop : weightBefore (effectiveWeights n weights) i + clampCoverage coverage * weight ≤
      weightBefore (effectiveWeights n weights) (i + 1) := stop_le_of_getElem? h hweight
  have hstart : weightBefore (effectiveWeights n weights) (i + 1) ≤
      weightBefore (effectiveWeights n weights) j := weightBefore_mono h hij
  linarith

theorem eq_of_liesIn (h : ∀ weight ∈ effectiveWeights n weights, 0 ≤ weight) {i j : ℕ}
    (hi : LiesIn x (bucketRanges n coverage weights) i)
    (hj : LiesIn x (bucketRanges n coverage weights) j) : i = j := by
  rcases Nat.lt_trichotomy i j with hlt | heq | hgt
  · exact absurd hj (not_liesIn_of_lt h hlt hi)
  · exact heq
  · exact absurd hi (not_liesIn_of_lt h hgt hj)

/-- **The variation that is chosen is the one in whose range the number lies.** -/
theorem chooseVariation_eq_some_iff_liesIn (h : ∀ weight ∈ effectiveWeights n weights, 0 ≤ weight)
    {i : ℕ} : chooseVariation x (bucketRanges n coverage weights) = some i ↔
      LiesIn x (bucketRanges n coverage weights) i := by
  rw [chooseVariation_eq_some_iff]
  refine and_iff_left_of_imp fun hi j hj hheld => ?_
  exact not_liesIn_of_lt h hj hheld hi

/-! ### Ranges that leave out nothing -/

/-- Under full coverage the ranges hold all that lies between the start of the first one and the
sum of the weights. -/
theorem exists_liesIn_layRanges : ∀ {start : ℚ} {weights : List ℚ},
    start ≤ x → x < start + weights.sum → ∃ i, LiesIn x (layRanges 1 start weights) i
  | start, [], hle, hlt => by
    rw [List.sum_nil, add_zero] at hlt
    exact absurd hlt (not_lt.mpr hle)
  | start, weight :: rest, hle, hlt => by
    rw [List.sum_cons, ← add_assoc] at hlt
    by_cases hfirst : x < start + weight
    · refine ⟨0, ⟨start, start + 1 * weight⟩, rfl, decide_eq_true ⟨hle, ?_⟩⟩
      rwa [one_mul]
    · obtain ⟨i, range, hrange, hcontains⟩ := exists_liesIn_layRanges (not_lt.mp hfirst) hlt
      exact ⟨i + 1, range, hrange, hcontains⟩

/-- **Under full coverage each proper fraction lies in exactly one range**, if the weights in use add
up to at least one. -/
theorem existsUnique_liesIn (h : ∀ weight ∈ effectiveWeights n weights, 0 ≤ weight)
    (hcoverage : 1 ≤ coverage) (hsum : 1 ≤ (effectiveWeights n weights).sum) (hnonneg : 0 ≤ x)
    (hlt : x < 1) : ∃! i, LiesIn x (bucketRanges n coverage weights) i := by
  have hfull : clampCoverage coverage = 1 := by
    rw [clampCoverage_eq, min_eq_right hcoverage, max_eq_right zero_le_one]
  have hranges : bucketRanges n coverage weights = layRanges 1 0 (effectiveWeights n weights) := by
    rw [bucketRanges, hfull, Nat.cast_zero]
  have hbelow : x < 0 + (effectiveWeights n weights).sum := by linarith
  obtain ⟨i, hi⟩ := exists_liesIn_layRanges hnonneg hbelow
  rw [← hranges] at hi
  exact ⟨i, hi, fun j hj => eq_of_liesIn h hj hi⟩

/-- The place of a user is a proper fraction. -/
theorem hashUnit_nonneg_lt {seed value : String} {version : Int}
    (h : hashUnit ℚ seed value version = some x) : 0 ≤ x ∧ x < 1 := by
  obtain ⟨⟨k, scale⟩, hsteps, rfl⟩ := Option.map_eq_some_iff.mp h
  have hlt : k < scale := hashSteps_lt hsteps
  have hscale : (0 : ℚ) < scale := Nat.cast_pos.mpr (by omega)
  constructor
  · show (0 : ℚ) ≤ k / scale
    positivity
  · show (k : ℚ) / scale < 1
    rw [div_lt_one hscale]
    exact_mod_cast hlt

/-- Users are placed under each of the two hash versions. -/
theorem exists_hashUnit {version : Int} (h : version = 1 ∨ version = 2) (seed value : String) :
    ∃ x, hashUnit ℚ seed value version = some x := by
  rcases h with rfl | rfl
  · exact ⟨_, rfl⟩
  · exact ⟨_, rfl⟩

/-- Ranges lie in the order of the variations. Each starts where the weights before it add up to,
is as wide as its weight under the coverage, and stops before the next one starts. -/
structure LaidOut (coverage : ℚ) (weights : List ℚ) (ranges : List (BucketRange ℚ)) : Prop where
  length : ranges.length = weights.length
  start : ∀ (i : ℕ) (range : BucketRange ℚ), ranges[i]? = some range →
    range.start = weightBefore weights i
  width : ∀ (i : ℕ) (range : BucketRange ℚ) (weight : ℚ), ranges[i]? = some range →
    weights[i]? = some weight → range.stop - range.start = coverage * weight
  ordered : ∀ (i : ℕ) (range next : BucketRange ℚ), ranges[i]? = some range →
    ranges[i + 1]? = some next → range.stop ≤ next.start

theorem laidOut_bucketRanges (h : ∀ weight ∈ effectiveWeights n weights, 0 ≤ weight) :
    LaidOut (clampCoverage coverage) (effectiveWeights n weights)
      (bucketRanges n coverage weights) where
  length := by rw [length_bucketRanges, length_effectiveWeights]
  start i range hrange := by
    rw [getElem?_bucketRanges] at hrange
    obtain ⟨weight, -, rfl⟩ := Option.map_eq_some_iff.mp hrange
    rfl
  width i range weight hrange hweight := by
    rw [getElem?_bucketRanges, hweight] at hrange
    cases hrange
    exact add_sub_cancel_left _ _
  ordered i range next hrange hnext := by
    rw [getElem?_bucketRanges] at hrange hnext
    obtain ⟨weight, hweight, rfl⟩ := Option.map_eq_some_iff.mp hrange
    obtain ⟨_, -, rfl⟩ := Option.map_eq_some_iff.mp hnext
    exact stop_le_of_getElem? h hweight

/-- **The ranges of an experiment divide the users.** If no weight is negative, there is one range
for each variation, they are laid out by the weights in use, no number lies in two of them, and the
variation that is chosen is the one in whose range the number lies. If besides the coverage is full
and the weights in use add up to at least one, as equal weights do, every user lies in exactly one
range. -/
theorem ranges_divide (n : ℕ) (coverage : ℚ) (weights : Option (List ℚ))
    (h : ∀ weight ∈ weights.getD [], 0 ≤ weight) :
    let used := effectiveWeights n weights
    let ranges := bucketRanges n coverage weights
    ranges.length = n ∧ LaidOut (max 0 (min coverage 1)) used ranges ∧
      (∀ x i j, LiesIn x ranges i → LiesIn x ranges j → i = j) ∧
      (∀ x i, chooseVariation x ranges = some i ↔ LiesIn x ranges i) ∧
      (1 ≤ coverage → 1 ≤ used.sum → ∀ seed value version, version = 1 ∨ version = 2 →
        ∃ x, hashUnit ℚ seed value version = some x ∧ ∃! i, LiesIn x ranges i) ∧
      (0 < n → used = equalWeights ℚ n → used.sum = 1) := by
  intro used ranges
  have hused : ∀ weight ∈ used, 0 ≤ weight := effectiveWeights_nonneg h
  refine ⟨length_bucketRanges n coverage weights, ?_, fun x i j => eq_of_liesIn hused, ?_, ?_, ?_⟩
  · rw [← clampCoverage_eq]
    exact laidOut_bucketRanges hused
  · exact fun x i => chooseVariation_eq_some_iff_liesIn hused
  · intro hcoverage hsum seed value version hversion
    obtain ⟨x, hx⟩ := exists_hashUnit hversion seed value
    obtain ⟨hnonneg, hlt⟩ := hashUnit_nonneg_lt hx
    exact ⟨x, hx, existsUnique_liesIn hused hcoverage hsum hnonneg hlt⟩
  · intro hn hequal
    rw [hequal]
    exact sum_equalWeights hn

/-- Weights of three variations, each larger than the one before. -/
def rising : List ℚ := [1 / 5, 3 / 10, 1 / 2]

/-- A user who is placed in the second of three ranges is in no other one. -/
theorem rising_ranges_divide :
    (∀ weight ∈ (some rising).getD [], 0 ≤ weight) ∧ (effectiveWeights 3 (some rising)).sum = 1 ∧
      hashUnit ℚ "exp1" "123" 2 = some (3022 / 10000) ∧
      chooseVariation (3022 / 10000 : ℚ) (bucketRanges 3 1 (some rising)) = some 1 ∧
      ∃! i, LiesIn (3022 / 10000) (bucketRanges 3 1 (some rising)) i := by
  have hrising : ∀ weight ∈ (some rising).getD [], 0 ≤ weight := by decide +kernel
  have hsum : (effectiveWeights 3 (some rising)).sum = 1 := by decide +kernel
  have hplace : hashUnit ℚ "exp1" "123" 2 = some (3022 / 10000) := by decide +kernel
  obtain ⟨-, -, -, hchosen, hdivided, -⟩ := ranges_divide 3 1 (some rising) hrising
  obtain ⟨x, hx, hunique⟩ := hdivided le_rfl hsum.ge "exp1" "123" 2 (Or.inr rfl)
  rw [hplace] at hx
  cases hx
  have hlies : LiesIn (3022 / 10000) (bucketRanges 3 1 (some rising)) 1 :=
    ⟨⟨1 / 5, 1 / 2⟩, by decide +kernel, by decide +kernel⟩
  exact ⟨hrising, hsum, hplace, (hchosen _ 1).mpr hlies, hunique⟩

end FeatureFlags
