/-
# Raising the coverage

Under a larger coverage each range starts where it did and is at least as wide. So whoever is in a
variation stays in some variation (`LiesIn.of_le`), and should stay in the same one. The only
variations that can take a user over are earlier ones, because the first range counts that holds
the user. `coverage_keeps_iff` says when: the user stays exactly if no earlier range has grown so
far as to hold the user.

An earlier range has no room to grow into where a later one starts, unless the weights between the
two add up to less than zero. Nothing keeps weights from being negative: what is asked of them is
to be as many as the variations and to add up to one. With a negative weight among them ranges may
overlap, and raising the coverage may move users (`exists_moved`). Without one it never does.

Key theorems: `LiesIn.of_le`, `coverage_keeps_iff`, `exists_moved`.
-/
import FeatureFlags.Proofs.BucketRanges

namespace FeatureFlags

variable {n : ℕ} {coverage coverage' : ℚ} {weights : Option (List ℚ)} {x : ℚ} {i : ℕ}

theorem clampCoverage_mono (h : coverage ≤ coverage') :
    clampCoverage coverage ≤ clampCoverage coverage' := by
  rw [clampCoverage_eq, clampCoverage_eq]
  exact max_le_max_left 0 (min_le_min_right 1 h)

/-- The weight of a range that is not empty is positive. -/
theorem LiesIn.weight_pos {weight : ℚ} (h : LiesIn x (bucketRanges n coverage weights) i)
    (hweight : (effectiveWeights n weights)[i]? = some weight) : 0 < weight := by
  obtain ⟨weight', hweight', hle, hlt⟩ := liesIn_bucketRanges_iff.mp h
  have hwidth : 0 < clampCoverage coverage * weight := by
    rw [hweight] at hweight'
    cases hweight'
    linarith
  exact pos_of_mul_pos_right hwidth (clampCoverage_nonneg coverage)

/-- **A range only grows with the coverage.** -/
theorem LiesIn.of_le (h : LiesIn x (bucketRanges n coverage weights) i)
    (hle : coverage ≤ coverage') : LiesIn x (bucketRanges n coverage' weights) i := by
  obtain ⟨weight, hweight, hstart, hstop⟩ := liesIn_bucketRanges_iff.mp h
  have hgrows : clampCoverage coverage * weight ≤ clampCoverage coverage' * weight :=
    mul_le_mul_of_nonneg_right (clampCoverage_mono hle) (h.weight_pos hweight).le
  exact liesIn_bucketRanges_iff.mpr ⟨weight, hweight, hstart, by linarith⟩

/-- Whoever is in some range is in a variation, and in none that comes later. -/
theorem LiesIn.exists_chosen {ranges : List (BucketRange ℚ)} (h : LiesIn x ranges i) :
    ∃ j ≤ i, chooseVariation x ranges = some j := by
  cases hchosen : chooseVariation x ranges with
  | none =>
    obtain ⟨range, hrange, hcontains⟩ := h
    have hnone := List.findIdx?_eq_none_iff.mp hchosen range (List.mem_of_getElem? hrange)
    rw [hcontains] at hnone
    cases hnone
  | some j =>
    refine ⟨j, Nat.le_of_not_lt fun hlt => ?_, rfl⟩
    exact (chooseVariation_eq_some_iff.mp hchosen).2 i hlt h

/-- An earlier range holds the start of a later one only if the weights between the two add up to
less than zero. -/
theorem LiesIn.weightBefore_lt {j : ℕ} (hj : LiesIn x (bucketRanges n coverage weights) j)
    (hi : LiesIn x (bucketRanges n coverage weights) i) :
    weightBefore (effectiveWeights n weights) i <
      weightBefore (effectiveWeights n weights) (j + 1) := by
  obtain ⟨weight, hweight, -, hstop⟩ := liesIn_bucketRanges_iff.mp hj
  obtain ⟨-, -, hstart, -⟩ := liesIn_bucketRanges_iff.mp hi
  have hfull : clampCoverage coverage * weight ≤ 1 * weight :=
    mul_le_mul_of_nonneg_right (clampCoverage_le_one coverage) (hj.weight_pos hweight).le
  rw [weightBefore_succ hweight]
  linarith

/-- **A user stays in the variation when the coverage is raised, unless an earlier range grows so
far as to hold the user.** The user is in some variation then as before, and in an earlier one only
if the weights in use between the two add up to less than zero. So nobody is moved if no weight in
use is negative. -/
theorem coverage_keeps_iff (hle : coverage ≤ coverage')
    (hchosen : chooseVariation x (bucketRanges n coverage weights) = some i) :
    let used := effectiveWeights n weights
    let raised := bucketRanges n coverage' weights
    (chooseVariation x raised = some i ↔ ∀ j < i, ¬ LiesIn x raised j) ∧
      (∃ j ≤ i, chooseVariation x raised = some j ∧
        (j < i → weightBefore used i < weightBefore used (j + 1))) ∧
      ((∀ weight ∈ used, 0 ≤ weight) → chooseVariation x raised = some i) := by
  intro used raised
  have hlies : LiesIn x raised i := (chooseVariation_eq_some_iff.mp hchosen).1.of_le hle
  obtain ⟨j, hj, hother⟩ := hlies.exists_chosen
  have hbetween : weightBefore used i < weightBefore used (j + 1) :=
    (chooseVariation_eq_some_iff.mp hother).1.weightBefore_lt hlies
  refine ⟨?_, ⟨j, hj, hother, fun _ => hbetween⟩, fun hnonneg => ?_⟩
  · rw [chooseVariation_eq_some_iff]
    exact and_iff_right hlies
  · exact (chooseVariation_eq_some_iff_liesIn hnonneg).mpr hlies

/-- Three weights that add up to one, the second of them negative. -/
def folded : List ℚ := [3 / 5, -2 / 5, 4 / 5]

theorem folded_chosen : effectiveWeights 3 (some folded) = folded ∧
    chooseVariation (3022 / 10000 : ℚ) (bucketRanges 3 (1 / 5) (some folded)) = some 2 ∧
      chooseVariation (3022 / 10000 : ℚ) (bucketRanges 3 1 (some folded)) = some 0 := by
  decide +kernel

/-- A user in the third variation is moved, because the first range grows so far as to hold the
user; the second weight is negative. Without it the user stays. -/
theorem folded_coverage_raised :
    ((1 / 5 : ℚ) ≤ 1 ∧
      chooseVariation (3022 / 10000 : ℚ) (bucketRanges 3 (1 / 5) (some folded)) = some 2) ∧
      (¬ ∀ j < 2, ¬ LiesIn (3022 / 10000) (bucketRanges 3 1 (some folded)) j) ∧
      chooseVariation (3022 / 10000 : ℚ) (bucketRanges 3 1 (some rising)) = some 1 := by
  have hle : (1 / 5 : ℚ) ≤ 1 := by decide +kernel
  have hstays : chooseVariation (3022 / 10000 : ℚ) (bucketRanges 3 (1 / 2) (some rising)) =
      some 1 := by decide +kernel
  refine ⟨⟨hle, folded_chosen.2.1⟩, fun hnone => ?_, ?_⟩
  · have hsame := (coverage_keeps_iff hle folded_chosen.2.1).1.mpr hnone
    rw [folded_chosen.2.2] at hsame
    cases hsame
  · exact (coverage_keeps_iff (by decide +kernel) hstays).2.2 (by decide +kernel)

/-- Raising the coverage may move a user from one variation to another. -/
theorem exists_moved :
    ¬ ∀ (n : ℕ) (weights : Option (List ℚ)) (coverage coverage' : ℚ) (seed value : String)
      (version : Int) (x : ℚ) (i : ℕ), coverage ≤ coverage' →
      hashUnit ℚ seed value version = some x →
      chooseVariation x (bucketRanges n coverage weights) = some i →
      chooseVariation x (bucketRanges n coverage' weights) = some i := by
  intro hkeeps
  have hplace : hashUnit ℚ "exp1" "123" 2 = some (3022 / 10000) := by decide +kernel
  have hmoved := hkeeps 3 (some folded) (1 / 5) 1 "exp1" "123" 2 _ 2 (by decide +kernel) hplace
    folded_chosen.2.1
  rw [folded_chosen.2.2] at hmoved
  cases hmoved

end FeatureFlags
