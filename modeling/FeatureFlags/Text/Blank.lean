/-
# Blank characters

The white space of Unicode, which is ignored around numbers in text.

Key definitions:
* `isBlank`, `trimBlank`.
-/
namespace FeatureFlags

/-- Whether a character is white space. -/
def isBlank (c : Char) : Bool :=
  decide ('\t' ≤ c ∧ c ≤ '\r') || c = ' ' || c = '\u0085' || c = '\u00a0' || c = '\u1680' ||
    decide ('\u2000' ≤ c ∧ c ≤ '\u200a') || c = '\u2028' || c = '\u2029' || c = '\u202f' ||
    c = '\u205f' || c = '\u3000'

/-- Every character that Lean's `Char.isWhitespace` knows is blank. -/
theorem isBlank_of_isWhitespace {c : Char} (h : c.isWhitespace = true) : isBlank c = true := by
  simp only [Char.isWhitespace, Bool.or_eq_true, decide_eq_true_eq] at h
  rcases h with ((rfl | rfl) | rfl) | rfl <;> decide

/-- The text without blanks at its ends. -/
def trimBlank (chars : List Char) : List Char :=
  ((chars.dropWhile isBlank).reverse.dropWhile isBlank).reverse

end FeatureFlags
