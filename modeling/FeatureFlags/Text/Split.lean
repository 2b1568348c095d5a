/-
# Cutting text

Key definitions:
* `cut`: the parts of a text between separators.
-/
namespace FeatureFlags

/-- The parts of a text between the characters that `separates` holds of. There is
one part more than there are separators. -/
def cut (separates : Char → Bool) : List Char → List (List Char)
  | [] => [[]]
  | c :: rest =>
    if separates c then [] :: cut separates rest
    else match cut separates rest with
      | [] => [[c]]
      | part :: others => (c :: part) :: others

theorem cut_ne_nil (separates : Char → Bool) : ∀ text, cut separates text ≠ []
  | [] => by simp [cut]
  | c :: rest => by
    unfold cut
    split
    · simp
    · split <;> simp

end FeatureFlags
