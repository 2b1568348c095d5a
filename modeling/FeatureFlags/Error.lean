/-
# What can go wrong

Evaluation itself never fails. Errors are about what a caller hands in: text that
is not JSON or has another shape than expected, a page address that is none, or a
value that is asked for as a type it does not have.

Key definitions:
* `FlagError`, `FlagError.message`.
-/
namespace FeatureFlags

/-- What is wrong with an input. -/
inductive FlagError where
  | invalidJson
  | attributesNotAnObject
  | invalidUrl
  | typeMismatch
deriving DecidableEq, Repr

/-- The text shown to the caller. -/
def FlagError.message : FlagError → String
  | .invalidJson => "invalid JSON payload"
  | .attributesNotAnObject => "attributes must be a JSON object"
  | .invalidUrl => "invalid url"
  | .typeMismatch => "feature value has unexpected type"

end FeatureFlags
