/-
# Who a user is

Users are placed by the text of one attribute. The attribute is named by the rule
or experiment, `id` if it names none; a fallback attribute steps in when the user
has no value for the first one.

Key definitions:
* `Attributes`: what is known about a user.
* `Identity`, `Identity.resolve`: the attribute in use and its text.
-/
import FeatureFlags.Json.Loose

namespace FeatureFlags

/-- What is known about a user: the fields of a JSON object in key order. -/
abbrev Attributes := Entries Json

/-- The attribute that a user is placed by, and its text. The text is empty if the
user has no value for it. -/
structure Identity where
  name : String
  value : String
deriving DecidableEq, Repr

namespace Identity

/-- The attribute that is used if none is named. -/
def defaultAttribute : String := "id"

/-- The text of an attribute, empty if the user does not have it. -/
def textOf (attributes : Attributes) (name : String) : String :=
  ((Entries.find? name attributes).map Json.hashText).getD ""

/-- A name that is given and not empty. -/
def named (name : Option String) : Option String := name.filter (· ≠ "")

/-- The identity by the attribute `primary`, or by `fallback` if the user has no
text for the first one but has one for the second. -/
def resolve (primary fallback : Option String) (attributes : Attributes) : Identity :=
  let first := (named primary).getD defaultAttribute
  let own : Identity := ⟨first, textOf attributes first⟩
  match named fallback with
  | none => own
  | some second =>
    if own.value = "" ∧ textOf attributes second ≠ "" then ⟨second, textOf attributes second⟩
    else own

/-- Names that come to the same attribute come to the same identity. -/
theorem resolve_eq_of_named {primary primary' : Option String}
    (h : (named primary').getD defaultAttribute = (named primary).getD defaultAttribute)
    (attributes : Attributes) : resolve primary' none attributes = resolve primary none attributes := by
  unfold resolve
  rw [h]

end Identity
end FeatureFlags
