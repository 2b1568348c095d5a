/-
# Values of a type

Callers that know the type of a feature or of the variations of an experiment ask for
values of that type. A value that does not fit is an error, or gives way to a default.

Writing a variation may fail, and then the experiment is not run; if the value of the
result cannot be read, it has been run.

Key definitions:
* `ValueType`: how the values of a type are read and written.
* `Session.value`, `Session.valueOr`: the value of a feature.
* `Session.runTyped`: runs an experiment over the type.
-/
import FeatureFlags.Session.Basic

namespace FeatureFlags

/-- How the values of a type are read from JSON and written as it. -/
structure ValueType (α : Type) where
  read : Json → Option α
  write : α → Option Json

namespace ValueType

variable {α : Type}

/-- The values that a codec reads and writes. -/
def ofCodec (codec : Codec α) : ValueType α := ⟨codec.read, fun a => some (codec.write a)⟩

/-- A value of the type, or the error that the JSON does not fit. -/
def convert (type : ValueType α) (j : Json) : Except FlagError α :=
  match type.read j with
  | some a => .ok a
  | none => .error .typeMismatch

/-- The experiment with its variations as JSON. -/
def lower (type : ValueType α) (e : Experiment α) : Except FlagError Experiment := do
  let variations ← Session.orInvalidJson (e.variations.mapM type.write)
  return e.withVariations variations

end ValueType

namespace Session

variable {α : Type}

/-- The value of a feature, none if the feature has no value. -/
def value (s : Session) (type : ValueType α) (feature : String) :
    Outcome (Except FlagError (Option α)) :=
  (s.evaluate feature none).map fun result => result.value?.mapM type.convert

/-- The value of a feature, or `default` if it has none of the type. -/
def valueOr (s : Session) (type : ValueType α) (feature : String) (default : α) : Outcome α :=
  (s.value type feature).map fun
    | .ok (some a) => a
    | _ => default

/-- Runs an experiment over the type. -/
def runTyped (s : Session) (type : ValueType α) (e : Experiment α) :
    Outcome (Except FlagError (ExperimentResult α)) :=
  match type.lower e with
  | .error error => ⟨.error error, [], s⟩
  | .ok lowered => (s.run lowered).map fun result => result.mapM type.convert

end Session
end FeatureFlags
