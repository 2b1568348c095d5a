/-
# Records as JSON

A record is written as an object with a field for everything that is given. It is
read from an object, in which unknown fields are ignored and a known one may stand
once only, or from an array of its fields in their order, in which fields at the
end may be left out.

A field may be required, may be left out or `null`, or may have a value that
counts if it is left out.

Key definitions:
* `Layout.open?`: the fields of a record under their names.
* `Record.required`, `Record.optional`, `Record.orElse`: reading one field.
-/
import FeatureFlags.Wire.Codec

namespace FeatureFlags

/-- The fields of a record in their order. Each has a name and, after it, other
names that are read as well. -/
abbrev Layout := List (List String)

/-- The fields that are given, under their names. -/
abbrev Record := List (String × Json)

namespace Layout

/-- The layout of fields with one name each. -/
def ofNames (names : List String) : Layout := names.map ([·])

/-- The field that a key belongs to. -/
def nameOf? (layout : Layout) (key : String) : Option String :=
  (List.find? (fun names => names.contains key) layout).bind List.head?

/-- The known fields of an object. -/
def known (layout : Layout) (fields : List (String × Json)) : Record :=
  fields.filterMap fun field => (layout.nameOf? field.1).map (·, field.2)

/-- The fields that an object or an array gives. -/
def open? (layout : Layout) : Json → Option Record
  | .obj fields =>
    let known := layout.known fields
    if (known.map (·.1)).eraseDups.length = known.length then some known else none
  | .arr items =>
    if items.length ≤ layout.length then some ((layout.filterMap List.head?).zip items) else none
  | _ => none

end Layout

namespace Record

variable {α : Type}

/-- A field that must be given. -/
def required (record : Record) (name : String) (codec : Codec α) : Option α :=
  (Entries.find? name record).bind codec.read

/-- A field that may be left out or `null`. -/
def optional (record : Record) (name : String) (codec : Codec α) : Option (Option α) :=
  match Entries.find? name record with
  | none => some none
  | some j => codec.orNull.read j

/-- A field for which `default` counts if it is left out. -/
def orElse (record : Record) (name : String) (codec : Codec α) (default : α) : Option α :=
  match Entries.find? name record with
  | none => some default
  | some j => codec.read j

/-- A field of any JSON value, none if it is left out. -/
def given (record : Record) (name : String) : Option Json :=
  (Entries.find? name record).map Json.canonical

/-- An object of the fields that are given. -/
def write (fields : List (String × Option Json)) : Json := Json.ofPresent fields

/-- A list that is left out if it has no items. -/
def unlessEmpty (codec : Codec α) (items : List α) : Option Json :=
  if items.isEmpty then none else some (codec.list.write items)

/-- A truth value that is left out if it is false. -/
def ifTrue (b : Bool) : Option Json := if b then some (.bool true) else none

end Record
end FeatureFlags
