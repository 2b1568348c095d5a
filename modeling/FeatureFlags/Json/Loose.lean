/-
# Loose readings of values

Attributes and conditions come from many places, which do not agree on whether an
age is `30` or `"30"`. Targeting therefore reads every value as a text, as a number
and as a truth value. These readings are fixed by what other implementations of
the same targeting rules do.

A value used for hashing has a reading of its own, `hashText`, in which nothing is
the empty text.

Key definitions:
* `Json.looseText`, `Json.looseNumber?`, `Json.truthy`: the three readings.
* `Json.hashText`: the text that a user is hashed by.
* `Json.isOn`: whether a feature with this value counts as on.
* `Json.atPath`: the value at a dotted path.
-/
import FeatureFlags.Decimal.Numeral
import FeatureFlags.Json.Writer
import FeatureFlags.Text.Blank
import FeatureFlags.Text.Split

namespace FeatureFlags
namespace Json

mutual

/-- The value as a text. Items of an array are separated by commas. -/
def looseText : Json → String
  | .null => "null"
  | .bool true => "true"
  | .bool false => "false"
  | .num n => n.plainText
  | .str s => s
  | .arr items => ",".intercalate (looseItems items)
  | .obj _ => "[object Object]"

/-- The texts of the items of an array, nothing for `null`. -/
def looseItems : List Json → List String
  | [] => []
  | .null :: rest => "" :: looseItems rest
  | item :: rest => item.looseText :: looseItems rest

end

/-- A text as a number, zero if it is blank. -/
def textNumber? (s : String) : Option Float :=
  let chars := trimBlank s.toList
  if chars = [] then some 0 else (decimalFloat? chars).map (·.value)

/-- The value as a number. An array of one item counts as the text of the item. -/
def looseNumber? : Json → Option Float
  | .null => some 0
  | .bool b => some (if b then 1 else 0)
  | .num n => some n.toFloat
  | .str s => textNumber? s
  | .arr [] => some 0
  | .arr [item] => textNumber? item.looseText
  | .arr _ => none
  | .obj _ => none

/-- The value as a truth value: nothing, zero and the empty text are false. -/
def truthy : Json → Bool
  | .null => false
  | .bool b => b
  | .num n => n.toFloat != 0
  | .str s => s != ""
  | .arr _ => true
  | .obj _ => true

/-- Whether a feature with this value is on: like `truthy`, but empty arrays and
objects are off. -/
def isOn : Json → Bool
  | .arr items => !items.isEmpty
  | .obj fields => !fields.isEmpty
  | v => v.truthy

/-- The name of the kind of value. -/
def kindName : Json → String
  | .null => "null"
  | .bool _ => "boolean"
  | .num _ => "number"
  | .str _ => "string"
  | .arr _ => "array"
  | .obj _ => "object"

/-- The text that a user with this attribute value is hashed by. Arrays and objects
count as their JSON text. -/
def hashText : Json → String
  | .null => ""
  | .bool true => "true"
  | .bool false => "false"
  | .num n => n.plainText
  | .str s => s
  | .arr items => (Json.arr items).write
  | .obj fields => (Json.obj fields).write

/-- The names of a dotted path. -/
def pathSegments (path : String) : List String :=
  (cut (· = '.') path.toList).map String.ofList

/-- The value reached by entering one field after the other; `null` if a field is
missing or there is no object to enter. -/
def descend : Json → List String → Json
  | v, [] => v
  | .obj fields, name :: rest =>
    match Entries.find? name fields with
    | some v => descend v rest
    | none => .null
  | _, _ :: _ => .null

/-- The value at a dotted path. -/
def atPath (v : Json) (path : String) : Json := v.descend (pathSegments path)

end Json
end FeatureFlags
