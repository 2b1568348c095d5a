/-
# JSON values

A JSON number is either an integer or a finite binary float; the two kinds are
kept apart (`1` and `1.0` are written differently) and compared by value. An
object is a list of named fields. As read from text it has the order of the text
and may name a field twice; `Json.canonical` gives the form that values are
evaluated and written in: fields in key order, the last field of a name counting.

Key definitions:
* `Number`, `Json`: the values.
* `Number.toFloat`: the value of a number as a float.
* `Json.canonical`: fields in key order, without repetitions.
-/
import FeatureFlags.Decimal.Finite
import FeatureFlags.Dictionary

namespace FeatureFlags

/-- A JSON number: an integer, or a finite float. -/
inductive Number where
  | int (n : Int)
  | float (x : FiniteFloat)
deriving DecidableEq

/-- The value of a number as a float; integers are rounded to the nearest one. -/
def Number.toFloat : Number → Float
  | .int n => nearestFloat n
  | .float x => x.value

/-- A JSON value. -/
inductive Json where
  | null
  | bool (b : Bool)
  | num (n : Number)
  | str (s : String)
  | arr (items : List Json)
  | obj (fields : List (String × Json))

namespace Json

instance : Inhabited Json := ⟨.null⟩

/-- An integer value. -/
def int (n : Int) : Json := .num (.int n)

/-- A float value; `null` stands for what JSON cannot hold, infinities and NaN. -/
def ofFloat (x : Float) : Json :=
  match FiniteFloat.ofFloat? x with
  | some x => .num (.float x)
  | none => .null

/-- An optional value, `null` for none. -/
def ofOption {α : Type} (write : α → Json) : Option α → Json
  | some a => write a
  | none => .null

/-- The fields of an object. -/
def fields? : Json → Option (Entries Json)
  | .obj fields => some fields
  | _ => none

/-- The items of an array. -/
def items? : Json → Option (List Json)
  | .arr items => some items
  | _ => none

/-- The text of a string. -/
def string? : Json → Option String
  | .str s => some s
  | _ => none

/-- Whether the value is `null`. -/
def isNull : Json → Bool
  | .null => true
  | _ => false

mutual

/-- The value with the fields of every object in key order; of fields with one
name the last stays. -/
def canonical : Json → Json
  | .arr items => .arr (canonicalItems items)
  | .obj fields => .obj (canonicalFields fields [])
  | .null => .null
  | .bool b => .bool b
  | .num n => .num n
  | .str s => .str s

/-- `canonical` of every item. -/
def canonicalItems : List Json → List Json
  | [] => []
  | item :: rest => item.canonical :: canonicalItems rest

/-- `canonical` of every field, stored in key order. -/
def canonicalFields : List (String × Json) → Entries Json → Entries Json
  | [], acc => acc
  | (key, value) :: rest, acc => canonicalFields rest (acc.insert key value.canonical)

end

/-- An object with the given fields, in key order. -/
def ofFields (fields : List (String × Json)) : Json := .obj (Entries.ofList fields)

/-- An object with the fields that are present. -/
def ofPresent (fields : List (String × Option Json)) : Json :=
  ofFields (fields.filterMap fun field => field.2.map (field.1, ·))

end Json
end FeatureFlags
