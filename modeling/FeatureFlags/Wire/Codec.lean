/-
# Values as JSON

A codec says how the values of a type are written as JSON and which JSON is read
as one. A value that has been read and is written again is read back as the same value.

Integers are those of 64 bits and are not read from floats, while floats are read
from integers too. Plain JSON values are brought into canonical form.

Key definitions:
* `Codec`, and the codecs of simple values.
* `Codec.Lawful`: a value that has been read survives being written and read.
-/
import FeatureFlags.Bucketing
import FeatureFlags.Condition

namespace FeatureFlags

/-- A way to write and read the values of a type. -/
structure Codec (α : Type) where
  read : Json → Option α
  write : α → Json

namespace Codec

/-- A value that has been read is read again from what it is written as. -/
def Lawful {α : Type} (codec : Codec α) : Prop :=
  ∀ j a, codec.read j = some a → codec.read (codec.write a) = some a

/-- Any JSON value. -/
def json : Codec Json := ⟨fun j => some j.canonical, id⟩

/-- A condition, which may be any JSON value. -/
def condition : Codec Condition := ⟨fun j => some ⟨j.canonical⟩, Condition.tree⟩

/-- A text. -/
def string : Codec String := ⟨Json.string?, .str⟩

/-- A truth value. -/
def bool : Codec Bool where
  read
    | .bool b => some b
    | _ => none
  write := .bool

/-- A finite float, read from any number. -/
def float : Codec Float where
  read
    | .num n => (FiniteFloat.ofFloat? n.toFloat).map (·.value)
    | _ => none
  write := Json.ofFloat

/-- An integer between two bounds. -/
def intBetween (least greatest : Int) : Codec Int where
  read
    | .num (.int n) => if least ≤ n ∧ n ≤ greatest then some n else none
    | _ => none
  write := Json.int

/-- A signed integer of 64 bits. -/
def int64 : Codec Int := intBetween (-Int.pow 2 63) (Int.pow 2 63 - 1)

/-- A natural number of 64 bits. -/
def index : Codec Nat where
  read
    | .num (.int n) => if 0 ≤ n ∧ n < Int.pow 2 64 then some n.toNat else none
    | _ => none
  write n := Json.int n

/-- An array of values. -/
def list {α : Type} (item : Codec α) : Codec (List α) where
  read
    | .arr items => items.mapM item.read
    | _ => none
  write items := .arr (items.map item.write)

/-- The fields of an object, each any JSON value. -/
def object : Codec (Entries Json) where
  read
    | .obj fields => some (Json.canonicalFields fields [])
    | _ => none
  write := .obj

/-- An object as a dictionary; the last field of a name counts. -/
def dictionary {α : Type} (value : Codec α) : Codec (Dictionary α) where
  read
    | .obj fields =>
      (fields.mapM fun field => (value.read field.2).map (field.1, ·)).map Dictionary.ofList
    | _ => none
  write dict := .obj (dict.toList.map fun entry => (entry.1, value.write entry.2))

/-- A value, or `null` for none. -/
def orNull {α : Type} (value : Codec α) : Codec (Option α) where
  read
    | .null => some none
    | j => (value.read j).map some
  write := Json.ofOption value.write

/-- A range, as the pair of its ends. -/
def range : Codec BucketRange where
  read
    | .arr [a, b] => do return ⟨← float.read a, ← float.read b⟩
    | _ => none
  write r := .arr [float.write r.start, float.write r.stop]

/-- A slice of a name space, as its name and its two ends. -/
def slice : Codec Namespace where
  read
    | .arr [id, a, b] => do return ⟨← string.read id, ← float.read a, ← float.read b⟩
    | _ => none
  write s := .arr [.str s.id, float.write s.start, float.write s.stop]

end Codec
end FeatureFlags
