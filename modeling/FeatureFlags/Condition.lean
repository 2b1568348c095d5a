/-
# Targeting conditions

A condition is a JSON tree that describes a group of users by their attributes. A
tree is an object whose fields must all hold: `$and`, `$or`, `$nor` and `$not`
combine trees, and every other field name is the dotted path of an attribute, with
a value condition on it. A value condition is a plain value to compare with, or an
object of operators that must all hold.

Some parts have no meaning: a pattern that cannot be read, a logical operator
without its list. Evaluation goes from left to right in key order and stops at the
first part that decides. If it meets a malformed part before that, the whole
condition is malformed, and a malformed condition holds for nobody, even below a
negation.

Key definitions:
* `Verdict`: holds, fails, or malformed, with connectives that look at the second
  part only if the first does not decide.
* `Condition.evalTree`, `Condition.evalValue`: the meaning of trees and of value
  conditions.
* `Condition.holds`: whether a condition holds for a user.
-/
import FeatureFlags.Json.Equivalence
import FeatureFlags.Pattern.Matching
import FeatureFlags.Pattern.Reader
import FeatureFlags.Version

namespace FeatureFlags

/-- What the evaluation of a condition comes to. -/
inductive Verdict where
  | holds
  | fails
  | malformed
deriving DecidableEq, Repr

namespace Verdict

/-- A decided verdict. -/
def ofBool (b : Bool) : Verdict := if b then holds else fails

/-- Both parts; the second counts only if the first holds. -/
@[inline] def and (a b : Verdict) : Verdict :=
  match a with
  | holds => b
  | fails => fails
  | malformed => malformed

/-- One of the parts; the second counts only if the first fails. -/
@[inline] def or (a b : Verdict) : Verdict :=
  match a with
  | holds => holds
  | fails => b
  | malformed => malformed

/-- The opposite; what is malformed stays so. -/
def not : Verdict → Verdict
  | holds => fails
  | fails => holds
  | malformed => malformed

/-- Whether a test holds for some item of a list, from left to right. -/
def anyOf {α : Type} (test : α → Verdict) : List α → Verdict
  | [] => fails
  | a :: rest => (test a).or (anyOf test rest)

end Verdict

/-- A targeting condition, as the JSON tree that it is written as. -/
structure Condition where
  tree : Json

namespace Condition

/-- The operators that combine trees. -/
inductive Connective where
  | or
  | nor
  | and
  | not
deriving DecidableEq

/-- The connective that a field name stands for. -/
def Connective.ofKey? : String → Option Connective
  | "$or" => some .or
  | "$nor" => some .nor
  | "$and" => some .and
  | "$not" => some .not
  | _ => none

/-- The operators on one value. -/
inductive Operator where
  | eq
  | ne
  | gt
  | gte
  | lt
  | lte
  | isIn
  | notIn
  | regex
  | size
  | elemMatch
  | all
  | not
  | type
  | exists
  | versionEq
  | versionNe
  | versionGt
  | versionGte
  | versionLt
  | versionLte
  | inGroup
  | notInGroup
deriving DecidableEq

/-- The operator that a field name stands for. -/
def Operator.ofKey? : String → Option Operator
  | "$eq" => some .eq
  | "$ne" => some .ne
  | "$gt" => some .gt
  | "$gte" => some .gte
  | "$lt" => some .lt
  | "$lte" => some .lte
  | "$in" => some .isIn
  | "$nin" => some .notIn
  | "$regex" => some .regex
  | "$size" => some .size
  | "$elemMatch" => some .elemMatch
  | "$all" => some .all
  | "$not" => some .not
  | "$type" => some .type
  | "$exists" => some .exists
  | "$veq" => some .versionEq
  | "$vne" => some .versionNe
  | "$vgt" => some .versionGt
  | "$vgte" => some .versionGte
  | "$vlt" => some .versionLt
  | "$vlte" => some .versionLte
  | "$inGroup" => some .inGroup
  | "$notInGroup" => some .notInGroup
  | _ => none

/-- Whether an object consists of operators: every name begins with `$`. An object
without fields does. -/
def isOperatorObject (fields : List (String × Json)) : Bool :=
  fields.all fun field => field.1.toList.head? == some '$'

/-- Whether a value is an object of operators. -/
def isOperators : Json → Bool
  | .obj fields => isOperatorObject fields
  | _ => false

/-- The values of a saved group; an unknown group has none. -/
def groupValues (groups : Entries Json) (group : Json) : List Json :=
  match group with
  | .str id => ((Entries.find? id groups).bind Json.items?).getD []
  | _ => []

/-- The padded version text of a value; what is neither text nor number counts as
version `0`. -/
def versionText : Json → String
  | .str s => paddedVersion (if s = "" then "0" else s)
  | .num n => paddedVersion n.plainText
  | _ => paddedVersion "0"

/-- Whether a text contains a match of a pattern that is given as a value. -/
def matchesPattern (text : String) : Json → Verdict
  | .str pattern =>
    match Pattern.ofText? pattern with
    | some p => .ofBool (p.occursIn text)
    | none => .malformed
  | _ => .malformed

/-- The operators whose operand is a plain value. The others take conditions, and
hold for nothing here. -/
def Operator.compare (groups : Entries Json) (op : Operator) (actual expected : Json) : Verdict :=
  let ordered (test : Ordering → Bool) : Verdict :=
    .ofBool ((Json.looseOrder? actual expected).any test)
  let versions (test : Ordering → Bool) : Verdict :=
    .ofBool (test (Ord.compare (versionText actual) (versionText expected)))
  match op with
  | .eq => .ofBool (actual.equivalent expected)
  | .ne => .ofBool !(actual.equivalent expected)
  | .gt => ordered Ordering.isGT
  | .gte => ordered Ordering.isGE
  | .lt => ordered Ordering.isLT
  | .lte => ordered Ordering.isLE
  | .isIn => .ofBool (expected.items?.any actual.isAmong)
  | .notIn => .ofBool (expected.items?.any fun values => !actual.isAmong values)
  | .inGroup => .ofBool (actual.isAmong (groupValues groups expected))
  | .notInGroup => .ofBool !(actual.isAmong (groupValues groups expected))
  | .regex => matchesPattern actual.looseText expected
  | .type => .ofBool (expected.string? == some actual.kindName)
  | .exists => .ofBool (expected.truthy != actual.isNull)
  | .versionEq => versions Ordering.isEq
  | .versionNe => versions Ordering.isNe
  | .versionGt => versions Ordering.isGT
  | .versionGte => versions Ordering.isGE
  | .versionLt => versions Ordering.isLT
  | .versionLte => versions Ordering.isLE
  | .size | .elemMatch | .all | .not => .fails

mutual

/-- Whether a tree holds for the object that its paths start from. -/
def evalTree (groups : Entries Json) : Json → Json → Verdict
  | .obj fields, subject => evalFields groups fields subject
  | _, _ => .malformed
termination_by structural j => j

/-- Whether every field of a tree holds. -/
def evalFields (groups : Entries Json) : List (String × Json) → Json → Verdict
  | [], _ => .holds
  | (key, child) :: rest, subject =>
    let first : Verdict := match Connective.ofKey? key with
      | some .or => evalAny groups child subject
      | some .nor => (evalAny groups child subject).not
      | some .and => evalAll groups child subject
      | some .not => (evalTree groups child subject).not
      | none => evalValue groups child (subject.atPath key)
    first.and (evalFields groups rest subject)
termination_by structural j => j

/-- Whether some tree of a list holds; a list without trees holds. -/
def evalAny (groups : Entries Json) : Json → Json → Verdict
  | .arr [], _ => .holds
  | .arr trees, subject => evalSome groups trees subject
  | _, _ => .malformed
termination_by structural j => j

/-- Whether some tree holds. -/
def evalSome (groups : Entries Json) : List Json → Json → Verdict
  | [], _ => .fails
  | tree :: rest, subject => (evalTree groups tree subject).or (evalSome groups rest subject)
termination_by structural j => j

/-- Whether every tree of a list holds. -/
def evalAll (groups : Entries Json) : Json → Json → Verdict
  | .arr trees, subject => evalEvery groups trees subject
  | _, _ => .malformed
termination_by structural j => j

/-- Whether every tree holds. -/
def evalEvery (groups : Entries Json) : List Json → Json → Verdict
  | [], _ => .holds
  | tree :: rest, subject => (evalTree groups tree subject).and (evalEvery groups rest subject)
termination_by structural j => j

/-- Whether a value condition holds for a value. A text, a number and a truth value
are compared with that reading of the value, an array and an object that is not
made of operators by structure. -/
def evalValue (groups : Entries Json) : Json → Json → Verdict
  | .null, actual => .ofBool actual.isNull
  | .bool b, actual => .ofBool (!actual.isNull && actual.truthy == b)
  | .num n, actual => .ofBool (actual.looseNumber?.any (· == n.toFloat))
  | .str s, actual => .ofBool (actual.looseText == s)
  | .arr items, actual => .ofBool (actual.equivalent (.arr items))
  | .obj fields, actual =>
    if isOperatorObject fields then evalOperators groups fields actual
    else .ofBool (actual.equivalent (.obj fields))
termination_by structural j => j

/-- Whether every operator of an object holds. An unknown operator fails. -/
def evalOperators (groups : Entries Json) : List (String × Json) → Json → Verdict
  | [], _ => .holds
  | (key, expected) :: rest, actual =>
    let first : Verdict := match Operator.ofKey? key, actual with
      | none, _ => .fails
      | some .not, _ => (evalValue groups expected actual).not
      | some .size, .arr items => evalValue groups expected (.int items.length)
      | some .elemMatch, .arr items =>
        let present := items.filter Json.truthy
        if isOperators expected then Verdict.anyOf (fun item => evalValue groups expected item) present
        else Verdict.anyOf (fun item => evalTree groups expected item) present
      | some .all, .arr items => evalEach groups expected items
      | some op, _ => op.compare groups actual expected
    first.and (evalOperators groups rest actual)
termination_by structural j => j

/-- Whether every value condition of a list holds for some item. -/
def evalEach (groups : Entries Json) : Json → List Json → Verdict
  | .arr conditions, items => evalEachOf groups conditions items
  | _, _ => .malformed
termination_by structural j => j

/-- Whether every value condition holds for some item. -/
def evalEachOf (groups : Entries Json) : List Json → List Json → Verdict
  | [], _ => .holds
  | condition :: rest, items =>
    (Verdict.anyOf (fun item => evalValue groups condition item) items).and
      (evalEachOf groups rest items)
termination_by structural j => j

end

/-- Whether a condition holds for a user with the given attributes, with the saved
groups that it may refer to. -/
def holds (condition : Condition) (attributes groups : Entries Json) : Bool :=
  evalTree groups condition.tree (.obj attributes) == .holds

end Condition
end FeatureFlags
