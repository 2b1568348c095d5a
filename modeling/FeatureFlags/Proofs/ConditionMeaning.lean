/-
# What a condition means

A condition that is well-formed is a statement about a user: it is true or false, and
nothing else. The fields of a tree and the operators of an object are a conjunction, `$and`
says that all of its trees hold and `$or` that some of them does, `$nor` is the negation of
`$or`, and both forms of `$not` are negation. `Condition.Means` says this with "for all" and
"there is", which know of no first and no last part, and of no part that is left out.

Evaluation goes from left to right and stops where it can. On a well-formed condition it comes
to a verdict, and the verdict is what the condition means (`WellFormed.decides`).

The argument follows the shape of conditions. `Verdict.Decides` relates a verdict to a
statement, the connectives of verdicts to those of statements, and `decides_evalTree` and its
companions go through the evaluator, one for each of its functions.

Key definitions: `Condition.Part`, `Condition.WellFormed`, `Condition.Means`,
`Verdict.Decides`.
Key theorems: `Condition.decides_evalTree`, `Condition.WellFormed.decides`.
-/
import FeatureFlags.Condition

namespace FeatureFlags

/-! ### Verdicts on statements -/

namespace Verdict

/-- A verdict on a statement: it holds if the statement is true, and fails if it is false. -/
def Decides : Verdict → Prop → Prop
  | holds, p => p
  | fails, p => ¬ p
  | malformed, _ => False

variable {a b : Verdict} {p q : Prop}

theorem Decides.congr (h : a.Decides p) (hiff : p ↔ q) : a.Decides q :=
  propext hiff ▸ h

theorem Decides.ne_malformed (h : a.Decides p) : a ≠ malformed := by
  rintro rfl
  exact h

theorem Decides.eq_holds_iff (h : a.Decides p) : a = holds ↔ p := by
  cases a with
  | holds => exact iff_of_true rfl h
  | fails => exact iff_of_false nofun h
  | malformed => exact h.elim

theorem decides_ofBool (b : Bool) : (ofBool b).Decides (b = true) := by
  cases b with
  | true => rfl
  | false => exact Bool.false_ne_true

theorem Decides.and (ha : a.Decides p) (hb : b.Decides q) : (a.and b).Decides (p ∧ q) := by
  cases a with
  | holds => exact hb.congr (and_iff_right ha).symm
  | fails => exact fun hboth => ha hboth.1
  | malformed => exact ha.elim

theorem Decides.or (ha : a.Decides p) (hb : b.Decides q) : (a.or b).Decides (p ∨ q) := by
  cases a with
  | holds => exact Or.inl ha
  | fails => exact hb.congr (or_iff_right ha).symm
  | malformed => exact ha.elim

theorem Decides.not (ha : a.Decides p) : a.not.Decides (¬ p) := by
  cases a with
  | holds => exact not_not_intro ha
  | fails => exact ha
  | malformed => exact ha.elim

/-- Whether a test holds for some item is decided if it is decided for each. -/
theorem decides_anyOf {α : Type} {test : α → Verdict} {meaning : α → Prop}
    (h : ∀ item, (test item).Decides (meaning item)) :
    ∀ items : List α, (anyOf test items).Decides (∃ item ∈ items, meaning item)
  | [] => by simp [anyOf, Decides]
  | item :: rest =>
    ((h item).or (decides_anyOf h rest)).congr (by simp)

end Verdict

namespace Condition

/-! ### The parts of a condition -/

/-- The parts that a condition is made of. -/
inductive Part where
  /-- A tree: an object of connectives and of value conditions under paths. -/
  | tree
  /-- A list of trees. -/
  | trees
  /-- A value condition. -/
  | value
  /-- A list of value conditions. -/
  | values
  /-- A pattern. -/
  | pattern
  /-- A plain value to compare with. -/
  | plain
deriving DecidableEq

/-- What stands under the name of a field of a tree. -/
def childPart (key : String) : Part :=
  match Connective.ofKey? key with
  | some .or | some .nor | some .and => .trees
  | some .not => .tree
  | none => .value

/-- What stands under an operator. -/
def operandPart (key : String) (operand : Json) : Part :=
  match Operator.ofKey? key with
  | some .not | some .size => .value
  | some .elemMatch => if isOperators operand then .value else .tree
  | some .all => .values
  | some .regex => .pattern
  | _ => .plain

theorem sizeOf_field_lt {field : String × Json} {fields : List (String × Json)}
    (h : field ∈ fields) : sizeOf field.2 < sizeOf (Json.obj fields) := by
  have hmem := List.sizeOf_lt_of_mem h
  obtain ⟨key, value⟩ := field
  simp only [Prod.mk.sizeOf_spec] at hmem
  simp only [Json.obj.sizeOf_spec]
  omega

theorem sizeOf_item_lt {item : Json} {items : List Json} (h : item ∈ items) :
    sizeOf item < sizeOf (Json.arr items) := by
  have hmem := List.sizeOf_lt_of_mem h
  simp only [Json.arr.sizeOf_spec]
  omega

/-- **Well-formed parts of a condition**: trees and operator objects are objects, what must be a
list is one, patterns can be read, and so on for all that they contain. An operator that is not
known is no reason not to be well-formed, and neither is the value that it has. -/
def WellFormedPart : Part → Json → Prop
  | .tree, .obj fields => ∀ field ∈ fields, WellFormedPart (childPart field.1) field.2
  | .trees, .arr trees => ∀ tree ∈ trees, WellFormedPart .tree tree
  | .value, .obj fields =>
    isOperatorObject fields → ∀ field ∈ fields, WellFormedPart (operandPart field.1 field.2) field.2
  | .value, _ => True
  | .values, .arr conditions => ∀ condition ∈ conditions, WellFormedPart .value condition
  | .pattern, .str pattern => ∃ p, Pattern.ofText? pattern = some p
  | .plain, _ => True
  | _, _ => False
termination_by _ j => sizeOf j
decreasing_by
  · exact sizeOf_field_lt ‹_›
  · exact sizeOf_item_lt ‹_›
  · exact sizeOf_field_lt ‹_›
  · exact sizeOf_item_lt ‹_›

theorem wellFormedPart_pattern (j : Json) : WellFormedPart .pattern j ↔
    ∃ pattern p, j = .str pattern ∧ Pattern.ofText? pattern = some p := by
  cases j <;> simp [WellFormedPart]

/-- A condition that is a well-formed tree. -/
def WellFormed (condition : Condition) : Prop := WellFormedPart .tree condition.tree

/-! ### Meaning -/

/-- What an operator with a plain operand says about a value. -/
def Operator.Relates (groups : Entries Json) (op : Operator) (actual expected : Json) : Prop :=
  match op with
  | .eq => actual.equivalent expected
  | .ne => ¬ actual.equivalent expected
  | .gt => Json.looseOrder? actual expected = some .gt
  | .gte => ∃ order, Json.looseOrder? actual expected = some order ∧ order ≠ .lt
  | .lt => Json.looseOrder? actual expected = some .lt
  | .lte => ∃ order, Json.looseOrder? actual expected = some order ∧ order ≠ .gt
  | .isIn => ∃ values, expected = .arr values ∧ actual.isAmong values
  | .notIn => ∃ values, expected = .arr values ∧ ¬ actual.isAmong values
  | .inGroup => actual.isAmong (groupValues groups expected)
  | .notInGroup => ¬ actual.isAmong (groupValues groups expected)
  | .regex => ∃ pattern p, expected = .str pattern ∧ Pattern.ofText? pattern = some p ∧
      p.occursIn actual.looseText
  | .type => expected = .str actual.kindName
  | .exists => expected.truthy = true ↔ ¬ actual.isNull = true
  | .versionEq => Ord.compare (versionText actual) (versionText expected) = .eq
  | .versionNe => Ord.compare (versionText actual) (versionText expected) ≠ .eq
  | .versionGt => Ord.compare (versionText actual) (versionText expected) = .gt
  | .versionGte => Ord.compare (versionText actual) (versionText expected) ≠ .lt
  | .versionLt => Ord.compare (versionText actual) (versionText expected) = .lt
  | .versionLte => Ord.compare (versionText actual) (versionText expected) ≠ .gt
  | .size | .elemMatch | .all | .not => False

mutual

/-- A tree says that all its fields hold. -/
def TreeMeans (groups : Entries Json) : Json → Json → Prop
  | .obj fields, subject => ∀ field ∈ fields, FieldMeans groups field.1 field.2 subject
  | _, _ => False
termination_by j => (sizeOf j, 0)
decreasing_by exact .left _ _ (sizeOf_field_lt ‹_›)

/-- What a field of a tree says. -/
def FieldMeans (groups : Entries Json) (key : String) (child subject : Json) : Prop :=
  match Connective.ofKey? key with
  | some .or => AnyMeans groups child subject
  | some .nor => ¬ AnyMeans groups child subject
  | some .and => AllMean groups child subject
  | some .not => ¬ TreeMeans groups child subject
  | none => ValueMeans groups child (subject.atPath key)
termination_by (sizeOf child, 1)

/-- Some tree of a list holds, if there is any. -/
def AnyMeans (groups : Entries Json) : Json → Json → Prop
  | .arr trees, subject =>
    trees = [] ∨ ∃ (tree : Json) (_ : tree ∈ trees), TreeMeans groups tree subject
  | _, _ => False
termination_by j => (sizeOf j, 0)
decreasing_by exact .left _ _ (sizeOf_item_lt ‹_›)

/-- All trees of a list hold. -/
def AllMean (groups : Entries Json) : Json → Json → Prop
  | .arr trees, subject => ∀ tree ∈ trees, TreeMeans groups tree subject
  | _, _ => False
termination_by j => (sizeOf j, 0)
decreasing_by exact .left _ _ (sizeOf_item_lt ‹_›)

/-- What a value condition says about a value. -/
def ValueMeans (groups : Entries Json) : Json → Json → Prop
  | .null, actual => actual.isNull
  | .bool b, actual => actual.isNull = false ∧ actual.truthy = b
  | .num n, actual => ∃ x, actual.looseNumber? = some x ∧ x == n.toFloat
  | .str s, actual => actual.looseText = s
  | .arr items, actual => actual.equivalent (.arr items)
  | .obj fields, actual =>
    if isOperatorObject fields then
      ∀ field ∈ fields, OperatorMeans groups field.1 field.2 actual
    else actual.equivalent (.obj fields)
termination_by j => (sizeOf j, 0)
decreasing_by exact .left _ _ (sizeOf_field_lt ‹_›)

/-- What an operator of an object says about a value. An operator that is not known holds for
nothing. -/
def OperatorMeans (groups : Entries Json) (key : String) (operand actual : Json) : Prop :=
  match Operator.ofKey? key with
  | none => False
  | some .not => ¬ ValueMeans groups operand actual
  | some .size => ∃ items, actual = .arr items ∧ ValueMeans groups operand (.int items.length)
  | some .elemMatch => ∃ items, actual = .arr items ∧ ∃ item ∈ items, item.truthy = true ∧
      if isOperators operand then ValueMeans groups operand item else TreeMeans groups operand item
  | some .all => ∃ items, actual = .arr items ∧ EachMeans groups operand items
  | some op => op.Relates groups actual operand
termination_by (sizeOf operand, 1)

/-- Every value condition of a list holds for some item. -/
def EachMeans (groups : Entries Json) : Json → List Json → Prop
  | .arr conditions, items =>
    ∀ condition ∈ conditions, ∃ item ∈ items, ValueMeans groups condition item
  | _, _ => False
termination_by j => (sizeOf j, 0)
decreasing_by exact .left _ _ (sizeOf_item_lt ‹_›)

end

/-- What a condition says about a user. -/
def Means (condition : Condition) (attributes groups : Entries Json) : Prop :=
  TreeMeans groups condition.tree (.obj attributes)

/-! ### Evaluation ends with the meaning -/

variable {groups : Entries Json}

/-- An operator on plain values decides what it says, a pattern if it can be read. -/
theorem Operator.decides_compare {op : Operator} {actual expected : Json}
    (hplain : op ≠ .size ∧ op ≠ .elemMatch ∧ op ≠ .all ∧ op ≠ .not)
    (hpattern : op = .regex → WellFormedPart .pattern expected) :
    (op.compare groups actual expected).Decides (op.Relates groups actual expected) := by
  cases op with
  | eq => exact Verdict.decides_ofBool _
  | ne => exact (Verdict.decides_ofBool _).congr (by simp [Operator.Relates])
  | gt | gte | lt | lte =>
    refine (Verdict.decides_ofBool _).congr ?_
    simp only [Operator.Relates]
    cases Json.looseOrder? actual expected with
    | none => simp
    | some order => cases order <;> simp
  | isIn | notIn =>
    refine (Verdict.decides_ofBool _).congr ?_
    cases expected <;> simp [Operator.Relates, Json.items?]
  | inGroup => exact Verdict.decides_ofBool _
  | notInGroup => exact (Verdict.decides_ofBool _).congr (by simp [Operator.Relates])
  | regex =>
    obtain ⟨pattern, p, rfl, hread⟩ := (wellFormedPart_pattern expected).mp (hpattern rfl)
    simp only [Operator.compare, matchesPattern, hread, Operator.Relates]
    exact (Verdict.decides_ofBool _).congr (by simp [hread])
  | type =>
    refine (Verdict.decides_ofBool _).congr ?_
    cases expected <;> simp [Operator.Relates, Json.string?]
  | «exists» =>
    refine (Verdict.decides_ofBool _).congr ?_
    simp only [Operator.Relates]
    cases expected.truthy <;> cases actual.isNull <;> decide
  | versionEq | versionNe | versionGt | versionGte | versionLt | versionLte =>
    refine (Verdict.decides_ofBool _).congr ?_
    simp only [Operator.Relates]
    cases Ord.compare (versionText actual) (versionText expected) <;> decide
  | size => exact absurd rfl hplain.1
  | elemMatch => exact absurd rfl hplain.2.1
  | all => exact absurd rfl hplain.2.2.1
  | not => exact absurd rfl hplain.2.2.2

/-- The evaluation of one operator of an object. -/
def evalOperator (groups : Entries Json) (key : String) (operand actual : Json) : Verdict :=
  match Operator.ofKey? key, actual with
  | none, _ => .fails
  | some .not, _ => (evalValue groups operand actual).not
  | some .size, .arr items => evalValue groups operand (.int items.length)
  | some .elemMatch, .arr items =>
    let present := items.filter Json.truthy
    if isOperators operand then Verdict.anyOf (fun item => evalValue groups operand item) present
    else Verdict.anyOf (fun item => evalTree groups operand item) present
  | some .all, .arr items => evalEach groups operand items
  | some op, _ => op.compare groups actual operand

theorem evalOperators_cons (key : String) (operand : Json) (rest : List (String × Json))
    (actual : Json) : evalOperators groups ((key, operand) :: rest) actual =
      (evalOperator groups key operand actual).and (evalOperators groups rest actual) := rfl

/-- An operator decides what it says if its operand does. -/
theorem decides_evalOperator {key : String} {operand : Json}
    (h : WellFormedPart (operandPart key operand) operand)
    (htree : WellFormedPart .tree operand → ∀ subject,
      (evalTree groups operand subject).Decides (TreeMeans groups operand subject))
    (hvalue : WellFormedPart .value operand → ∀ actual,
      (evalValue groups operand actual).Decides (ValueMeans groups operand actual))
    (heach : WellFormedPart .values operand → ∀ items,
      (evalEach groups operand items).Decides (EachMeans groups operand items))
    (actual : Json) :
    (evalOperator groups key operand actual).Decides (OperatorMeans groups key operand actual) := by
  cases hkey : Operator.ofKey? key with
  | none => simp [evalOperator, OperatorMeans, hkey, Verdict.Decides]
  | some op =>
    simp only [operandPart, hkey] at h
    simp only [evalOperator, OperatorMeans, hkey]
    cases op with
    | not => exact (hvalue h actual).not
    | size =>
      cases actual with
      | arr items => exact (hvalue h _).congr (by simp)
      | _ => exact nofun
    | elemMatch =>
      cases actual with
      | arr items =>
        by_cases hops : isOperators operand = true
        · simp only [hops, if_true] at h ⊢
          exact (Verdict.decides_anyOf (hvalue h) _).congr (by simp [and_assoc])
        · simp only [hops] at h ⊢
          exact (Verdict.decides_anyOf (htree h) _).congr (by simp [and_assoc])
      | _ => exact nofun
    | all =>
      cases actual with
      | arr items => exact (heach h items).congr (by simp)
      | _ => exact nofun
    | regex => exact Operator.decides_compare (by decide) fun _ => h
    | _ => exact Operator.decides_compare (by decide) nofun

mutual

theorem decides_evalTree : ∀ (j : Json), WellFormedPart .tree j → ∀ subject,
    (evalTree groups j subject).Decides (TreeMeans groups j subject)
  | .obj fields, h, subject => by
    rw [WellFormedPart] at h
    rw [evalTree, TreeMeans]
    exact decides_evalFields fields h subject
  | .null, h, _ | .bool _, h, _ | .num _, h, _ | .str _, h, _ | .arr _, h, _ => by
    simp [WellFormedPart] at h
termination_by structural j => j

theorem decides_evalFields : ∀ (fields : List (String × Json)),
    (∀ field ∈ fields, WellFormedPart (childPart field.1) field.2) → ∀ subject,
    (evalFields groups fields subject).Decides
      (∀ field ∈ fields, FieldMeans groups field.1 field.2 subject)
  | [], _, _ => by simp [evalFields, Verdict.Decides]
  | (key, child) :: rest, h, subject => by
    have hchild := h (key, child) List.mem_cons_self
    have hrest := decides_evalFields rest (fun field hf => h field (List.mem_cons_of_mem _ hf))
      subject
    rw [evalFields, List.forall_mem_cons]
    refine Verdict.Decides.and ?_ hrest
    rw [FieldMeans]
    cases hkey : Connective.ofKey? key with
    | none =>
      simp only [childPart, hkey] at hchild
      exact decides_evalValue child hchild _
    | some connective =>
      cases connective with
      | or =>
        simp only [childPart, hkey] at hchild
        exact decides_evalAny child hchild subject
      | nor =>
        simp only [childPart, hkey] at hchild
        exact (decides_evalAny child hchild subject).not
      | and =>
        simp only [childPart, hkey] at hchild
        exact decides_evalAll child hchild subject
      | not =>
        simp only [childPart, hkey] at hchild
        exact (decides_evalTree child hchild subject).not
termination_by structural j => j

theorem decides_evalAny : ∀ (j : Json), WellFormedPart .trees j → ∀ subject,
    (evalAny groups j subject).Decides (AnyMeans groups j subject)
  | .arr trees, h, subject => by
    rw [WellFormedPart] at h
    rw [AnyMeans]
    have hsome := decides_evalSome trees h subject
    cases trees with
    | nil => exact Or.inl rfl
    | cons tree rest => exact hsome.congr (by simp)
  | .null, h, _ | .bool _, h, _ | .num _, h, _ | .str _, h, _ | .obj _, h, _ => by
    simp [WellFormedPart] at h
termination_by structural j => j

theorem decides_evalSome : ∀ (trees : List Json), (∀ tree ∈ trees, WellFormedPart .tree tree) →
    ∀ subject, (evalSome groups trees subject).Decides
      (∃ tree ∈ trees, TreeMeans groups tree subject)
  | [], _, _ => by simp [evalSome, Verdict.Decides]
  | tree :: rest, h, subject => by
    have hfirst := decides_evalTree tree (h tree List.mem_cons_self) subject
    have hrest := decides_evalSome rest
      (fun other hother => h other (List.mem_cons_of_mem _ hother)) subject
    rw [evalSome]
    exact (hfirst.or hrest).congr (by simp)
termination_by structural j => j

theorem decides_evalAll : ∀ (j : Json), WellFormedPart .trees j → ∀ subject,
    (evalAll groups j subject).Decides (AllMean groups j subject)
  | .arr trees, h, subject => by
    rw [WellFormedPart] at h
    rw [evalAll, AllMean]
    exact decides_evalEvery trees h subject
  | .null, h, _ | .bool _, h, _ | .num _, h, _ | .str _, h, _ | .obj _, h, _ => by
    simp [WellFormedPart] at h
termination_by structural j => j

theorem decides_evalEvery : ∀ (trees : List Json), (∀ tree ∈ trees, WellFormedPart .tree tree) →
    ∀ subject, (evalEvery groups trees subject).Decides
      (∀ tree ∈ trees, TreeMeans groups tree subject)
  | [], _, _ => by simp [evalEvery, Verdict.Decides]
  | tree :: rest, h, subject => by
    have hfirst := decides_evalTree tree (h tree List.mem_cons_self) subject
    have hrest := decides_evalEvery rest
      (fun other hother => h other (List.mem_cons_of_mem _ hother)) subject
    rw [evalEvery, List.forall_mem_cons]
    exact hfirst.and hrest
termination_by structural j => j

theorem decides_evalValue : ∀ (j : Json), WellFormedPart .value j → ∀ actual,
    (evalValue groups j actual).Decides (ValueMeans groups j actual)
  | .null, _, actual => by
    rw [evalValue, ValueMeans]
    exact Verdict.decides_ofBool _
  | .bool b, _, actual => by
    rw [evalValue, ValueMeans]
    exact (Verdict.decides_ofBool _).congr (by simp)
  | .num n, _, actual => by
    rw [evalValue, ValueMeans]
    exact (Verdict.decides_ofBool _).congr (by simp [Option.any_eq_true])
  | .str s, _, actual => by
    rw [evalValue, ValueMeans]
    exact (Verdict.decides_ofBool _).congr (by simp)
  | .arr items, _, actual => by
    rw [evalValue, ValueMeans]
    exact Verdict.decides_ofBool _
  | .obj fields, h, actual => by
    rw [evalValue, ValueMeans]
    rw [WellFormedPart] at h
    split
    · next hops => exact decides_evalOperators fields (h hops) actual
    · exact Verdict.decides_ofBool _
termination_by structural j => j

theorem decides_evalOperators : ∀ (fields : List (String × Json)),
    (∀ field ∈ fields, WellFormedPart (operandPart field.1 field.2) field.2) → ∀ actual,
    (evalOperators groups fields actual).Decides
      (∀ field ∈ fields, OperatorMeans groups field.1 field.2 actual)
  | [], _, _ => by simp [evalOperators, Verdict.Decides]
  | (key, operand) :: rest, h, actual => by
    have hoperand := h (key, operand) List.mem_cons_self
    have hrest := decides_evalOperators rest
      (fun field hf => h field (List.mem_cons_of_mem _ hf)) actual
    rw [evalOperators_cons, List.forall_mem_cons]
    exact (decides_evalOperator hoperand (decides_evalTree operand) (decides_evalValue operand)
      (decides_evalEach operand) actual).and hrest
termination_by structural j => j

theorem decides_evalEach : ∀ (j : Json), WellFormedPart .values j → ∀ items,
    (evalEach groups j items).Decides (EachMeans groups j items)
  | .arr conditions, h, items => by
    rw [WellFormedPart] at h
    rw [evalEach, EachMeans]
    exact decides_evalEachOf conditions h items
  | .null, h, _ | .bool _, h, _ | .num _, h, _ | .str _, h, _ | .obj _, h, _ => by
    simp [WellFormedPart] at h
termination_by structural j => j

theorem decides_evalEachOf : ∀ (conditions : List Json),
    (∀ condition ∈ conditions, WellFormedPart .value condition) → ∀ items,
    (evalEachOf groups conditions items).Decides
      (∀ condition ∈ conditions, ∃ item ∈ items, ValueMeans groups condition item)
  | [], _, _ => by simp [evalEachOf, Verdict.Decides]
  | condition :: rest, h, items => by
    have hfirst := Verdict.decides_anyOf
      (decides_evalValue condition (h condition List.mem_cons_self)) items
    have hrest := decides_evalEachOf rest
      (fun other hother => h other (List.mem_cons_of_mem _ hother)) items
    rw [evalEachOf, List.forall_mem_cons]
    exact hfirst.and hrest
termination_by structural j => j

end

theorem WellFormed.decides {condition : Condition} (h : condition.WellFormed)
    (attributes : Entries Json) : (evalTree groups condition.tree (.obj attributes)).Decides
      (condition.Means attributes groups) :=
  decides_evalTree condition.tree h (.obj attributes)

/-- A well-formed condition holds if what it means is true. -/
theorem WellFormed.holds_iff {condition : Condition} (h : condition.WellFormed)
    (attributes : Entries Json) :
    condition.holds attributes groups = true ↔ condition.Means attributes groups := by
  rw [holds, beq_iff_eq]
  exact (h.decides attributes).eq_holds_iff

end Condition
end FeatureFlags
