/-
# Where a malformed part is met

A condition with a malformed part should hold for nobody. Evaluation goes from left to right and
stops at what decides, and only a malformed part that it comes to makes the whole condition
malformed. This module says which parts it comes to.

Evaluation asks one question after the other: whether a tree holds for an object, whether some tree
of a list does, whether a value condition holds for a value, and so on. `Question.Asks` says which
question asks which other one, and what has been answered by then: in a conjunction all that stands
before must hold, in a disjunction all that stands before must fail. A question is malformed by
itself if its part of the condition is not of the right form. **The answer is malformed if and only
if a malformed question is asked on the way** (`Question.verdict_eq_malformed_iff`).

So a malformed part may be passed over, and then the condition may hold
(`oneOrBroken_holds`). It cannot hold if the part is needed for it, in whatever order the
parts stand. `Question.Requires` says what is needed: for a tree to hold each of its fields must,
for a `$nor` to hold each of its trees must fail, and so on down. If a malformed question is asked
on the way from a required one, the condition holds for nobody (`malformed_iff_and_fails_closed`).

Key definitions: `Question`, `Question.Asks`, `Question.Meets`, `Question.Requires`.
Key theorems: `Question.verdict_eq_malformed_iff`, `malformed_iff_and_fails_closed`.
-/
import FeatureFlags.Proofs.ConditionMeaning
import Mathlib.Logic.Relation

namespace FeatureFlags

open Relation

/-! ### Verdicts on lists -/

namespace Verdict

variable {α : Type} {test : α → Verdict}

/-- Whether a test holds for every item of a list, from left to right. -/
def allOf (test : α → Verdict) : List α → Verdict
  | [] => holds
  | a :: rest => (test a).and (allOf test rest)

@[simp] theorem ofBool_ne_malformed (b : Bool) : ofBool b ≠ malformed := by
  cases b <;> decide

@[simp] theorem not_eq_malformed_iff {a : Verdict} : a.not = malformed ↔ a = malformed := by
  cases a <;> decide

@[simp] theorem not_eq_holds_iff {a : Verdict} : a.not = holds ↔ a = fails := by
  cases a <;> decide

/-- A conjunction is malformed at the first item that is, if all items before it hold. -/
theorem allOf_eq_malformed_iff : ∀ {items : List α}, allOf test items = malformed ↔
    ∃ before item after, items = before ++ item :: after ∧
      (∀ other ∈ before, test other = holds) ∧ test item = malformed
  | [] => by simp [allOf]
  | first :: rest => by
    rw [allOf]
    constructor
    · intro h
      cases hfirst : test first with
      | malformed => exact ⟨[], first, rest, rfl, nofun, hfirst⟩
      | fails =>
        rw [hfirst] at h
        cases h
      | holds =>
        rw [hfirst] at h
        obtain ⟨before, item, after, rfl, hbefore, hitem⟩ := allOf_eq_malformed_iff.mp h
        refine ⟨first :: before, item, after, rfl, ?_, hitem⟩
        exact List.forall_mem_cons.mpr ⟨hfirst, hbefore⟩
    · rintro ⟨before, item, after, hsplit, hbefore, hitem⟩
      cases before with
      | nil =>
        cases hsplit
        rw [hitem]
        rfl
      | cons head tail =>
        cases hsplit
        obtain ⟨hhead, htail⟩ := List.forall_mem_cons.mp hbefore
        rw [hhead]
        exact allOf_eq_malformed_iff.mpr ⟨tail, item, after, rfl, htail, hitem⟩

/-- If a conjunction holds then every item does. -/
theorem eq_holds_of_allOf : ∀ {items : List α}, allOf test items = holds →
    ∀ item ∈ items, test item = holds
  | [], _ => by simp
  | first :: rest, h => by
    rw [allOf] at h
    cases hfirst : test first with
    | holds =>
      rw [hfirst] at h
      exact List.forall_mem_cons.mpr ⟨hfirst, eq_holds_of_allOf h⟩
    | fails | malformed =>
      rw [hfirst] at h
      cases h

/-- A disjunction is the negation of the conjunction of what is negated. -/
theorem not_anyOf (test : α → Verdict) (items : List α) :
    (anyOf test items).not = allOf (fun item => (test item).not) items := by
  induction items with
  | nil => rfl
  | cons first rest ih =>
    rw [anyOf, allOf, ← ih]
    cases test first <;> rfl

/-- A disjunction is malformed at the first item that is, if all items before it fail. -/
theorem anyOf_eq_malformed_iff {items : List α} : anyOf test items = malformed ↔
    ∃ before item after, items = before ++ item :: after ∧
      (∀ other ∈ before, test other = fails) ∧ test item = malformed := by
  rw [← not_eq_malformed_iff, not_anyOf, allOf_eq_malformed_iff]
  simp only [not_eq_holds_iff, not_eq_malformed_iff]

/-- If a disjunction fails then every item does. -/
theorem eq_fails_of_anyOf {items : List α} (h : anyOf test items = fails) :
    ∀ item ∈ items, test item = fails := by
  have hall : allOf (fun item => (test item).not) items = holds := by rw [← not_anyOf, h]; rfl
  exact fun item hmem => not_eq_holds_iff.mp (eq_holds_of_allOf hall item hmem)

end Verdict

namespace Condition

variable {groups : Entries Json}

/-! ### Questions -/

/-- What evaluation asks: whether a part of a condition holds for what it is about. -/
inductive Question where
  /-- Whether a tree holds for an object. -/
  | tree (tree subject : Json)
  /-- Whether some tree of a list holds for an object, as `$or` and `$nor` ask. -/
  | any (trees subject : Json)
  /-- Whether every tree of a list holds for an object, as `$and` asks. -/
  | all (trees subject : Json)
  /-- Whether a value condition holds for a value. -/
  | value (condition actual : Json)
  /-- Whether every value condition of a list holds for some item, as `$all` asks. -/
  | each (conditions : Json) (items : List Json)
  /-- Whether a text contains a match of a pattern. -/
  | pattern (pattern : Json) (text : String)

namespace Question

/-- The answer to a question. -/
def verdict (groups : Entries Json) : Question → Verdict
  | .tree j subject => evalTree groups j subject
  | .any trees subject => evalAny groups trees subject
  | .all trees subject => evalAll groups trees subject
  | .value condition actual => evalValue groups condition actual
  | .each conditions items => evalEach groups conditions items
  | .pattern j text => matchesPattern text j

/-- The part of the condition that a question is about. -/
def part : Question → Json
  | .tree j _ | .any j _ | .all j _ | .value j _ | .each j _ | .pattern j _ => j

/-- **A question is malformed by itself** if its part of the condition is not of the right form:
a tree that is not an object, a list that is not one, a pattern that cannot be read. -/
def Malformed : Question → Prop
  | .tree j _ => ∀ fields, j ≠ .obj fields
  | .any j _ | .all j _ | .each j _ => ∀ items, j ≠ .arr items
  | .value _ _ => False
  | .pattern j _ => ∀ text, j = .str text → Pattern.ofText? text = none

end Question

/-- The question that a field of a tree asks. -/
def fieldQuestion (field : String × Json) (subject : Json) : Question :=
  match Connective.ofKey? field.1 with
  | some .or | some .nor => .any field.2 subject
  | some .and => .all field.2 subject
  | some .not => .tree field.2 subject
  | none => .value field.2 (subject.atPath field.1)

/-- The answer that a field of a tree needs to hold: `$nor` and `$not` negate. -/
def fieldNeeds (key : String) : Verdict :=
  match Connective.ofKey? key with
  | some .nor | some .not => .fails
  | some .or | some .and | none => .holds

/-- The evaluation of a field of a tree. -/
def evalField (groups : Entries Json) (subject : Json) (field : String × Json) : Verdict :=
  match Connective.ofKey? field.1 with
  | some .nor | some .not => ((fieldQuestion field subject).verdict groups).not
  | some .or | some .and | none => (fieldQuestion field subject).verdict groups

/-- The question that `$elemMatch` asks about an item. -/
def elementQuestion (operand item : Json) : Question :=
  if isOperators operand then .value operand item else .tree operand item

/-- The questions that an operator asks about a value. `$elemMatch` goes through the items that
count as true, up to the first for which its operand does not fail. -/
inductive OperatorAsks (groups : Entries Json) (key : String) (operand actual : Json) :
    Question → Prop
  | not : Operator.ofKey? key = some .not →
      OperatorAsks groups key operand actual (.value operand actual)
  | size {items : List Json} : Operator.ofKey? key = some .size → actual = .arr items →
      OperatorAsks groups key operand actual (.value operand (.int items.length))
  | elemMatch {items before after : List Json} {item : Json} :
      Operator.ofKey? key = some .elemMatch → actual = .arr items →
      items.filter Json.truthy = before ++ item :: after →
      (∀ other ∈ before, (elementQuestion operand other).verdict groups = .fails) →
      OperatorAsks groups key operand actual (elementQuestion operand item)
  | all {items : List Json} : Operator.ofKey? key = some .all → actual = .arr items →
      OperatorAsks groups key operand actual (.each operand items)
  | regex : Operator.ofKey? key = some .regex →
      OperatorAsks groups key operand actual (.pattern operand actual.looseText)

namespace Question

/-- **Which question asks which**, and what has been answered by then: the fields, the trees of an
`$and`, the operators and the conditions of an `$all` before it hold, the trees of an `$or` and the
items before it fail. -/
inductive Asks (groups : Entries Json) : Question → Question → Prop
  | field {fields before after : List (String × Json)} {field : String × Json} {subject : Json} :
      fields = before ++ field :: after →
      (∀ other ∈ before, evalField groups subject other = .holds) →
      Asks groups (.tree (.obj fields) subject) (fieldQuestion field subject)
  | some {trees before after : List Json} {tree subject : Json} :
      trees = before ++ tree :: after →
      (∀ other ∈ before, evalTree groups other subject = .fails) →
      Asks groups (.any (.arr trees) subject) (.tree tree subject)
  | every {trees before after : List Json} {tree subject : Json} :
      trees = before ++ tree :: after →
      (∀ other ∈ before, evalTree groups other subject = .holds) →
      Asks groups (.all (.arr trees) subject) (.tree tree subject)
  | operator {fields before after : List (String × Json)} {key : String} {operand actual : Json}
      {q : Question} : isOperatorObject fields = true →
      fields = before ++ (key, operand) :: after →
      (∀ other ∈ before, evalOperator groups other.1 other.2 actual = .holds) →
      OperatorAsks groups key operand actual q →
      Asks groups (.value (.obj fields) actual) q
  | item {conditions before after items first last : List Json} {condition item : Json} :
      conditions = before ++ condition :: after →
      (∀ other ∈ before, Verdict.anyOf (evalValue groups other) items = .holds) →
      items = first ++ item :: last →
      (∀ other ∈ first, evalValue groups condition other = .fails) →
      Asks groups (.each (.arr conditions) items) (.value condition item)

/-- On the way from a question a malformed one is asked. -/
def Meets (groups : Entries Json) (q : Question) : Prop :=
  ∃ asked, ReflTransGen (Asks groups) q asked ∧ asked.Malformed

theorem Malformed.meets {q : Question} (h : q.Malformed) : q.Meets groups :=
  ⟨q, .refl, h⟩

theorem Meets.of_asks {q asked : Question} (h : Asks groups q asked) (hmeets : asked.Meets groups) :
    q.Meets groups := by
  obtain ⟨last, hpath, hlast⟩ := hmeets
  exact ⟨last, .head h hpath, hlast⟩

end Question

/-! ### Evaluation as conjunctions and disjunctions -/

theorem evalFields_eq_allOf (fields : List (String × Json)) (subject : Json) :
    evalFields groups fields subject = Verdict.allOf (evalField groups subject) fields := by
  induction fields with
  | nil => rfl
  | cons field rest ih =>
    obtain ⟨key, child⟩ := field
    rw [evalFields, Verdict.allOf, ih]
    congr 1
    simp only [evalField, fieldQuestion]
    cases Connective.ofKey? key with
    | none => rfl
    | some connective => cases connective <;> rfl

theorem evalSome_eq_anyOf (trees : List Json) (subject : Json) :
    evalSome groups trees subject = Verdict.anyOf (evalTree groups · subject) trees := by
  induction trees with
  | nil => rfl
  | cons tree rest ih => rw [evalSome, Verdict.anyOf, ih]

theorem evalAny_of_ne_nil {trees : List Json} (h : trees ≠ []) (subject : Json) :
    evalAny groups (.arr trees) subject = Verdict.anyOf (evalTree groups · subject) trees := by
  rw [evalAny, evalSome_eq_anyOf]
  exact h

theorem evalEvery_eq_allOf (trees : List Json) (subject : Json) :
    evalEvery groups trees subject = Verdict.allOf (evalTree groups · subject) trees := by
  induction trees with
  | nil => rfl
  | cons tree rest ih => rw [evalEvery, Verdict.allOf, ih]

theorem evalOperators_eq_allOf (fields : List (String × Json)) (actual : Json) :
    evalOperators groups fields actual =
      Verdict.allOf (fun field => evalOperator groups field.1 field.2 actual) fields := by
  induction fields with
  | nil => rfl
  | cons field rest ih => rw [evalOperators_cons, Verdict.allOf, ih]

theorem evalEachOf_eq_allOf (conditions items : List Json) :
    evalEachOf groups conditions items =
      Verdict.allOf (fun condition => Verdict.anyOf (evalValue groups condition) items)
        conditions := by
  induction conditions with
  | nil => rfl
  | cons condition rest ih => rw [evalEachOf, Verdict.allOf, ih]

theorem evalField_eq_malformed_iff (field : String × Json) (subject : Json) :
    evalField groups subject field = .malformed ↔
      (fieldQuestion field subject).verdict groups = .malformed := by
  unfold evalField
  split <;> simp

theorem evalField_eq_holds_iff (field : String × Json) (subject : Json) :
    evalField groups subject field = .holds ↔
      (fieldQuestion field subject).verdict groups = fieldNeeds field.1 := by
  unfold evalField fieldNeeds
  split <;> simp

theorem evalOperator_elemMatch {key : String} (hkey : Operator.ofKey? key = some .elemMatch)
    (operand : Json) (items : List Json) :
    evalOperator groups key operand (.arr items) =
      Verdict.anyOf (fun item => (elementQuestion operand item).verdict groups)
        (items.filter Json.truthy) := by
  by_cases hops : isOperators operand = true <;>
    simp [evalOperator, hkey, elementQuestion, hops, Question.verdict]

/-! ### One step -/

theorem matchesPattern_eq_malformed_iff (text : String) (j : Json) :
    matchesPattern text j = .malformed ↔ (Question.pattern j text).Malformed := by
  cases j with
  | str pattern =>
    cases hread : Pattern.ofText? pattern <;> simp [matchesPattern, Question.Malformed, hread]
  | _ => simp [matchesPattern, Question.Malformed]

/-- An operator is malformed if a question is that it asks. -/
theorem evalOperator_eq_malformed_iff (key : String) (operand actual : Json) :
    evalOperator groups key operand actual = .malformed ↔
      ∃ q, OperatorAsks groups key operand actual q ∧ q.verdict groups = .malformed := by
  constructor
  · intro h
    cases hkey : Operator.ofKey? key with
    | none => simp [evalOperator, hkey] at h
    | some op =>
      cases op with
      | not =>
        simp only [evalOperator, hkey, Verdict.not_eq_malformed_iff] at h
        exact ⟨_, .not hkey, h⟩
      | size =>
        cases actual with
        | arr items =>
          simp only [evalOperator, hkey] at h
          exact ⟨_, .size hkey rfl, h⟩
        | _ => simp [evalOperator, hkey, Operator.compare] at h
      | all =>
        cases actual with
        | arr items =>
          simp only [evalOperator, hkey] at h
          exact ⟨_, .all hkey rfl, h⟩
        | _ => simp [evalOperator, hkey, Operator.compare] at h
      | elemMatch =>
        cases actual with
        | arr items =>
          rw [evalOperator_elemMatch hkey] at h
          obtain ⟨before, item, after, hsplit, hbefore, hitem⟩ :=
            Verdict.anyOf_eq_malformed_iff.mp h
          exact ⟨_, .elemMatch hkey rfl hsplit hbefore, hitem⟩
        | _ => simp [evalOperator, hkey, Operator.compare] at h
      | regex =>
        simp only [evalOperator, hkey] at h
        exact ⟨_, .regex hkey, h⟩
      | _ => simp [evalOperator, hkey, Operator.compare] at h
  · rintro ⟨q, hasks, hq⟩
    cases hasks with
    | not hkey =>
      simp only [evalOperator, hkey, Verdict.not_eq_malformed_iff]
      exact hq
    | size hkey hactual =>
      subst hactual
      simp only [evalOperator, hkey]
      exact hq
    | all hkey hactual =>
      subst hactual
      simp only [evalOperator, hkey]
      exact hq
    | elemMatch hkey hactual hsplit hbefore =>
      subst hactual
      rw [evalOperator_elemMatch hkey]
      exact Verdict.anyOf_eq_malformed_iff.mpr ⟨_, _, _, hsplit, hbefore, hq⟩
    | regex hkey =>
      simp only [evalOperator, hkey]
      exact hq

namespace Question

/-- The part that a question is about is smaller than that of the question that asks it. -/
theorem Asks.sizeOf_part_lt {q asked : Question} (h : Asks groups q asked) :
    sizeOf asked.part < sizeOf q.part := by
  cases h with
  | @field fields before after field subject hsplit hbefore =>
    have hpart : (fieldQuestion field subject).part = field.2 := by
      unfold fieldQuestion
      split <;> rfl
    have hmem : field ∈ fields := hsplit ▸ List.mem_append_right _ List.mem_cons_self
    rw [hpart]
    exact sizeOf_field_lt hmem
  | some hsplit hbefore | every hsplit hbefore =>
    exact sizeOf_item_lt (hsplit ▸ List.mem_append_right _ List.mem_cons_self)
  | @operator fields before after key operand actual q hops hsplit hbefore hasks =>
    have hpart : asked.part = operand := by
      cases hasks with
      | elemMatch =>
        unfold elementQuestion
        split <;> rfl
      | _ => rfl
    have hmem : (key, operand) ∈ fields := hsplit ▸ List.mem_append_right _ List.mem_cons_self
    rw [hpart]
    exact sizeOf_field_lt hmem
  | item hconditions hbefore hitems hfirst =>
    exact sizeOf_item_lt (hconditions ▸ List.mem_append_right _ List.mem_cons_self)

/-- A question that is malformed by itself has no other answer. -/
theorem Malformed.verdict_eq {q : Question} (h : q.Malformed) : q.verdict groups = .malformed := by
  cases q with
  | tree j subject =>
    cases j with
    | obj fields => exact absurd rfl (h fields)
    | _ => rfl
  | any j _ | all j _ | each j _ =>
    cases j with
    | arr items => exact absurd rfl (h items)
    | _ => rfl
  | value j actual => exact h.elim
  | pattern j text => exact (matchesPattern_eq_malformed_iff text j).mpr h

/-- A question is malformed if one is that it asks. -/
theorem Asks.verdict_eq {q asked : Question} (h : Asks groups q asked)
    (hasked : asked.verdict groups = .malformed) : q.verdict groups = .malformed := by
  cases h with
  | @field fields before after field subject hsplit hbefore =>
    rw [verdict, evalTree, evalFields_eq_allOf, Verdict.allOf_eq_malformed_iff]
    exact ⟨before, field, after, hsplit, hbefore,
      (evalField_eq_malformed_iff field subject).mpr hasked⟩
  | @some trees before after tree subject hsplit hbefore =>
    have hne : trees ≠ [] := by simp [hsplit]
    rw [verdict, evalAny_of_ne_nil hne, Verdict.anyOf_eq_malformed_iff]
    exact ⟨before, tree, after, hsplit, hbefore, hasked⟩
  | every hsplit hbefore =>
    rw [verdict, evalAll, evalEvery_eq_allOf, Verdict.allOf_eq_malformed_iff]
    exact ⟨_, _, _, hsplit, hbefore, hasked⟩
  | @operator fields before after key operand actual q hops hsplit hbefore hasks =>
    rw [verdict, evalValue, if_pos hops, evalOperators_eq_allOf, Verdict.allOf_eq_malformed_iff]
    exact ⟨before, (key, operand), after, hsplit, hbefore,
      (evalOperator_eq_malformed_iff key operand actual).mpr ⟨asked, hasks, hasked⟩⟩
  | item hconditions hbefore hitems hfirst =>
    rw [verdict, evalEach, evalEachOf_eq_allOf, Verdict.allOf_eq_malformed_iff]
    exact ⟨_, _, _, hconditions, hbefore,
      Verdict.anyOf_eq_malformed_iff.mpr ⟨_, _, _, hitems, hfirst, hasked⟩⟩

/-- A malformed answer has its reason in the question itself or in one that it asks. -/
theorem exists_asks_of_verdict_eq (q : Question) (h : q.verdict groups = .malformed) :
    q.Malformed ∨ ∃ asked, Asks groups q asked ∧ asked.verdict groups = .malformed := by
  cases q with
  | tree j subject =>
    cases j with
    | obj fields =>
      rw [verdict, evalTree, evalFields_eq_allOf, Verdict.allOf_eq_malformed_iff] at h
      obtain ⟨before, field, after, hsplit, hbefore, hfield⟩ := h
      exact .inr ⟨_, .field hsplit hbefore, (evalField_eq_malformed_iff field subject).mp hfield⟩
    | _ => exact .inl nofun
  | any j subject =>
    cases j with
    | arr trees =>
      cases trees with
      | nil => cases h
      | cons first rest =>
        rw [verdict, evalAny_of_ne_nil (List.cons_ne_nil first rest),
          Verdict.anyOf_eq_malformed_iff] at h
        obtain ⟨before, tree, after, hsplit, hbefore, htree⟩ := h
        exact .inr ⟨_, .some hsplit hbefore, htree⟩
    | _ => exact .inl nofun
  | all j subject =>
    cases j with
    | arr trees =>
      rw [verdict, evalAll, evalEvery_eq_allOf, Verdict.allOf_eq_malformed_iff] at h
      obtain ⟨before, tree, after, hsplit, hbefore, htree⟩ := h
      exact .inr ⟨_, .every hsplit hbefore, htree⟩
    | _ => exact .inl nofun
  | value j actual =>
    cases j with
    | obj fields =>
      by_cases hops : isOperatorObject fields = true
      · rw [verdict, evalValue, if_pos hops, evalOperators_eq_allOf,
          Verdict.allOf_eq_malformed_iff] at h
        obtain ⟨before, ⟨key, operand⟩, after, hsplit, hbefore, hoperator⟩ := h
        obtain ⟨asked, hasks, hasked⟩ := (evalOperator_eq_malformed_iff key operand actual).mp
          hoperator
        exact .inr ⟨asked, .operator hops hsplit hbefore hasks, hasked⟩
      · simp [verdict, evalValue, hops] at h
    | _ => simp [verdict, evalValue] at h
  | each j items =>
    cases j with
    | arr conditions =>
      rw [verdict, evalEach, evalEachOf_eq_allOf, Verdict.allOf_eq_malformed_iff] at h
      obtain ⟨before, condition, after, hconditions, hbefore, hcondition⟩ := h
      obtain ⟨first, item, last, hitems, hfirst, hitem⟩ :=
        Verdict.anyOf_eq_malformed_iff.mp hcondition
      exact .inr ⟨_, .item hconditions hbefore hitems hfirst, hitem⟩
    | _ => exact .inl nofun
  | pattern j text => exact .inl ((matchesPattern_eq_malformed_iff text j).mp h)

/-! ### The whole way -/

/-- **The answer is malformed if and only if a malformed question is asked on the way.** -/
theorem verdict_eq_malformed_iff (q : Question) :
    q.verdict groups = .malformed ↔ q.Meets groups := by
  constructor
  · intro h
    cases exists_asks_of_verdict_eq q h with
    | inl hself => exact hself.meets
    | inr hother =>
      obtain ⟨asked, hasks, hasked⟩ := hother
      have := hasks.sizeOf_part_lt
      exact .of_asks hasks ((verdict_eq_malformed_iff asked).mp hasked)
  · rintro ⟨last, hpath, hlast⟩
    induction hpath using ReflTransGen.head_induction_on with
    | refl => exact hlast.verdict_eq
    | head hasks _ ih => exact hasks.verdict_eq ih
termination_by sizeOf q.part

/-! ### What is required -/

/-- **What is required**, in whatever order it stands: for a question to come to an answer, another
one must come to its answer. For a tree to hold every field must, which is that what it negates
fails; for no tree of a list to hold each must fail; for an object of operators to hold each of
them must, where `$elemMatch` requires nothing of a certain item. -/
inductive Requires (groups : Entries Json) : Question × Verdict → Question × Verdict → Prop
  | field {fields : List (String × Json)} {field : String × Json} {subject : Json} :
      field ∈ fields →
      Requires groups (.tree (.obj fields) subject, .holds)
        (fieldQuestion field subject, fieldNeeds field.1)
  | every {trees : List Json} {tree subject : Json} : tree ∈ trees →
      Requires groups (.all (.arr trees) subject, .holds) (.tree tree subject, .holds)
  | none {trees : List Json} {tree subject : Json} : tree ∈ trees →
      Requires groups (.any (.arr trees) subject, .fails) (.tree tree subject, .fails)
  | operator {fields : List (String × Json)} {key : String} {operand actual : Json} {q : Question} :
      isOperatorObject fields = true → (key, operand) ∈ fields →
      Operator.ofKey? key ≠ some .elemMatch → OperatorAsks groups key operand actual q →
      Requires groups (.value (.obj fields) actual, .holds)
        (q, if Operator.ofKey? key = some .not then .fails else .holds)

/-- What a question that comes to its answer requires does come to its answer, and that is not
that it is malformed. -/
theorem Requires.sound {goal required : Question × Verdict} (h : Requires groups goal required)
    (hgoal : goal.1.verdict groups = goal.2) :
    required.1.verdict groups = required.2 ∧ required.2 ≠ .malformed := by
  cases h with
  | @field fields field subject hmem =>
    rw [verdict, evalTree, evalFields_eq_allOf] at hgoal
    have hholds := Verdict.eq_holds_of_allOf hgoal field hmem
    refine ⟨(evalField_eq_holds_iff field subject).mp hholds, ?_⟩
    unfold fieldNeeds
    split <;> simp
  | every hmem =>
    rw [verdict, evalAll, evalEvery_eq_allOf] at hgoal
    exact ⟨Verdict.eq_holds_of_allOf hgoal _ hmem, by simp⟩
  | @none trees tree subject hmem =>
    rw [verdict, evalAny_of_ne_nil (List.ne_nil_of_mem hmem)] at hgoal
    exact ⟨Verdict.eq_fails_of_anyOf hgoal _ hmem, by simp⟩
  | @operator fields key operand actual q hops hmem helem hasks =>
    rw [verdict, evalValue, if_pos hops, evalOperators_eq_allOf] at hgoal
    have hholds := Verdict.eq_holds_of_allOf hgoal (key, operand) hmem
    cases hasks with
    | not hkey =>
      simp only [evalOperator, hkey, Verdict.not_eq_holds_iff] at hholds
      simpa [hkey, verdict] using hholds
    | elemMatch hkey => exact absurd hkey helem
    | size hkey hactual | all hkey hactual =>
      subst hactual
      simp only [evalOperator, hkey] at hholds
      simpa [hkey, verdict] using hholds
    | regex hkey =>
      simp only [evalOperator, hkey] at hholds
      simp only [hkey, verdict]
      exact ⟨hholds, by simp⟩

/-- The same for all that is required in turn. -/
theorem verdict_eq_of_requires {goal required : Question × Verdict}
    (h : ReflTransGen (Requires groups) goal required) (hgoal : goal.1.verdict groups = goal.2)
    (hproper : goal.2 ≠ .malformed) :
    required.1.verdict groups = required.2 ∧ required.2 ≠ .malformed := by
  induction h with
  | refl => exact ⟨hgoal, hproper⟩
  | tail _ hlast ih => exact hlast.sound ih.1

end Question

/-! ### Conditions with a malformed part -/

/-- The question that a condition asks about a user. -/
def question (condition : Condition) (attributes : Entries Json) : Question :=
  .tree condition.tree (.obj attributes)

/-- **A condition is malformed for a user if and only if a malformed question is asked on the way,
and it holds for nobody for whom one is asked on the way from a required one**, wherever that
stands. -/
theorem malformed_iff_and_fails_closed (condition : Condition) (attributes groups : Entries Json) :
    (evalTree groups condition.tree (.obj attributes) = .malformed ↔
      (condition.question attributes).Meets groups) ∧
    ∀ q answer, ReflTransGen (Question.Requires groups)
        (condition.question attributes, .holds) (q, answer) →
      q.Meets groups → condition.holds attributes groups = false := by
  refine ⟨(condition.question attributes).verdict_eq_malformed_iff, fun q answer hpath hmeets => ?_⟩
  cases hverdict : condition.holds attributes groups with
  | false => rfl
  | true =>
    have hholds : (condition.question attributes).verdict groups = .holds := beq_iff_eq.mp hverdict
    obtain ⟨hanswer, hproper⟩ := Question.verdict_eq_of_requires hpath hholds nofun
    exact absurd (hanswer.symm.trans (q.verdict_eq_malformed_iff.mpr hmeets)) hproper

/-- A tree with a pattern that cannot be read. -/
def brokenTree : Json := .obj [("email", .obj [("$regex", .str "([")])]

/-- Two trees, of which the first says that `a` is one. -/
def oneAndBroken : List Json := [.obj [("a", .int 1)], brokenTree]

/-- Neither of the two trees holds. -/
def neitherOneNorBroken : Condition := ⟨.obj [("$nor", .arr oneAndBroken)]⟩

/-- Some of the two trees holds. -/
def oneOrBroken : Condition := ⟨.obj [("$or", .arr oneAndBroken)]⟩

theorem ofText?_broken : Pattern.ofText? "([" = none := by cbv

theorem broken_meets (subject : Json) : (Question.tree brokenTree subject).Meets groups := by
  have hpattern : (Question.pattern (.str "([") (subject.atPath "email").looseText).Meets groups :=
    Question.Malformed.meets fun text h => Json.str.inj h ▸ ofText?_broken
  have hvalue : (Question.value (.obj [("$regex", .str "([")]) (subject.atPath "email")).Meets
      groups :=
    .of_asks (.operator (by decide) (List.nil_append _).symm (List.forall_mem_nil _) (.regex rfl))
      hpattern
  rw [brokenTree]
  exact .of_asks (.field (List.nil_append _).symm (List.forall_mem_nil _)) hvalue

/-- Neither of two trees, the first of them true: the second one is not come to, and yet the
condition holds for nobody, since it is required to fail. If the first is false, the second is come
to and the condition is malformed. -/
theorem neitherOneNorBroken_fails :
    evalTree [] neitherOneNorBroken.tree (.obj [("a", .int 2)]) = .malformed ∧
    neitherOneNorBroken.holds [("a", .int 1)] [] = false := by
  constructor
  · refine (malformed_iff_and_fails_closed neitherOneNorBroken [("a", .int 2)] []).1.mpr ?_
    refine .of_asks (.field (List.nil_append _).symm nofun) ?_
    refine .of_asks (.some List.singleton_append.symm ?_) (broken_meets _)
    exact List.forall_mem_singleton.mpr (by decide)
  · have hnor : Question.Requires [] (neitherOneNorBroken.question [("a", .int 1)], .holds)
        (.any (.arr oneAndBroken) (.obj [("a", .int 1)]), .fails) :=
      .field List.mem_cons_self
    have hbroken : Question.Requires [] (.any (.arr oneAndBroken) (.obj [("a", .int 1)]), .fails)
        (.tree brokenTree (.obj [("a", .int 1)]), .fails) :=
      .none (List.mem_cons_of_mem _ List.mem_cons_self)
    exact (malformed_iff_and_fails_closed neitherOneNorBroken [("a", .int 1)] []).2 _ _
      (.tail (.single hnor) hbroken) (broken_meets _)

/-- **A condition that is not well-formed may hold**: some of two trees, the first of them true. -/
theorem oneOrBroken_holds :
    ¬ oneOrBroken.WellFormed ∧ oneOrBroken.holds [("a", .int 1)] [] = true := by
  refine ⟨fun h => ?_, by decide⟩
  simp [WellFormed, oneOrBroken, oneAndBroken, brokenTree, WellFormedPart, childPart,
    Connective.ofKey?, operandPart, Operator.ofKey?, isOperatorObject, ofText?_broken] at h

end Condition
end FeatureFlags
