/-
# The order of the parts of a condition

The meaning of a condition knows of no order, and evaluation comes to the meaning. So a
well-formed condition holds for the same users when lists, fields or operators are put into
another order, at whatever depth (`holds_iff_means`). The order of fields and lists is the order
of evaluation, so it makes no difference either where evaluation stops.

`Condition.Reorder` is one such change. It leaves a part well-formed, and with the same
meaning; a chain of changes does so too.

Key definitions: `Condition.Reorder`, `Condition.SameMeaning`.
Key theorems: `Condition.Reorder.sameMeaning`, `Condition.holds_iff_means`.
-/
import FeatureFlags.Proofs.ConditionMeaning
import Mathlib.Logic.Relation

namespace FeatureFlags
namespace Condition

/-! ### One change -/

/-- A part with one of its lists, at any depth, in another order. Fields and operators are such
lists too: the order that they stand in is the one that they are evaluated in. -/
inductive Reorder : Part → Json → Json → Prop where
  | fields {fields fields' : List (String × Json)} (h : fields.Perm fields') :
    Reorder .tree (.obj fields) (.obj fields')
  | field (before after : List (String × Json)) {key : String} {child child' : Json}
    (h : Reorder (childPart key) child child') :
    Reorder .tree (.obj (before ++ (key, child) :: after)) (.obj (before ++ (key, child') :: after))
  | trees {trees trees' : List Json} (h : trees.Perm trees') :
    Reorder .trees (.arr trees) (.arr trees')
  | branch (before after : List Json) {tree tree' : Json} (h : Reorder .tree tree tree') :
    Reorder .trees (.arr (before ++ tree :: after)) (.arr (before ++ tree' :: after))
  | operators {fields fields' : List (String × Json)} (hops : isOperatorObject fields = true)
    (h : fields.Perm fields') : Reorder .value (.obj fields) (.obj fields')
  | operator (before after : List (String × Json)) {key : String} {operand operand' : Json}
    (hops : isOperatorObject (before ++ (key, operand) :: after) = true)
    (h : Reorder (operandPart key operand) operand operand') :
    Reorder .value (.obj (before ++ (key, operand) :: after))
      (.obj (before ++ (key, operand') :: after))
  | values {conditions conditions' : List Json} (h : conditions.Perm conditions') :
    Reorder .values (.arr conditions) (.arr conditions')
  | item (before after : List Json) {condition condition' : Json}
    (h : Reorder .value condition condition') :
    Reorder .values (.arr (before ++ condition :: after)) (.arr (before ++ condition' :: after))

variable {groups : Entries Json} {part : Part} {j j' : Json}

theorem isOperatorObject_perm {fields fields' : List (String × Json)} (h : fields.Perm fields') :
    isOperatorObject fields' = isOperatorObject fields :=
  h.all_eq.symm

theorem isOperatorObject_replace (before after : List (String × Json)) (key : String)
    (operand operand' : Json) : isOperatorObject (before ++ (key, operand') :: after) =
      isOperatorObject (before ++ (key, operand) :: after) := by
  simp [isOperatorObject]

theorem Reorder.isOperators_eq (h : Reorder part j j') : isOperators j' = isOperators j := by
  cases h with
  | fields h => exact isOperatorObject_perm h
  | operators _ h => exact isOperatorObject_perm h
  | field | operator => exact isOperatorObject_replace _ _ _ _ _
  | trees | branch | values | item => rfl

/-- What stands under an operator is read as the same part. -/
theorem Reorder.operandPart_eq (h : Reorder part j j') (key : String) :
    operandPart key j' = operandPart key j := by
  simp only [operandPart, h.isOperators_eq]

theorem Reorder.wellFormed (h : Reorder part j j') (hj : WellFormedPart part j) :
    WellFormedPart part j' := by
  induction h with
  | fields h =>
    rw [WellFormedPart] at hj ⊢
    exact fun field hfield => hj field (h.mem_iff.mpr hfield)
  | field before after _ ih =>
    simp only [WellFormedPart, List.forall_mem_append, List.forall_mem_cons] at hj ⊢
    exact ⟨hj.1, ih hj.2.1, hj.2.2⟩
  | trees h =>
    rw [WellFormedPart] at hj ⊢
    exact fun tree htree => hj tree (h.mem_iff.mpr htree)
  | branch before after _ ih =>
    simp only [WellFormedPart, List.forall_mem_append, List.forall_mem_cons] at hj ⊢
    exact ⟨hj.1, ih hj.2.1, hj.2.2⟩
  | operators hops h =>
    rw [WellFormedPart] at hj ⊢
    exact fun _ field hfield => hj hops field (h.mem_iff.mpr hfield)
  | operator before after hops h ih =>
    simp only [WellFormedPart, List.forall_mem_append, List.forall_mem_cons] at hj ⊢
    obtain ⟨hbefore, hoperand, hafter⟩ := hj hops
    rw [h.operandPart_eq]
    exact fun _ => ⟨hbefore, ih hoperand, hafter⟩
  | values h =>
    rw [WellFormedPart] at hj ⊢
    exact fun condition hcondition => hj condition (h.mem_iff.mpr hcondition)
  | item before after _ ih =>
    simp only [WellFormedPart, List.forall_mem_append, List.forall_mem_cons] at hj ⊢
    exact ⟨hj.1, ih hj.2.1, hj.2.2⟩

/-- Two values mean the same when they stand for the given part. -/
def SameMeaning (groups : Entries Json) : Part → Json → Json → Prop
  | .tree, j, j' => ∀ subject, TreeMeans groups j' subject ↔ TreeMeans groups j subject
  | .trees, j, j' => ∀ subject, (AnyMeans groups j' subject ↔ AnyMeans groups j subject) ∧
      (AllMean groups j' subject ↔ AllMean groups j subject)
  | .value, j, j' => ∀ actual, ValueMeans groups j' actual ↔ ValueMeans groups j actual
  | .values, j, j' => ∀ items, EachMeans groups j' items ↔ EachMeans groups j items
  | .pattern, j, j' => j' = j
  | .plain, j, j' => j' = j

theorem SameMeaning.field {key : String} (h : SameMeaning groups (childPart key) j j')
    (subject : Json) : FieldMeans groups key j' subject ↔ FieldMeans groups key j subject := by
  simp only [FieldMeans]
  cases hkey : Connective.ofKey? key with
  | none =>
    simp only [childPart, hkey] at h
    exact h _
  | some connective =>
    simp only [childPart, hkey] at h
    cases connective with
    | or => exact (h subject).1
    | nor => exact not_congr (h subject).1
    | and => exact (h subject).2
    | not => exact not_congr (h subject)

theorem SameMeaning.operator {key : String} (h : SameMeaning groups (operandPart key j) j j')
    (hops : isOperators j' = isOperators j) (actual : Json) :
    OperatorMeans groups key j' actual ↔ OperatorMeans groups key j actual := by
  simp only [OperatorMeans, hops]
  cases hkey : Operator.ofKey? key with
  | none => exact Iff.rfl
  | some op =>
    simp only [operandPart, hkey] at h
    cases op with
    | not => exact not_congr (h actual)
    | size => exact exists_congr fun items => and_congr_right fun _ => h _
    | elemMatch =>
      by_cases hj : isOperators j = true
      · simp only [hj, if_true] at h ⊢
        simp only [h _]
      · simp only [hj, Bool.false_eq_true, if_false] at h ⊢
        simp only [h _]
    | all => exact exists_congr fun items => and_congr_right fun _ => h items
    | _ => rw [show j' = j from h]

/-- **The order of parts makes no difference to what they mean.** -/
theorem Reorder.sameMeaning (h : Reorder part j j') : SameMeaning groups part j j' := by
  induction h with
  | fields h =>
    intro subject
    simp only [TreeMeans, h.mem_iff]
  | field before after _ ih =>
    intro subject
    simp only [TreeMeans, List.forall_mem_append, List.forall_mem_cons, ih.field]
  | trees h =>
    intro subject
    have hnil : ∀ {l l' : List Json}, l.Perm l' → l = [] → l' = [] :=
      fun hperm heq => (heq ▸ hperm.symm).eq_nil
    simp only [AnyMeans, AllMean, h.mem_iff, and_true]
    exact or_congr_left ⟨hnil h.symm, hnil h⟩
  | branch before after _ ih =>
    intro subject
    constructor
    · simp [AnyMeans, or_and_right, exists_or, ih subject]
    · simp only [AllMean, List.forall_mem_append, List.forall_mem_cons, ih subject]
  | operators hops h =>
    intro actual
    have hops' := (isOperatorObject_perm h).trans hops
    simp only [ValueMeans, hops, hops', if_true, h.mem_iff]
  | @operator before after key operand operand' hops h ih =>
    intro actual
    have hops' := (isOperatorObject_replace before after key operand operand').trans hops
    simp only [ValueMeans, hops, hops', if_true]
    simp only [List.forall_mem_append, List.forall_mem_cons, ih.operator h.isOperators_eq]
  | values h =>
    intro items
    simp only [EachMeans, h.mem_iff]
  | item before after _ ih =>
    intro items
    simp only [EachMeans, List.forall_mem_append, List.forall_mem_cons, ih _]

/-- **Evaluation of a well-formed condition is classical logic.** It never meets a malformed part,
it holds for exactly the users that the condition is true of, and it comes to the same for every
condition that differs only in the order of its lists, its fields and its operators. -/
theorem holds_iff_means (condition : Condition) (h : condition.WellFormed)
    (attributes groups : Entries Json) :
    evalTree groups condition.tree (.obj attributes) ≠ .malformed ∧
    (condition.holds attributes groups = true ↔ condition.Means attributes groups) ∧
    ∀ tree, Relation.ReflTransGen (Reorder .tree) condition.tree tree →
      (Condition.mk tree).holds attributes groups = condition.holds attributes groups := by
  refine ⟨(h.decides attributes).ne_malformed, h.holds_iff attributes, fun tree hreorder => ?_⟩
  -- the invariant of a chain of reorderings: well-formed, and the same meaning
  have hsame : (Condition.mk tree).WellFormed ∧
      ((Condition.mk tree).Means attributes groups ↔ condition.Means attributes groups) := by
    induction hreorder with
    | refl => exact ⟨h, Iff.rfl⟩
    | tail _ hstep ih =>
      exact ⟨hstep.wellFormed ih.1, (hstep.sameMeaning (.obj attributes)).trans ih.2⟩
  rw [Bool.eq_iff_iff, hsame.1.holds_iff, h.holds_iff]
  exact hsame.2

/-- Users whose name begins with a `g`. -/
def guest : Json := .obj [("name", .obj [("$regex", .str "^g")])]

/-- Users without one of the given tags. -/
def untagged (tags : List String) : Json :=
  .obj [("$not", .obj [("tags", .obj [("$all", .arr (tags.map .str))])])]

/-- Guests, and users without one of two tags. -/
def guestOrUntagged : Condition := ⟨.obj [("$or", .arr [guest, untagged ["x", "y"]])]⟩

theorem wellFormed_guestOrUntagged : guestOrUntagged.WellFormed := by
  have hpattern : ∃ p, Pattern.ofText? "^g" = some p := Option.isSome_iff_exists.mp (by cbv)
  simpa [guestOrUntagged, guest, untagged, WellFormed, WellFormedPart, childPart,
    Connective.ofKey?, operandPart, Operator.ofKey?] using fun _ => hpattern

/-- A user who is no guest, with one tag. -/
def host : Entries Json := [("name", .str "host"), ("tags", .arr [.str "y"])]

/-- The user meets the condition, and the same condition in another order. -/
theorem guestOrUntagged_reordered :
    evalTree [] guestOrUntagged.tree (.obj host) ≠ .malformed ∧ guestOrUntagged.Means host [] ∧
      (Condition.mk (.obj [("$or", .arr [untagged ["y", "x"], guest])])).holds host [] = true := by
  obtain ⟨hread, hmeans, horder⟩ :=
    holds_iff_means guestOrUntagged wellFormed_guestOrUntagged host []
  have hholds : guestOrUntagged.holds host [] = true := by decide +kernel
  refine ⟨hread, hmeans.mp hholds, (horder _ ?_).trans hholds⟩
  -- first the tags change places, then the two branches
  have htags : Reorder .tree (untagged ["x", "y"]) (untagged ["y", "x"]) :=
    .field [] [] <| .field [] [] <|
      .operator [] [] (by decide) <| .values (.swap _ _ [])
  have hinside : Reorder .tree guestOrUntagged.tree
      (.obj [("$or", .arr [guest, untagged ["y", "x"]])]) :=
    .field [] [] (.branch [guest] [] htags)
  have hswap : Reorder .tree (.obj [("$or", .arr [guest, untagged ["y", "x"]])])
      (.obj [("$or", .arr [untagged ["y", "x"], guest])]) :=
    .field [] [] (.trees (.swap _ _ []))
  exact .tail (.single hinside) hswap

end Condition
end FeatureFlags
