/-
# The spelling of numbers in targeting

The integer `1` and the float `1.0` are different JSON values. Targeting must not tell them apart:
a client that sends an age as a float is in the same groups as one that sends it as an integer.

`Json.Respelled` relates two values that differ only in how integers up to `2 ^ 53` are spelled, at
any depth. Every reading that targeting takes of a value is the same for both: the text, the number
up to its rank, the truth value, the version, equality, order, what is found under a path. The
evaluator goes through a condition with these readings alone, so **a condition holds for the one if
and only if it holds for the other** (`Condition.holds_eq_of_respelled`).

The argument is one induction over two runs. `evalTree_eq` and its companions have one lemma for
each function of the evaluator.

Key definitions: `Number.Respelled`, `Json.Respelled`.
Key theorems: `Condition.evalTree_eq`, `Condition.holds_eq_of_respelled`.
-/
import FeatureFlags.Proofs.ConditionMeaning
import FeatureFlags.Proofs.FloatIntegers

namespace FeatureFlags

/-! ### Comparisons of floats -/

section Ranks

variable {x x' y y' : Float}

theorem float_beq_congr (hx : floatRank? x = floatRank? x') (hy : floatRank? y = floatRank? y') :
    (x == y) = (x' == y') := by
  rw [Bool.eq_iff_iff, float_beq_iff, float_beq_iff, hx, hy]

theorem float_lt_congr (hx : floatRank? x = floatRank? x') (hy : floatRank? y = floatRank? y') :
    x < y ↔ x' < y' := by
  rw [float_lt_iff, float_lt_iff, hx, hy]

theorem floatOrder?_congr (hx : floatRank? x = floatRank? x') (hy : floatRank? y = floatRank? y') :
    Json.floatOrder? x y = Json.floatOrder? x' y' := by
  unfold Json.floatOrder?
  by_cases hlt : x < y
  · rw [if_pos hlt, if_pos ((float_lt_congr hx hy).mp hlt)]
  · rw [if_neg hlt, if_neg (mt (float_lt_congr hx hy).mpr hlt), float_beq_congr hx hy]
    by_cases hgt : y < x
    · rw [if_pos hgt, if_pos ((float_lt_congr hy hx).mp hgt)]
    · rw [if_neg hgt, if_neg (mt (float_lt_congr hy hx).mpr hgt)]

/-- Of two readings with one rank both are missing or none. -/
theorem rank_cases {x x' : Option Float} (h : x.map floatRank? = x'.map floatRank?) :
    x = none ∧ x' = none ∨
      ∃ a b, x = some a ∧ x' = some b ∧ floatRank? a = floatRank? b := by
  cases x with
  | none => exact .inl ⟨rfl, Option.map_eq_none_iff.mp h.symm⟩
  | some a =>
    rw [Option.map_some] at h
    obtain ⟨b, hb, hrank⟩ := Option.map_eq_some_iff.mp h.symm
    exact .inr ⟨a, b, rfl, hb, hrank.symm⟩

theorem bind_floatOrder?_congr {x x' y y' : Option Float}
    (hx : x.map floatRank? = x'.map floatRank?) (hy : y.map floatRank? = y'.map floatRank?) :
    (do Json.floatOrder? (← x) (← y)) = (do Json.floatOrder? (← x') (← y')) := by
  rcases rank_cases hx with ⟨rfl, rfl⟩ | ⟨a, b, rfl, rfl, hab⟩
  · simp only [Option.bind_eq_bind, Option.bind_none]
  · rcases rank_cases hy with ⟨rfl, rfl⟩ | ⟨c, d, rfl, rfl, hcd⟩
    · simp only [Option.bind_eq_bind, Option.bind_some, Option.bind_none]
    · simp only [Option.bind_eq_bind, Option.bind_some, floatOrder?_congr hab hcd]

theorem any_beq_congr {x x' : Option Float} (hx : x.map floatRank? = x'.map floatRank?)
    (hy : floatRank? y = floatRank? y') : x.any (· == y) = x'.any (· == y') := by
  rcases rank_cases hx with ⟨rfl, rfl⟩ | ⟨a, b, rfl, rfl, hab⟩
  · rw [Option.any_none, Option.any_none]
  · rw [Option.any_some, Option.any_some, float_beq_congr hab hy]

end Ranks

/-! ### Two spellings -/

namespace Number

/-- The exact value of a number, if it is an integer. -/
def integer? : Number → Option ℤ
  | .int n => some n
  | .float x => floatInteger? x.value

/-- One number, spelled as an integer or as a float if it is an integer up to `2 ^ 53`. -/
def Respelled (a b : Number) : Prop :=
  a = b ∨ ∃ n : ℤ, n.natAbs ≤ 2 ^ 53 ∧ a.integer? = some n ∧ b.integer? = some n

variable {a b : Number}

theorem plainText_of_integer? {n : ℤ} (h : a.integer? = some n) (hn : n.natAbs ≤ 2 ^ 53) :
    a.plainText = toString n := by
  cases a with
  | int m =>
    cases h
    rfl
  | float x => exact FiniteFloat.plainText_of_floatInteger? h hn

theorem floatInteger?_toFloat {n : ℤ} (h : a.integer? = some n) (hn : n.natAbs ≤ 2 ^ 53) :
    floatInteger? a.toFloat = some n := by
  cases a with
  | int m =>
    cases h
    exact floatInteger?_nearestFloat hn
  | float x => exact h

theorem Respelled.plainText_eq (h : a.Respelled b) : a.plainText = b.plainText := by
  rcases h with rfl | ⟨n, hn, ha, hb⟩
  · rfl
  · rw [plainText_of_integer? ha hn, plainText_of_integer? hb hn]

theorem Respelled.floatRank?_eq (h : a.Respelled b) :
    floatRank? a.toFloat = floatRank? b.toFloat := by
  rcases h with rfl | ⟨n, hn, ha, hb⟩
  · rfl
  · exact floatRank?_eq_of_floatInteger? (floatInteger?_toFloat ha hn) (floatInteger?_toFloat hb hn)

end Number

namespace Json

mutual

/-- **One value with numbers spelled in two ways**, at any depth. -/
inductive Respelled : Json → Json → Prop
  | null : Respelled .null .null
  | bool (b : Bool) : Respelled (.bool b) (.bool b)
  | num {a b : Number} : a.Respelled b → Respelled (.num a) (.num b)
  | str (s : String) : Respelled (.str s) (.str s)
  | arr {as bs : List Json} : RespelledItems as bs → Respelled (.arr as) (.arr bs)
  | obj {as bs : List (String × Json)} : RespelledFields as bs → Respelled (.obj as) (.obj bs)

/-- The same for the items of an array. -/
inductive RespelledItems : List Json → List Json → Prop
  | nil : RespelledItems [] []
  | cons {a b : Json} {as bs : List Json} : Respelled a b → RespelledItems as bs →
      RespelledItems (a :: as) (b :: bs)

/-- The same for the fields of an object, which have the same names. -/
inductive RespelledFields : List (String × Json) → List (String × Json) → Prop
  | nil : RespelledFields [] []
  | cons (key : String) {a b : Json} {as bs : List (String × Json)} : Respelled a b →
      RespelledFields as bs → RespelledFields ((key, a) :: as) ((key, b) :: bs)

end

/-! ### Readings of values -/

section Readings

variable {a b c d : Json} {as bs cs ds : List Json} {fs gs hs is : List (String × Json)}

theorem Respelled.isNull_eq (h : a.Respelled b) : a.isNull = b.isNull := by
  cases h <;> rfl

theorem Respelled.kindName_eq (h : a.Respelled b) : a.kindName = b.kindName := by
  cases h <;> rfl

theorem Respelled.string?_eq (h : a.Respelled b) : a.string? = b.string? := by
  cases h <;> rfl

theorem Respelled.truthy_eq (h : a.Respelled b) : a.truthy = b.truthy := by
  cases h with
  | num hn =>
    simp only [truthy, bne, float_beq_congr hn.floatRank?_eq rfl]
  | _ => rfl

mutual

theorem Respelled.looseText_eq : ∀ {a b : Json}, a.Respelled b → a.looseText = b.looseText
  | .null, _, h => by cases h; rfl
  | .bool _, _, h => by cases h; rfl
  | .str _, _, h => by cases h; rfl
  | .obj _, _, h => by cases h; rfl
  | .num _, _, h => by
    cases h with
    | num hn => exact hn.plainText_eq
  | .arr _, _, h => by
    cases h with
    | arr hitems => rw [looseText, looseText, RespelledItems.looseItems_eq hitems]
termination_by structural a => a

theorem RespelledItems.looseItems_eq : ∀ {as bs : List Json}, RespelledItems as bs →
    looseItems as = looseItems bs
  | [], _, h => by cases h; rfl
  | a :: as, _, h => by
    cases h with
    | cons hitem hrest =>
      have hfirst := Respelled.looseText_eq hitem
      have hothers := RespelledItems.looseItems_eq hrest
      cases hitem <;> simp only [looseItems, hothers, hfirst]
termination_by structural as => as

end

theorem Respelled.looseNumber?_eq (h : a.Respelled b) :
    a.looseNumber?.map floatRank? = b.looseNumber?.map floatRank? := by
  cases h with
  | null | bool | str | obj => rfl
  | num hn => exact congrArg some hn.floatRank?_eq
  | arr hitems =>
    cases hitems with
    | nil => rfl
    | cons hitem hrest =>
      cases hrest with
      | nil => rw [looseNumber?, looseNumber?, hitem.looseText_eq]
      | cons => rfl

mutual

theorem Respelled.equivalent_eq : ∀ {a b c d : Json}, a.Respelled b → c.Respelled d →
    a.equivalent c = b.equivalent d
  | .null, _, _, _, h, h' => by cases h; cases h' <;> rfl
  | .bool _, _, _, _, h, h' => by cases h; cases h' <;> rfl
  | .str _, _, _, _, h, h' => by cases h; cases h' <;> rfl
  | .num _, _, _, _, h, h' => by
    cases h with
    | num hn =>
      cases h' with
      | num hm => exact float_beq_congr hn.floatRank?_eq hm.floatRank?_eq
      | _ => rfl
  | .arr _, _, _, _, h, h' => by
    cases h with
    | arr hitems =>
      cases h' with
      | arr hitems' => exact RespelledItems.equivalentItems_eq hitems hitems'
      | _ => rfl
  | .obj _, _, _, _, h, h' => by
    cases h with
    | obj hfields =>
      cases h' with
      | obj hfields' => exact RespelledFields.equivalentFields_eq hfields hfields'
      | _ => rfl
termination_by structural a => a

theorem RespelledItems.equivalentItems_eq : ∀ {as bs cs ds : List Json}, RespelledItems as bs →
    RespelledItems cs ds → equivalentItems as cs = equivalentItems bs ds
  | [], _, _, _, h, h' => by cases h; cases h' <;> rfl
  | a :: as, _, _, _, h, h' => by
    cases h with
    | cons hitem hrest =>
      cases h' with
      | nil => rfl
      | cons hitem' hrest' =>
        rw [equivalentItems, equivalentItems, Respelled.equivalent_eq hitem hitem',
          RespelledItems.equivalentItems_eq hrest hrest']
termination_by structural as => as

theorem RespelledFields.equivalentFields_eq : ∀ {fs gs hs is : List (String × Json)},
    RespelledFields fs gs → RespelledFields hs is → equivalentFields fs hs = equivalentFields gs is
  | [], _, _, _, h, h' => by cases h; cases h' <;> rfl
  | (_, a) :: fs, _, _, _, h, h' => by
    cases h with
    | cons key hfield hrest =>
      cases h' with
      | nil => rfl
      | cons key' hfield' hrest' =>
        rw [equivalentFields, equivalentFields, Respelled.equivalent_eq hfield hfield',
          RespelledFields.equivalentFields_eq hrest hrest']
termination_by structural fs => fs

end

theorem RespelledItems.length_eq (h : RespelledItems as bs) : as.length = bs.length := by
  induction as generalizing bs with
  | nil => cases h; rfl
  | cons a as ih =>
    cases h with
    | cons hitem hrest => rw [List.length_cons, List.length_cons, ih hrest]

/-- A test that does not tell spellings apart holds for an item of the one list if for one of the
other. -/
theorem RespelledItems.any_eq {test test' : Json → Bool}
    (htest : ∀ {a b : Json}, a.Respelled b → test a = test' b) (h : RespelledItems as bs) :
    as.any test = bs.any test' := by
  induction as generalizing bs with
  | nil => cases h; rfl
  | cons a as ih =>
    cases h with
    | cons hitem hrest => rw [List.any_cons, List.any_cons, htest hitem, ih hrest]

theorem RespelledItems.anyOf_eq {test test' : Json → Verdict}
    (htest : ∀ {a b : Json}, a.Respelled b → test a = test' b) (h : RespelledItems as bs) :
    Verdict.anyOf test as = Verdict.anyOf test' bs := by
  induction as generalizing bs with
  | nil => cases h; rfl
  | cons a as ih =>
    cases h with
    | cons hitem hrest => rw [Verdict.anyOf, Verdict.anyOf, htest hitem, ih hrest]

theorem RespelledItems.filter_truthy (h : RespelledItems as bs) :
    RespelledItems (as.filter truthy) (bs.filter truthy) := by
  induction as generalizing bs with
  | nil => cases h; exact .nil
  | cons a as ih =>
    cases h with
    | cons hitem hrest =>
      rw [List.filter_cons, List.filter_cons, hitem.truthy_eq]
      split
      · exact .cons hitem (ih hrest)
      · exact ih hrest

theorem Respelled.isAmong_eq (h : a.Respelled b) (hvalues : RespelledItems as bs) :
    a.isAmong as = b.isAmong bs := by
  have hany : ∀ {c d : Json}, c.Respelled d → as.any c.equivalent = bs.any d.equivalent :=
    fun hitem => hvalues.any_eq hitem.equivalent_eq
  cases h with
  | arr hitems => exact hitems.any_eq hany
  | null | bool | str => exact hany (by constructor)
  | num hn => exact hany (.num hn)
  | obj hfields => exact hany (.obj hfields)

theorem Respelled.looseOrder?_eq (h : a.Respelled b) (h' : c.Respelled d) :
    looseOrder? a c = looseOrder? b d := by
  have hnumbers := bind_floatOrder?_congr h.looseNumber?_eq h'.looseNumber?_eq
  cases h with
  | num => exact hnumbers
  | _ =>
    cases h' with
    | num => exact hnumbers
    | _ => rfl

theorem RespelledFields.find? (key : String) (h : RespelledFields fs gs) :
    Option.Rel Respelled (Entries.find? key fs) (Entries.find? key gs) := by
  induction fs generalizing gs with
  | nil => cases h; exact .none
  | cons field fs ih =>
    cases h with
    | cons name hfield hrest =>
      rw [Entries.find?, Entries.find?]
      split
      · exact .some hfield
      · exact ih hrest

theorem Respelled.descend (h : a.Respelled b) (path : List String) :
    (a.descend path).Respelled (b.descend path) := by
  induction path generalizing a b with
  | nil =>
    rw [Json.descend, Json.descend]
    exact h
  | cons name rest ih =>
    cases h with
    | @obj as bs hfields =>
      have hfound := hfields.find? name
      rw [Json.descend, Json.descend]
      generalize Entries.find? name as = x, Entries.find? name bs = y at hfound ⊢
      cases hfound with
      | some hfield => exact ih hfield
      | none => exact .null
    | _ => exact .null

theorem Respelled.atPath (h : a.Respelled b) (path : String) :
    (a.atPath path).Respelled (b.atPath path) :=
  h.descend _

end Readings

end Json

namespace Condition

open Json

/-! ### Parts of conditions -/

section Parts

variable {a b c d : Json} {groups groups' : Entries Json}

theorem isOperatorObject_eq {fs gs : List (String × Json)} (h : RespelledFields fs gs) :
    isOperatorObject fs = isOperatorObject gs := by
  induction fs generalizing gs with
  | nil => cases h; rfl
  | cons field fs ih =>
    cases h with
    | cons key hfield hrest =>
      have hothers := ih hrest
      simp only [isOperatorObject, List.all_cons] at hothers ⊢
      rw [hothers]

theorem isOperators_eq (h : a.Respelled b) : isOperators a = isOperators b := by
  cases h with
  | obj hfields => exact isOperatorObject_eq hfields
  | _ => rfl

theorem versionText_eq (h : a.Respelled b) : versionText a = versionText b := by
  cases h with
  | num hn => rw [versionText, versionText, hn.plainText_eq]
  | _ => rfl

theorem groupValues_respelled (hgroups : RespelledFields groups groups') (h : a.Respelled b) :
    RespelledItems (groupValues groups a) (groupValues groups' b) := by
  cases h with
  | str id =>
    have hfound := hgroups.find? id
    rw [groupValues, groupValues]
    generalize Entries.find? id groups = x, Entries.find? id groups' = y at hfound ⊢
    cases hfound with
    | none => exact .nil
    | some hgroup =>
      cases hgroup with
      | arr hitems => exact hitems
      | _ => exact .nil
  | _ => exact .nil

theorem matchesPattern_eq (h : a.Respelled b) (hpattern : c.Respelled d) :
    matchesPattern a.looseText c = matchesPattern b.looseText d := by
  rw [h.looseText_eq]
  cases hpattern <;> rfl

theorem Operator.compare_eq (op : Operator) (hgroups : RespelledFields groups groups')
    (h : a.Respelled b) (hexpected : c.Respelled d) :
    op.compare groups a c = op.compare groups' b d := by
  have hamong := h.isAmong_eq (groupValues_respelled hgroups hexpected)
  cases op with
  | eq | ne => simp only [Operator.compare, h.equivalent_eq hexpected]
  | gt | gte | lt | lte => simp only [Operator.compare, h.looseOrder?_eq hexpected]
  | isIn | notIn =>
    cases hexpected with
    | arr hvalues =>
      simp only [Operator.compare, Json.items?, Option.any_some, h.isAmong_eq hvalues]
    | _ => rfl
  | inGroup | notInGroup => simp only [Operator.compare, hamong]
  | regex => exact matchesPattern_eq h hexpected
  | type => simp only [Operator.compare, h.kindName_eq, hexpected.string?_eq]
  | «exists» => simp only [Operator.compare, h.isNull_eq, hexpected.truthy_eq]
  | versionEq | versionNe | versionGt | versionGte | versionLt | versionLte =>
    simp only [Operator.compare, versionText_eq h, versionText_eq hexpected]
  | size | elemMatch | all | not => rfl

end Parts

/-! ### Two runs -/

section Runs

variable {groups groups' : Entries Json}

/-- An operator comes to the same on two spellings if its operand does. -/
theorem evalOperator_eq (hgroups : RespelledFields groups groups') {key : String}
    {operand operand' actual actual' : Json} (hoperand : operand.Respelled operand')
    (hactual : actual.Respelled actual')
    (htree : ∀ {a b : Json}, a.Respelled b →
      evalTree groups operand a = evalTree groups' operand' b)
    (hvalue : ∀ {a b : Json}, a.Respelled b →
      evalValue groups operand a = evalValue groups' operand' b)
    (heach : ∀ {as bs : List Json}, RespelledItems as bs →
      evalEach groups operand as = evalEach groups' operand' bs) :
    evalOperator groups key operand actual = evalOperator groups' key operand' actual' := by
  unfold evalOperator
  cases Operator.ofKey? key with
  | none => rfl
  | some op =>
    have hcompare := op.compare_eq hgroups hactual hoperand
    cases op with
    | not => simp only [hvalue hactual]
    | size =>
      cases hactual with
      | @arr as bs hitems =>
        have hlength : (Json.int as.length).Respelled (.int bs.length) :=
          hitems.length_eq ▸ .num (.inl rfl)
        exact hvalue hlength
      | _ => rfl
    | elemMatch =>
      cases hactual with
      | arr hitems =>
        have hpresent := hitems.filter_truthy
        simp only [isOperators_eq hoperand, hpresent.anyOf_eq hvalue, hpresent.anyOf_eq htree]
      | _ => rfl
    | all =>
      cases hactual with
      | arr hitems => exact heach hitems
      | _ => rfl
    | _ => exact hcompare

mutual

theorem evalTree_eq (hgroups : RespelledFields groups groups') : ∀ {j j' : Json}, j.Respelled j' →
    ∀ {a b : Json}, a.Respelled b → evalTree groups j a = evalTree groups' j' b
  | .obj _, _, h, _, _, hsubject => by
    cases h with
    | obj hfields => exact evalFields_eq hgroups hfields hsubject
  | .null, _, h, _, _, _ | .bool _, _, h, _, _, _ | .num _, _, h, _, _, _ | .str _, _, h, _, _, _
  | .arr _, _, h, _, _, _ => by cases h; rfl
termination_by structural j => j

theorem evalFields_eq (hgroups : RespelledFields groups groups') :
    ∀ {fs gs : List (String × Json)}, RespelledFields fs gs →
    ∀ {a b : Json}, a.Respelled b → evalFields groups fs a = evalFields groups' gs b
  | [], _, h, _, _, _ => by cases h; rfl
  | (key, child) :: fs, _, h, _, _, hsubject => by
    cases h with
    | cons _ hchild hrest =>
      rw [evalFields, evalFields, evalFields_eq hgroups hrest hsubject]
      cases Connective.ofKey? key with
      | none => rw [evalValue_eq hgroups hchild (hsubject.atPath key)]
      | some connective =>
        cases connective with
        | or | nor => simp only [evalAny_eq hgroups hchild hsubject]
        | and => simp only [evalAll_eq hgroups hchild hsubject]
        | not => simp only [evalTree_eq hgroups hchild hsubject]
termination_by structural fs => fs

theorem evalAny_eq (hgroups : RespelledFields groups groups') : ∀ {j j' : Json}, j.Respelled j' →
    ∀ {a b : Json}, a.Respelled b → evalAny groups j a = evalAny groups' j' b
  | .arr _, _, h, _, _, hsubject => by
    cases h with
    | arr htrees =>
      have hsome := evalSome_eq hgroups htrees hsubject
      cases htrees with
      | nil => rfl
      | cons => exact hsome
  | .null, _, h, _, _, _ | .bool _, _, h, _, _, _ | .num _, _, h, _, _, _ | .str _, _, h, _, _, _
  | .obj _, _, h, _, _, _ => by cases h; rfl
termination_by structural j => j

theorem evalSome_eq (hgroups : RespelledFields groups groups') :
    ∀ {ts us : List Json}, RespelledItems ts us →
    ∀ {a b : Json}, a.Respelled b → evalSome groups ts a = evalSome groups' us b
  | [], _, h, _, _, _ => by cases h; rfl
  | t :: ts, _, h, _, _, hsubject => by
    cases h with
    | cons htree hrest =>
      rw [evalSome, evalSome, evalTree_eq hgroups htree hsubject,
        evalSome_eq hgroups hrest hsubject]
termination_by structural ts => ts

theorem evalAll_eq (hgroups : RespelledFields groups groups') : ∀ {j j' : Json}, j.Respelled j' →
    ∀ {a b : Json}, a.Respelled b → evalAll groups j a = evalAll groups' j' b
  | .arr _, _, h, _, _, hsubject => by
    cases h with
    | arr htrees => exact evalEvery_eq hgroups htrees hsubject
  | .null, _, h, _, _, _ | .bool _, _, h, _, _, _ | .num _, _, h, _, _, _ | .str _, _, h, _, _, _
  | .obj _, _, h, _, _, _ => by cases h; rfl
termination_by structural j => j

theorem evalEvery_eq (hgroups : RespelledFields groups groups') :
    ∀ {ts us : List Json}, RespelledItems ts us →
    ∀ {a b : Json}, a.Respelled b → evalEvery groups ts a = evalEvery groups' us b
  | [], _, h, _, _, _ => by cases h; rfl
  | t :: ts, _, h, _, _, hsubject => by
    cases h with
    | cons htree hrest =>
      rw [evalEvery, evalEvery, evalTree_eq hgroups htree hsubject,
        evalEvery_eq hgroups hrest hsubject]
termination_by structural ts => ts

theorem evalValue_eq (hgroups : RespelledFields groups groups') : ∀ {j j' : Json}, j.Respelled j' →
    ∀ {a b : Json}, a.Respelled b → evalValue groups j a = evalValue groups' j' b
  | .null, _, h, _, _, hactual => by
    cases h
    rw [evalValue, evalValue, hactual.isNull_eq]
  | .bool _, _, h, _, _, hactual => by
    cases h
    rw [evalValue, evalValue, hactual.isNull_eq, hactual.truthy_eq]
  | .num _, _, h, _, _, hactual => by
    cases h with
    | num hn =>
      rw [evalValue, evalValue, any_beq_congr hactual.looseNumber?_eq hn.floatRank?_eq]
  | .str _, _, h, _, _, hactual => by
    cases h
    rw [evalValue, evalValue, hactual.looseText_eq]
  | .arr _, _, h, _, _, hactual => by
    cases h with
    | arr hitems => rw [evalValue, evalValue, hactual.equivalent_eq (.arr hitems)]
  | .obj _, _, h, _, _, hactual => by
    cases h with
    | obj hfields =>
      rw [evalValue, evalValue, evalOperators_eq hgroups hfields hactual,
        isOperatorObject_eq hfields, hactual.equivalent_eq (.obj hfields)]
termination_by structural j => j

theorem evalOperators_eq (hgroups : RespelledFields groups groups') :
    ∀ {fs gs : List (String × Json)}, RespelledFields fs gs →
    ∀ {a b : Json}, a.Respelled b → evalOperators groups fs a = evalOperators groups' gs b
  | [], _, h, _, _, _ => by cases h; rfl
  | (key, operand) :: fs, _, h, _, _, hactual => by
    cases h with
    | cons _ hoperand hrest =>
      rw [evalOperators_cons, evalOperators_cons, evalOperators_eq hgroups hrest hactual,
        evalOperator_eq hgroups hoperand hactual (evalTree_eq hgroups hoperand)
          (evalValue_eq hgroups hoperand) (evalEach_eq hgroups hoperand)]
termination_by structural fs => fs

theorem evalEach_eq (hgroups : RespelledFields groups groups') : ∀ {j j' : Json}, j.Respelled j' →
    ∀ {as bs : List Json}, RespelledItems as bs → evalEach groups j as = evalEach groups' j' bs
  | .arr _, _, h, _, _, hitems => by
    cases h with
    | arr hconditions => exact evalEachOf_eq hgroups hconditions hitems
  | .null, _, h, _, _, _ | .bool _, _, h, _, _, _ | .num _, _, h, _, _, _ | .str _, _, h, _, _, _
  | .obj _, _, h, _, _, _ => by cases h; rfl
termination_by structural j => j

theorem evalEachOf_eq (hgroups : RespelledFields groups groups') :
    ∀ {cs ds : List Json}, RespelledItems cs ds →
    ∀ {as bs : List Json}, RespelledItems as bs → evalEachOf groups cs as = evalEachOf groups' ds bs
  | [], _, h, _, _, _ => by cases h; rfl
  | c :: cs, _, h, _, _, hitems => by
    cases h with
    | cons hcondition hrest =>
      rw [evalEachOf, evalEachOf, evalEachOf_eq hgroups hrest hitems,
        hitems.anyOf_eq (evalValue_eq hgroups hcondition)]
termination_by structural cs => cs

end

end Runs

/-- **Targeting does not depend on how numbers are spelled**, in the condition, in the attributes
and in the saved groups. -/
theorem holds_eq_of_respelled {condition condition' : Condition}
    {attributes attributes' groups groups' : Entries Json}
    (hcondition : condition.tree.Respelled condition'.tree)
    (hattributes : RespelledFields attributes attributes')
    (hgroups : RespelledFields groups groups') :
    condition.holds attributes groups = condition'.holds attributes' groups' := by
  rw [holds, holds, evalTree_eq hgroups hcondition (.obj hattributes)]

/-- Thirty, spelled as a float. -/
def thirty : FiniteFloat :=
  ⟨nearestFloat 30, isFinite_of_floatInteger? (floatInteger?_nearestFloat (by decide))⟩

/-- An age of `30.0` is in a list with `30`, since an age of `30` is. -/
theorem holds_thirty : Condition.holds ⟨.obj [("age", .obj [("$in", .arr [.num (.int 30)])])]⟩
    [("age", .num (.float thirty))] [] = true := by
  have hvalue : floatInteger? thirty.value = some 30 := floatInteger?_nearestFloat (by decide)
  have hage : Number.Respelled (.float thirty) (.int 30) := .inr ⟨30, by decide, hvalue, rfl⟩
  have hlist : Json.Respelled (.arr [.num (.int 30)]) (.arr [.num (.int 30)]) :=
    .arr (.cons (.num (.inl rfl)) .nil)
  have hsame : Condition.holds ⟨.obj [("age", .obj [("$in", .arr [.num (.int 30)])])]⟩
      [("age", .num (.float thirty))] [] =
      Condition.holds ⟨.obj [("age", .obj [("$in", .arr [.num (.int 30)])])]⟩
        [("age", .num (.int 30))] [] :=
    holds_eq_of_respelled (.obj (.cons "age" (.obj (.cons "$in" hlist .nil)) .nil))
      (.cons "age" (.num hage) .nil) .nil
  rw [hsame]
  decide +kernel

end Condition
end FeatureFlags
