/-
# Pre-releases of versions with any number of numerals

A release gets a last part `~`, so that it sorts after its pre-releases. The part is given by
count: a version of exactly three parts is taken for a release. This is right for versions of three
numerals. Of any other version, `1.2` say, the release gets no such part, and its padded text is a
proper prefix of that of every pre-release (`paddedParts_tagged`), which therefore sorts after it.

So a pre-release is older than its release if and only if the release has three numerals
(`Release.tagged_older_iff`), for the padded texts and for the conditions that compare them.

Key definitions: `Version.Token`, `Version.Tag`, `Release`, `Release.tagged`.
Key theorems: `Release.compare_tagged`, `Release.tagged_older_iff`.
-/
import FeatureFlags.Proofs.ConditionMeaning
import FeatureFlags.Proofs.VersionOrder

namespace FeatureFlags

open Version

namespace Version

/-- Letters and digits, in any order. -/
structure Token where
  chars : List Char
  alphanumeric : ∀ c ∈ chars, c.isAlpha ∨ isDigit c
  ne_nil : chars ≠ []

/-- The identifiers of a pre-release, the first of which starts with a letter. -/
structure Tag where
  first : Word
  rest : List Token

/-- The texts of the identifiers. -/
def Tag.parts (t : Tag) : List (List Char) := t.first.chars :: t.rest.map Token.chars

end Version

/-- A version without a tag: numerals, at least one. -/
structure Release where
  first : Digits
  rest : List Digits

namespace Release

variable (r : Release) (t : Tag)

def numerals : List Digits := r.first :: r.rest

/-- The texts of the numerals. -/
def parts : List (List Char) := r.numerals.map Digits.chars

/-- The text of a release. -/
def text : String := String.ofList (['.'].intercalate r.parts)

/-- The text of a pre-release of it: the tag is behind a dash. -/
def tagged : String :=
  String.ofList (['.'].intercalate r.parts ++ '-' :: ['.'].intercalate t.parts)

end Release

/-! ### The parts of both texts -/

theorem forall_dot_lt_of_alphanumeric {x : List Char} (h : ∀ c ∈ x, c.isAlpha ∨ isDigit c) :
    ∀ c ∈ x, '.' < c := fun c hc =>
  (h c hc).elim (fun hletter => lt_trans (by decide) (lt_of_isAlpha hletter).1) dot_lt_of_isDigit

namespace Version

theorem Tag.parts_spec (t : Tag) : ∀ part ∈ t.parts, part ≠ [] ∧ ∀ c ∈ part, '.' < c := by
  refine List.forall_mem_cons.mpr ⟨⟨List.cons_ne_nil _ _, (Identifier.word t.first).dot_lt⟩, ?_⟩
  exact List.forall_mem_map.mpr fun token _ =>
    ⟨token.ne_nil, forall_dot_lt_of_alphanumeric token.alphanumeric⟩

/-- Filling up makes no character smaller than the dash, and no part empty. -/
theorem dash_lt_of_mem_pad {part : List Char} (h : ∀ c ∈ part, '.' < c) : ∀ c ∈ pad part, '-' < c := by
  intro c hc
  unfold pad at hc
  split at hc
  · rcases List.mem_append.mp hc with hc | hc
    · rw [List.eq_of_mem_replicate hc]
      decide
    · exact lt_trans (by decide) (h c hc)
  · exact lt_trans (by decide) (h c hc)

/-- What is cut is the parts that were put together, as far as they go. -/
theorem cut_append_led_append {separates : Char → Bool} {c d : Char} (hc : separates c = true)
    (hd : separates d = true) (rest : List Char) : ∀ {parts : List (List Char)} {x : List Char},
    (∀ part ∈ x :: parts, ∀ e ∈ part, separates e = false) →
    cut separates (x ++ led c parts ++ d :: rest) = (x :: parts) ++ cut separates rest
  | [], x, h => by
    rw [led, List.flatMap_nil, List.append_nil,
      cut_append_cons (List.forall_mem_cons.mp h).1 hd, List.singleton_append]
  | part :: parts, x, h => by
    obtain ⟨hx, hparts⟩ := List.forall_mem_cons.mp h
    have hled : x ++ led c (part :: parts) ++ d :: rest =
        x ++ c :: (part ++ led c parts ++ d :: rest) := by simp [led]
    rw [hled, cut_append_cons hx hc, cut_append_led_append hc hd rest hparts]
    rfl

/-- A text that has neither mark nor build is its own core. -/
theorem core_eq_self {x : List Char} (hhead : x.head? ≠ some 'v') (hplus : ∀ c ∈ x, c ≠ '+') :
    core x = x := by
  have htake : x.takeWhile (· ≠ '+') = x :=
    List.takeWhile_eq_self_iff.mpr fun c hc => decide_eq_true (hplus c hc)
  cases x with
  | nil => rfl
  | cons c rest =>
    have hne : c ≠ 'v' := fun heq => hhead (congrArg some heq)
    rw [SemanticVersion.core_of_ne hne, htake]

/-- A version of three parts, and no other one, gets the mark of a release. -/
theorem paddedParts_of_parts {x : List Char} {ps : List (List Char)} (hcore : core x = x)
    (hparts : parts x = ps) (hne : ∀ part ∈ ps, part ≠ []) :
    paddedParts x = ps.map pad ++ if ps.length = 3 then [['~']] else [] := by
  have hfilter : ps.filter (· ≠ []) = ps :=
    List.filter_eq_self.mpr fun part hpart => decide_eq_true (hne part hpart)
  rw [paddedParts, hcore, hparts]
  by_cases h : ps.length = 3
  · simp only [h, if_true]
    rw [List.filter_append, List.map_append, hfilter]
    rfl
  · simp only [h, if_false]
    rw [hfilter, List.append_nil]

/-- What two lists have in common at the front does not decide. -/
theorem compareLex_append_left (common as bs : List (List Char)) :
    (common ++ as).compareLex compareChars (common ++ bs) = as.compareLex compareChars bs := by
  induction common with
  | nil => rfl
  | cons part common ih =>
    have hself : compareChars part part = .eq := Std.ReflCmp.compare_self
    rw [List.cons_append, List.cons_append, List.compareLex_cons_cons, hself, Ordering.eq_then, ih]

/-- Filled up parts, and the mark of a release behind them, have characters above the dash. -/
theorem dash_lt_of_mem_marked {ps : List (List Char)} (marked : Prop) [Decidable marked]
    (h : ∀ part ∈ ps, part ≠ [] ∧ ∀ c ∈ part, '.' < c) :
    ∀ part ∈ ps.map pad ++ (if marked then [['~']] else []), ∀ c ∈ part, '-' < c := by
  intro part hpart
  rcases List.mem_append.mp hpart with hpart | hpart
  · obtain ⟨part, hmem, rfl⟩ := List.mem_map.mp hpart
    exact dash_lt_of_mem_pad (h part hmem).2
  · split at hpart
    · intro c hc
      rw [List.mem_singleton.mp hpart] at hc
      rw [List.mem_singleton.mp hc]
      decide
    · cases hpart

end Version

namespace Release

variable (r : Release) (t : Tag)

theorem parts_spec : ∀ part ∈ r.parts, part ≠ [] ∧ ∀ c ∈ part, '.' < c :=
  List.forall_mem_map.mpr fun n _ => ⟨n.ne_nil, n.dot_lt⟩

/-- The parts of a release, and some more behind a dash, have neither mark nor build. -/
theorem core_append {rest : List Char} (hrest : ∀ c ∈ rest, '+' < c) :
    core (['.'].intercalate r.parts ++ rest) = ['.'].intercalate r.parts ++ rest := by
  refine core_eq_self ?_ fun c hc => ?_
  · obtain ⟨c, digits, hfirst⟩ := List.exists_cons_of_ne_nil r.first.ne_nil
    have hdigit : isDigit c = true := r.first.digits c (hfirst ▸ List.mem_cons_self)
    rw [parts, numerals, List.map_cons, intercalate_cons, hfirst]
    rintro ⟨⟩
    exact absurd hdigit (by decide)
  · rcases List.mem_append.mp hc with hc | hc
    · refine (forall_mem_intercalate (p := fun c => '+' < c) (by decide) ?_ c hc).ne'
      exact fun part hpart c hc => lt_trans (by decide) ((r.parts_spec part hpart).2 c hc)
    · exact (hrest c hc).ne'

theorem paddedParts_text : paddedParts r.text.toList =
    r.parts.map pad ++ if r.numerals.length = 3 then [['~']] else [] := by
  have hcore := r.core_append (List.forall_mem_nil _)
  rw [List.append_nil] at hcore
  have hparts : Version.parts (['.'].intercalate r.parts) = r.parts := by
    rw [parts, numerals, List.map_cons, intercalate_cons]
    exact cut_append_led (by decide) fun part hpart c hc =>
      not_separates ((r.parts_spec part hpart).2 c hc)
  have hlength : r.parts.length = r.numerals.length := List.length_map _
  rw [text, String.toList_ofList,
    paddedParts_of_parts hcore hparts fun part hpart => (r.parts_spec part hpart).1, hlength]

/-- **The padded parts of a pre-release begin with those of the numerals.** If they are three in all
it is taken for a release. -/
theorem paddedParts_tagged : paddedParts (r.tagged t).toList = r.parts.map pad ++ (t.parts.map pad ++
    if r.numerals.length + t.parts.length = 3 then [['~']] else []) := by
  have hcore : core (['.'].intercalate r.parts ++ '-' :: ['.'].intercalate t.parts) =
      ['.'].intercalate r.parts ++ '-' :: ['.'].intercalate t.parts := by
    refine r.core_append (List.forall_mem_cons.mpr
      ⟨by decide, forall_mem_intercalate (by decide) ?_⟩)
    exact fun part hpart c hc => lt_trans (by decide) ((t.parts_spec part hpart).2 c hc)
  have hparts : Version.parts (['.'].intercalate r.parts ++ '-' :: ['.'].intercalate t.parts) =
      r.parts ++ t.parts := by
    have htag : Version.parts (['.'].intercalate t.parts) = t.parts := by
      rw [Tag.parts, intercalate_cons]
      exact cut_append_led (by decide) fun part hpart c hc =>
        not_separates ((t.parts_spec part hpart).2 c hc)
    rw [parts, numerals, List.map_cons, intercalate_cons, Version.parts,
      cut_append_led_append (by decide) (by decide) _ fun part hpart c hc =>
        not_separates ((r.parts_spec part hpart).2 c hc)]
    exact congrArg _ htag
  have hne : ∀ part ∈ r.parts ++ t.parts, part ≠ [] := fun part hpart =>
    (List.mem_append.mp hpart).elim (fun h => (r.parts_spec part h).1)
      fun h => (t.parts_spec part h).1
  have hlength : r.parts.length = r.numerals.length := List.length_map _
  rw [tagged, String.toList_ofList, paddedParts_of_parts hcore hparts hne, List.map_append,
    List.append_assoc, List.length_append, hlength]

/-! ### Their order -/

/-- **A pre-release is older than its release if that has three numerals**, and else it is newer:
the release has no mark then, so that the pre-release goes on where the release ends. -/
theorem compare_tagged : compare (paddedVersion (r.tagged t)) (paddedVersion r.text) =
    if r.numerals.length = 3 then .lt else .gt := by
  have hall : ∀ part ∈ r.parts ++ t.parts, part ≠ [] ∧ ∀ c ∈ part, '.' < c := fun part hpart =>
    (List.mem_append.mp hpart).elim (r.parts_spec part) (t.parts_spec part)
  have hfront : ∀ rest, r.parts.map pad ++ rest =
      pad r.first.chars :: ((r.rest.map Digits.chars).map pad ++ rest) := fun _ => rfl
  have htext := dash_lt_of_mem_marked (r.numerals.length = 3) r.parts_spec
  have htagged := dash_lt_of_mem_marked (r.numerals.length + t.parts.length = 3) hall
  rw [List.map_append, List.append_assoc] at htagged
  rw [hfront] at htext htagged
  rw [paddedVersion, paddedVersion, compare_ofList, paddedParts_tagged, paddedParts_text, hfront,
    hfront, compareChars_intercalate htagged htext, ← hfront, ← hfront, compareLex_append_left,
    Tag.parts, List.map_cons, List.cons_append]
  by_cases hthree : r.numerals.length = 3
  · have hmark : compareChars (pad t.first.chars) ['~'] = .lt :=
      (Identifier.word t.first).compareChars_mark
    rw [if_pos hthree, if_pos hthree, List.compareLex_cons_cons, hmark, Ordering.lt_then]
  · rw [if_neg hthree, if_neg hthree]
    rfl

/-! ### Conditions -/

/-- A text that begins with the numerals of a release is not empty. -/
theorem ofList_append_ne_empty (rest : List Char) :
    String.ofList (['.'].intercalate r.parts ++ rest) ≠ "" := by
  obtain ⟨c, digits, hfirst⟩ := List.exists_cons_of_ne_nil r.first.ne_nil
  intro h
  have hnil := congrArg String.toList h
  rw [String.toList_ofList, parts, numerals, List.map_cons, intercalate_cons, hfirst] at hnil
  cases hnil

theorem versionText_text : Condition.versionText (.str r.text) = paddedVersion r.text := by
  have hne := r.ofList_append_ne_empty []
  rw [List.append_nil] at hne
  exact congrArg paddedVersion (if_neg hne)

theorem versionText_tagged :
    Condition.versionText (.str (r.tagged t)) = paddedVersion (r.tagged t) :=
  congrArg paddedVersion (if_neg (r.ofList_append_ne_empty _))

end Release

namespace Condition

variable {name key actual : String} {op : Operator} {operand : Json}
  {attributes groups : Entries Json}

/-- The condition that an attribute passes an operator. -/
def onAttribute (name key : String) (operand : Json) : Condition :=
  ⟨.obj [(name, .obj [(key, operand)])]⟩

/-- A text passes an operator, other than a negation, if it compares so. -/
theorem holds_onAttribute (hname : Connective.ofKey? name = none)
    (hactual : (Json.obj attributes).atPath name = .str actual)
    (hmarked : key.toList.head? = some '$') (hkey : Operator.ofKey? key = some op)
    (hop : op ≠ .not) : (onAttribute name key operand).holds attributes groups =
      (op.compare groups (.str actual) operand == .holds) := by
  have hobject : isOperatorObject [(key, operand)] = true := by
    simp [isOperatorObject, hmarked]
  have hoperator : evalOperator groups key operand (.str actual) =
      op.compare groups (.str actual) operand := by
    simp only [evalOperator, hkey]
  have hvalue : evalValue groups (.obj [(key, operand)]) (.str actual) =
      (op.compare groups (.str actual) operand).and .holds := by
    rw [evalValue, if_pos hobject, evalOperators_cons, hoperator, evalOperators]
  rw [holds, onAttribute, evalTree, evalFields, hname]
  simp only [evalFields, hactual, hvalue]
  cases op.compare groups (.str actual) operand <;> rfl

end Condition

namespace Release

variable (r : Release) (t : Tag)

/-- **A pre-release is older than its release if and only if that has three numerals**: so say the
padded texts, and so do the conditions on an attribute of the user that has the pre-release. -/
theorem tagged_older_iff :
    (paddedVersion (r.tagged t) < paddedVersion r.text ↔ r.numerals.length = 3) ∧
    ∀ (name : String) (attributes groups : Entries Json),
      Condition.Connective.ofKey? name = none →
      (Json.obj attributes).atPath name = .str (r.tagged t) →
      ((Condition.onAttribute name "$vlt" (.str r.text)).holds attributes groups = true ↔
        r.numerals.length = 3) ∧
      ((Condition.onAttribute name "$vgte" (.str r.text)).holds attributes groups = false ↔
        r.numerals.length = 3) := by
  have hcompare := r.compare_tagged t
  refine ⟨?_, fun name attributes groups hname hactual => ?_⟩
  · rw [← compare_lt_iff_lt, hcompare]
    split <;> simp [*]
  · have hlt : Condition.Operator.ofKey? "$vlt" = some .versionLt := by decide
    have hge : Condition.Operator.ofKey? "$vgte" = some .versionGte := by decide
    have horder : compare (Condition.versionText (.str (r.tagged t)))
        (Condition.versionText (.str r.text)) = if r.numerals.length = 3 then .lt else .gt := by
      rw [versionText_tagged, versionText_text, hcompare]
    have holder : Condition.Operator.versionLt.compare groups (.str (r.tagged t)) (.str r.text) =
        .ofBool (if r.numerals.length = 3 then Ordering.lt else .gt).isLT := by
      rw [← horder]
      rfl
    have hnewer : Condition.Operator.versionGte.compare groups (.str (r.tagged t)) (.str r.text) =
        .ofBool (if r.numerals.length = 3 then Ordering.lt else .gt).isGE := by
      rw [← horder]
      rfl
    rw [Condition.holds_onAttribute hname hactual (by decide) hlt nofun, holder,
      Condition.holds_onAttribute hname hactual (by decide) hge nofun, hnewer]
    split
    · next hthree => exact ⟨iff_of_true rfl hthree, iff_of_true rfl hthree⟩
    · next hthree => exact ⟨iff_of_false nofun hthree, iff_of_false nofun hthree⟩

/-- A numeral of one digit. -/
def digit (c : Char) (h : isDigit c = true) : Digits :=
  ⟨[c], List.forall_mem_singleton.mpr h, Nat.one_pos, by simp⟩

/-- `1.2.0`, and `1.2`. -/
def three : Release := ⟨digit '1' rfl, [digit '2' rfl, digit '0' rfl]⟩
def two : Release := ⟨digit '1' rfl, [digit '2' rfl]⟩

/-- `rc`, and `rc.1a`. -/
def candidate : Tag := ⟨⟨'r', ['c'], rfl, List.forall_mem_singleton.mpr (.inl rfl)⟩, []⟩
def candidateOneA : Tag := { candidate with rest := [⟨['1', 'a'],
  List.forall_mem_cons.mpr ⟨.inr rfl, List.forall_mem_singleton.mpr (.inl rfl)⟩, nofun⟩] }

/-- A user on `1.2.0-rc.1a` is on an older version than `1.2.0`. -/
theorem three_tagged_older :
    paddedVersion (three.tagged candidateOneA) < paddedVersion three.text ∧
    (Condition.onAttribute "version" "$vlt" (.str three.text)).holds
      [("version", .str (three.tagged candidateOneA))] [] = true := by
  obtain ⟨hpadded, hconditions⟩ := tagged_older_iff three candidateOneA
  have hlength : three.numerals.length = 3 := rfl
  obtain ⟨holder, -⟩ := hconditions "version"
    [("version", .str (three.tagged candidateOneA))] [] rfl rfl
  exact ⟨hpadded.mpr hlength, holder.mpr hlength⟩

/-- **Not every pre-release is older than its release**: a user on `1.2-rc` is not on an older
version than `1.2`. -/
theorem exists_tagged_newer : ∃ (r : Release) (t : Tag),
    ¬ paddedVersion (r.tagged t) < paddedVersion r.text ∧
    (Condition.onAttribute "version" "$vlt" (.str r.text)).holds
      [("version", .str (r.tagged t))] [] = false :=
  ⟨two, candidate, by decide +kernel, by decide +kernel⟩

end Release
end FeatureFlags
