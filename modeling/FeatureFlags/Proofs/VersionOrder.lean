/-
# Padded versions in order

A version is compared as a text: its numerals are filled up to five digits, its parts are put
between dashes, and a release gets a last part that is larger than any tag. This module says which
order that is: for versions as semantic versioning writes them, **it is their precedence**
(`SemanticVersion.compare_paddedVersion`).

The argument has three parts.

* The text of a version is cut into the parts that it was put together from (`paddedParts_text`).
* Texts that are put together from parts with a separator below all characters of the parts are
  ordered as the lists of their parts (`compareChars_intercalate`): where one part ends and the
  other goes on, the separator decides, and it decides as the end of the text does.
* Parts are ordered as what they stand for: numerals of one length by value
  (`compareChars_digits`), a digit before a letter, and both before the mark of a release.

Key definitions: `Version.Digits`, `Version.Word`, `Version.Identifier`, `SemanticVersion`,
`SemanticVersion.text`, `SemanticVersion.precedence`.
Key theorems: `compareChars_intercalate`, `SemanticVersion.compare_paddedVersion`.
-/
import FeatureFlags.Version
import Mathlib

namespace FeatureFlags

/-! ### Texts -/

/-- Texts are compared by their first different characters, and a proper prefix is first. -/
def compareChars (x y : List Char) : Ordering := x.compareLex compare y

instance : Std.OrientedCmp compareChars := inferInstanceAs (Std.OrientedOrd (List Char))

instance : Std.LawfulEqCmp compareChars := inferInstanceAs (Std.LawfulEqOrd (List Char))

@[simp] theorem compareChars_nil_nil : compareChars [] [] = .eq := rfl

@[simp] theorem compareChars_nil_cons (c : Char) (x : List Char) :
    compareChars [] (c :: x) = .lt := rfl

@[simp] theorem compareChars_cons_nil (c : Char) (x : List Char) :
    compareChars (c :: x) [] = .gt := rfl

@[simp] theorem compareChars_cons_cons (c d : Char) (x y : List Char) :
    compareChars (c :: x) (d :: y) = (compare c d).then (compareChars x y) :=
  List.compareLex_cons_cons

theorem compareChars_eq_lt_iff : ∀ {x y : List Char}, compareChars x y = .lt ↔ x < y
  | [], [] => by simp
  | [], _ :: _ => by simp
  | _ :: _, [] => by simp
  | c :: x, d :: y => by
    rw [compareChars_cons_cons, Ordering.then_eq_lt, List.cons_lt_cons_iff, compareChars_eq_lt_iff,
      compare_lt_iff_lt, compare_eq_iff_eq]

theorem compare_ofList (x y : List Char) :
    compare (String.ofList x) (String.ofList y) = compareChars x y := by
  have hlt : ∀ x y : List Char, String.ofList x < String.ofList y ↔ compareChars x y = .lt := by
    intro x y
    rw [String.lt_iff_toList_lt, String.toList_ofList, String.toList_ofList, compareChars_eq_lt_iff]
  cases horder : compareChars x y with
  | lt => exact compare_lt_iff_lt.mpr ((hlt x y).mpr horder)
  | eq =>
    rw [Std.LawfulEqCmp.eq_of_compare horder]
    exact compare_eq_iff_eq.mpr rfl
  | gt =>
    have hswap : compareChars y x = .lt := Std.OrientedCmp.gt_iff_lt.mp horder
    exact compare_gt_iff_gt.mpr ((hlt y x).mpr hswap)

/-! ### Characters -/

theorem char_lt_iff {c d : Char} : c < d ↔ c.toNat < d.toNat := by
  rw [Char.lt_def, UInt32.lt_iff_toNat_lt]
  rfl

theorem isDigit_iff {c : Char} : isDigit c = true ↔ '0'.toNat ≤ c.toNat ∧ c.toNat ≤ '9'.toNat := by
  rw [isDigit, decide_eq_true_iff, Char.le_def, Char.le_def, UInt32.le_iff_toNat_le,
    UInt32.le_iff_toNat_le]
  rfl

/-- A letter is larger than a digit and smaller than the mark of a release. -/
theorem lt_of_isAlpha {c : Char} (h : c.isAlpha = true) : '9' < c ∧ c < '~' := by
  have hcode : (65 ≤ c.toNat ∧ c.toNat ≤ 90) ∨ (97 ≤ c.toNat ∧ c.toNat ≤ 122) := by
    simpa [Char.isAlpha, Char.isUpper, Char.isLower, UInt32.le_iff_toNat_le] using h
  rw [char_lt_iff, char_lt_iff]
  change 57 < c.toNat ∧ c.toNat < 126
  omega

/-- A digit is larger than both separators. -/
theorem dot_lt_of_isDigit {c : Char} (h : isDigit c = true) : '.' < c :=
  char_lt_iff.mpr (Nat.lt_of_lt_of_le (by decide) (isDigit_iff.mp h).1)

theorem le_nine_of_isDigit {c : Char} (h : isDigit c = true) : c ≤ '9' :=
  Char.not_lt.mp fun hlt => Nat.not_lt.mpr (isDigit_iff.mp h).2 (char_lt_iff.mp hlt)

/-! ### Texts in parts -/

/-- The parts, each behind a separator. -/
def led (sep : Char) (parts : List (List Char)) : List Char := parts.flatMap (sep :: ·)

theorem intercalate_cons (sep : Char) (part : List Char) (parts : List (List Char)) :
    [sep].intercalate (part :: parts) = part ++ led sep parts := by
  induction parts generalizing part with
  | nil => simp [led]
  | cons next rest ih =>
    rw [List.intercalate_cons_cons, ih]
    simp [led]

theorem forall_mem_intercalate {p : Char → Prop} {sep : Char} (hsep : p sep) :
    ∀ {parts : List (List Char)}, (∀ part ∈ parts, ∀ c ∈ part, p c) →
      ∀ c ∈ [sep].intercalate parts, p c
  | [], _, c, hc => nomatch hc
  | part :: rest, hparts, c, hc => by
    obtain ⟨hpart, hrest⟩ := List.forall_mem_cons.mp hparts
    rw [intercalate_cons, List.mem_append, led, List.mem_flatMap] at hc
    rcases hc with hc | ⟨other, hother, hc⟩
    · exact hpart c hc
    · rcases List.mem_cons.mp hc with rfl | hc
      · exact hsep
      · exact hrest other hother c hc

/-- Where one part ends and the other goes on, the separator decides as the end of the text
does. -/
theorem compareChars_append_led {sep : Char} (ps qs : List (List Char)) : ∀ {x y : List Char},
    (∀ c ∈ x, sep < c) → (∀ c ∈ y, sep < c) →
    compareChars (x ++ led sep ps) (y ++ led sep qs) =
      (compareChars x y).then (compareChars (led sep ps) (led sep qs))
  | [], [], _, _ => rfl
  | [], d :: y, _, hy => by
    rw [List.nil_append, compareChars_nil_cons, Ordering.lt_then]
    cases ps with
    | nil => rfl
    | cons p ps =>
      have hlt : sep < d := hy d List.mem_cons_self
      change compareChars (sep :: (p ++ led sep ps)) (d :: (y ++ led sep qs)) = .lt
      rw [compareChars_cons_cons, compare_lt_iff_lt.mpr hlt, Ordering.lt_then]
  | c :: x, [], hx, _ => by
    rw [List.nil_append, compareChars_cons_nil, Ordering.gt_then]
    cases qs with
    | nil => rfl
    | cons q qs =>
      have hlt : sep < c := hx c List.mem_cons_self
      change compareChars (c :: (x ++ led sep ps)) (sep :: (q ++ led sep qs)) = .gt
      rw [compareChars_cons_cons, compare_gt_iff_gt.mpr hlt, Ordering.gt_then]
  | c :: x, d :: y, hx, hy => by
    rw [List.cons_append, List.cons_append, compareChars_cons_cons, compareChars_cons_cons,
      compareChars_append_led ps qs (fun c hc => hx c (List.mem_cons_of_mem _ hc))
        (fun c hc => hy c (List.mem_cons_of_mem _ hc)), Ordering.then_assoc]

theorem compareChars_led {sep : Char} : ∀ {ps qs : List (List Char)},
    (∀ p ∈ ps, ∀ c ∈ p, sep < c) → (∀ q ∈ qs, ∀ c ∈ q, sep < c) →
    compareChars (led sep ps) (led sep qs) = ps.compareLex compareChars qs
  | [], [], _, _ => rfl
  | [], _ :: _, _, _ => rfl
  | _ :: _, [], _, _ => rfl
  | p :: ps, q :: qs, hps, hqs => by
    obtain ⟨hp, hps⟩ := List.forall_mem_cons.mp hps
    obtain ⟨hq, hqs⟩ := List.forall_mem_cons.mp hqs
    change compareChars (sep :: (p ++ led sep ps)) (sep :: (q ++ led sep qs)) = _
    rw [compareChars_cons_cons, compare_eq_iff_eq.mpr rfl, Ordering.eq_then,
      compareChars_append_led ps qs hp hq, compareChars_led hps hqs, List.compareLex_cons_cons]

/-- **Texts in parts are ordered as the lists of their parts**, if the separator is below all
characters of the parts. -/
theorem compareChars_intercalate {sep : Char} {p q : List Char} {ps qs : List (List Char)}
    (hps : ∀ part ∈ p :: ps, ∀ c ∈ part, sep < c) (hqs : ∀ part ∈ q :: qs, ∀ c ∈ part, sep < c) :
    compareChars ([sep].intercalate (p :: ps)) ([sep].intercalate (q :: qs)) =
      (p :: ps).compareLex compareChars (q :: qs) := by
  obtain ⟨hp, hps⟩ := List.forall_mem_cons.mp hps
  obtain ⟨hq, hqs⟩ := List.forall_mem_cons.mp hqs
  rw [intercalate_cons, intercalate_cons, compareChars_append_led ps qs hp hq,
    compareChars_led hps hqs, List.compareLex_cons_cons]

/-! ### Numerals -/

theorem digitsValue_cons (c : Char) (x : List Char) :
    digitsValue (c :: x) = (c.toNat - '0'.toNat) * 10 ^ x.length + digitsValue x := by
  have hfold : ∀ (x : List Char) (n : ℕ), x.foldl (fun n c => 10 * n + (c.toNat - '0'.toNat)) n =
      n * 10 ^ x.length + digitsValue x := by
    intro x
    induction x with
    | nil => simp [digitsValue]
    | cons c x ih =>
      intro n
      have hcons : digitsValue (c :: x) =
          (10 * 0 + (c.toNat - '0'.toNat)) * 10 ^ x.length + digitsValue x := ih _
      rw [List.foldl_cons, ih, hcons, List.length_cons, pow_succ]
      ring
  have hcons : digitsValue (c :: x) =
      (10 * 0 + (c.toNat - '0'.toNat)) * 10 ^ x.length + digitsValue x := hfold x _
  rw [hcons, Nat.mul_zero, Nat.zero_add]

/-- Zeros in front do not count. -/
theorem digitsValue_zeros (k : ℕ) (x : List Char) :
    digitsValue (List.replicate k '0' ++ x) = digitsValue x := by
  induction k with
  | zero => rfl
  | succ k ih =>
    rw [List.replicate_succ, List.cons_append, digitsValue_cons, ih]
    simp

theorem digitsValue_lt : ∀ {x : List Char}, (∀ c ∈ x, isDigit c) → digitsValue x < 10 ^ x.length
  | [], _ => by decide
  | c :: x, h => by
    obtain ⟨hc, hx⟩ := List.forall_mem_cons.mp h
    have hdigit : c.toNat - '0'.toNat ≤ 9 := Nat.sub_le_of_le_add (isDigit_iff.mp hc).2
    rw [digitsValue_cons, List.length_cons, pow_succ]
    calc (c.toNat - '0'.toNat) * 10 ^ x.length + digitsValue x
        < (c.toNat - '0'.toNat) * 10 ^ x.length + 10 ^ x.length :=
          Nat.add_lt_add_left (digitsValue_lt hx) _
      _ = (c.toNat - '0'.toNat + 1) * 10 ^ x.length := by ring
      _ ≤ 10 * 10 ^ x.length := Nat.mul_le_mul_right _ (by omega)
      _ = 10 ^ x.length * 10 := Nat.mul_comm _ _

theorem compare_mul_add {a b c d n : ℕ} (hc : c < n) (hd : d < n) :
    compare (a * n + c) (b * n + d) = (compare a b).then (compare c d) := by
  rcases Nat.lt_trichotomy a b with h | rfl | h
  · have hlt : a * n + c < b * n + d :=
      calc a * n + c < a * n + n := Nat.add_lt_add_left hc _
        _ = (a + 1) * n := by ring
        _ ≤ b * n := Nat.mul_le_mul_right _ h
        _ ≤ b * n + d := Nat.le_add_right _ _
    rw [compare_lt_iff_lt.mpr hlt, compare_lt_iff_lt.mpr h, Ordering.lt_then]
  · rw [compare_eq_iff_eq.mpr rfl, Ordering.eq_then]
    rcases Nat.lt_trichotomy c d with h | rfl | h
    · rw [compare_lt_iff_lt.mpr h, compare_lt_iff_lt.mpr (Nat.add_lt_add_left h _)]
    · rw [compare_eq_iff_eq.mpr rfl, compare_eq_iff_eq.mpr rfl]
    · rw [compare_gt_iff_gt.mpr h, compare_gt_iff_gt.mpr (Nat.add_lt_add_left h _)]
  · have hgt : b * n + d < a * n + c :=
      calc b * n + d < b * n + n := Nat.add_lt_add_left hd _
        _ = (b + 1) * n := by ring
        _ ≤ a * n := Nat.mul_le_mul_right _ h
        _ ≤ a * n + c := Nat.le_add_right _ _
    rw [compare_gt_iff_gt.mpr hgt, compare_gt_iff_gt.mpr h, Ordering.gt_then]

/-- **Numerals of one length are ordered by value.** -/
theorem compareChars_digits : ∀ {x y : List Char}, (∀ c ∈ x, isDigit c) → (∀ c ∈ y, isDigit c) →
    x.length = y.length → compareChars x y = compare (digitsValue x) (digitsValue y)
  | [], [], _, _, _ => rfl
  | [], _ :: _, _, _, h => nomatch h
  | _ :: _, [], _, _, h => nomatch h
  | c :: x, d :: y, hx, hy, h => by
    obtain ⟨hc, hx⟩ := List.forall_mem_cons.mp hx
    obtain ⟨hd, hy⟩ := List.forall_mem_cons.mp hy
    have hlength : x.length = y.length := Nat.succ.inj h
    have hmono : StrictMonoOn (fun c : Char => c.toNat - '0'.toNat) {c | isDigit c} :=
      fun c hc d _ h => Nat.sub_lt_sub_right (isDigit_iff.mp hc).1 (char_lt_iff.mp h)
    have hdigit : compare c d = compare (c.toNat - '0'.toNat) (d.toNat - '0'.toNat) := by
      rw [← cmp_eq_compare, ← cmp_eq_compare, ← hmono.cmp_map_eq hc hd]
    rw [compareChars_cons_cons, digitsValue_cons, digitsValue_cons, hdigit,
      compareChars_digits hx hy hlength, ← hlength,
      compare_mul_add (digitsValue_lt hx) (hlength ▸ digitsValue_lt hy)]

/-! ### Versions -/

namespace Version

/-- A numeral of one to five digits. -/
structure Digits where
  chars : List Char
  digits : ∀ c ∈ chars, isDigit c
  positive : 0 < chars.length
  short : chars.length ≤ 5

/-- Letters and digits, a letter first. -/
structure Word where
  first : Char
  rest : List Char
  letter : first.isAlpha
  alphanumeric : ∀ c ∈ rest, c.isAlpha ∨ isDigit c

/-- A part of a tag. -/
inductive Identifier where
  | number (n : Digits)
  | word (w : Word)

/-- The number that a numeral stands for. -/
def Digits.value (n : Digits) : ℕ := digitsValue n.chars

def Word.chars (w : Word) : List Char := w.first :: w.rest

namespace Identifier

def chars : Identifier → List Char
  | number n => n.chars
  | word w => w.chars

/-- Numbers come before words, numbers are compared by value and words as texts. -/
def precedence : Identifier → Identifier → Ordering
  | number m, number n => compare m.value n.value
  | number _, word _ => .lt
  | word _, number _ => .gt
  | word v, word w => compare (String.ofList v.chars) (String.ofList w.chars)

end Identifier

/-- A release, which has no tag, comes after its pre-releases. Tags are compared by their first
different identifiers, and a proper prefix is first. -/
def tagPrecedence : List Identifier → List Identifier → Ordering
  | [], [] => .eq
  | [], _ :: _ => .gt
  | _ :: _, [] => .lt
  | a :: as, b :: bs => (a :: as).compareLex Identifier.precedence (b :: bs)

end Version

open Version

/-- **A version as semantic versioning writes it**: three numerals, the identifiers of a
pre-release, and what is known of the build. It may be marked with a `v`. -/
structure SemanticVersion where
  marked : Bool
  major : Digits
  minor : Digits
  patch : Digits
  tag : List Identifier
  build : Option String

namespace SemanticVersion

variable (v : SemanticVersion)

/-- The tag behind its dash. -/
def tagChars : List Identifier → List Char
  | [] => []
  | id :: rest => '-' :: ['.'].intercalate ((id :: rest).map Identifier.chars)

/-- The version without mark and build. -/
def bodyChars : List Char :=
  ['.'].intercalate [v.major.chars, v.minor.chars, v.patch.chars] ++ tagChars v.tag

/-- The build behind its plus sign. -/
def buildChars : Option String → List Char
  | none => []
  | some build => '+' :: build.toList

/-- The text of a version. -/
def text : String :=
  String.ofList ((if v.marked then ['v'] else []) ++ v.bodyChars ++ buildChars v.build)

/-- **The precedence of versions.** Mark and build do not count. -/
def precedence (a b : SemanticVersion) : Ordering :=
  (compare a.major.value b.major.value).then <| (compare a.minor.value b.minor.value).then <|
    (compare a.patch.value b.patch.value).then <| tagPrecedence a.tag b.tag

end SemanticVersion

/-! ### The parts of the text of a version -/

section Cutting

variable {separates : Char → Bool} {x : List Char} {c : Char}

theorem cut_append_cons (hx : ∀ d ∈ x, separates d = false) (hc : separates c = true)
    (rest : List Char) : cut separates (x ++ c :: rest) = x :: cut separates rest := by
  induction x with
  | nil => rw [List.nil_append, cut, if_pos hc]
  | cons d x ih =>
    obtain ⟨hd, hx⟩ := List.forall_mem_cons.mp hx
    rw [List.cons_append, cut, hd, ih hx]
    rfl

theorem cut_append_led (hc : separates c = true) : ∀ {parts : List (List Char)} {x : List Char},
    (∀ part ∈ x :: parts, ∀ d ∈ part, separates d = false) →
    cut separates (x ++ led c parts) = x :: parts
  | [], x, h => by
    obtain ⟨hx, -⟩ := List.forall_mem_cons.mp h
    rw [led, List.flatMap_nil, List.append_nil]
    induction x with
    | nil => rfl
    | cons d x ih =>
      obtain ⟨hd, hx'⟩ := List.forall_mem_cons.mp hx
      rw [cut, hd, ih (List.forall_mem_singleton.mpr hx') hx']
      rfl
  | part :: parts, x, h => by
    obtain ⟨hx, hparts⟩ := List.forall_mem_cons.mp h
    change cut separates (x ++ c :: (part ++ led c parts)) = _
    rw [cut_append_cons hx hc, cut_append_led hc hparts]

end Cutting

namespace Version

/-- The characters of an identifier are larger than both separators and the plus sign. -/
theorem Identifier.dot_lt (id : Identifier) : ∀ c ∈ id.chars, '.' < c := by
  have hletter : ∀ {c : Char}, c.isAlpha = true → '.' < c := fun h =>
    lt_trans (by decide) (lt_of_isAlpha h).1
  intro c hc
  cases id with
  | number n => exact dot_lt_of_isDigit (n.digits c hc)
  | word w =>
    rcases List.mem_cons.mp hc with rfl | hc
    · exact hletter w.letter
    · exact (w.alphanumeric c hc).elim hletter dot_lt_of_isDigit

theorem Digits.dot_lt (n : Digits) : ∀ c ∈ n.chars, '.' < c := (Identifier.number n).dot_lt

theorem Digits.ne_nil (n : Digits) : n.chars ≠ [] := List.ne_nil_of_length_pos n.positive

theorem Identifier.ne_nil (id : Identifier) : id.chars ≠ [] := by
  cases id with
  | number n => exact n.ne_nil
  | word w => exact List.cons_ne_nil _ _

theorem not_separates {c : Char} (h : '.' < c) :
    (decide (c = '.') || decide (c = '-')) = false := by
  have hdot : c ≠ '.' := h.ne'
  have hdash : c ≠ '-' := (lt_trans (by decide : '-' < '.') h).ne'
  simp [hdot, hdash]

end Version

namespace SemanticVersion

variable (v : SemanticVersion)

/-- A version has the parts that it is put together from. -/
theorem parts_bodyChars : parts v.bodyChars =
    v.major.chars :: v.minor.chars :: v.patch.chars :: v.tag.map Identifier.chars := by
  have hparts : ∀ part ∈ [v.major.chars, v.minor.chars, v.patch.chars], ∀ c ∈ part,
      (decide (c = '.') || decide (c = '-')) = false := by
    simp only [List.forall_mem_cons]
    exact ⟨fun c hc => not_separates (v.major.dot_lt c hc),
      fun c hc => not_separates (v.minor.dot_lt c hc),
      fun c hc => not_separates (v.patch.dot_lt c hc), nofun⟩
  unfold parts bodyChars
  cases htag : v.tag with
  | nil =>
    rw [tagChars, List.append_nil, intercalate_cons]
    exact cut_append_led (by decide) hparts
  | cons id rest =>
    have hids : ∀ part ∈ id.chars :: rest.map Identifier.chars, ∀ c ∈ part,
        (decide (c = '.') || decide (c = '-')) = false := by
      rw [← List.map_cons]
      intro part hpart c hc
      obtain ⟨other, -, rfl⟩ := List.mem_map.mp hpart
      exact not_separates (other.dot_lt c hc)
    obtain ⟨hmajor, hparts⟩ := List.forall_mem_cons.mp hparts
    obtain ⟨hminor, hparts⟩ := List.forall_mem_cons.mp hparts
    obtain ⟨hpatch, -⟩ := List.forall_mem_cons.mp hparts
    have hbody : ['.'].intercalate [v.major.chars, v.minor.chars, v.patch.chars] ++
        tagChars (id :: rest) = v.major.chars ++ '.' :: (v.minor.chars ++ '.' ::
          (v.patch.chars ++ '-' :: (id.chars ++ led '.' (rest.map Identifier.chars)))) := by
      rw [tagChars, List.map_cons, intercalate_cons, intercalate_cons]
      simp [led]
    rw [hbody, cut_append_cons hmajor (by decide), cut_append_cons hminor (by decide),
      cut_append_cons hpatch (by decide), cut_append_led (by decide) hids, List.map_cons]

theorem plus_lt_of_mem_bodyChars : ∀ c ∈ v.bodyChars, '+' < c := by
  have hid : ∀ id : Identifier, ∀ c ∈ id.chars, '+' < c := fun id c hc =>
    lt_trans (by decide) (id.dot_lt c hc)
  intro c hc
  rcases List.mem_append.mp hc with hc | hc
  · refine forall_mem_intercalate (by decide) ?_ c hc
    simp only [List.forall_mem_cons]
    exact ⟨hid (.number v.major), hid (.number v.minor), hid (.number v.patch),
      List.forall_mem_nil _⟩
  · cases htag : v.tag with
    | nil =>
      rw [htag] at hc
      cases hc
    | cons id rest =>
      rw [htag, tagChars] at hc
      rcases List.mem_cons.mp hc with rfl | hc
      · decide
      · exact forall_mem_intercalate (by decide) (List.forall_mem_map.mpr fun other _ => hid other)
          c hc

theorem core_of_ne {c : Char} (h : c ≠ 'v') (rest : List Char) :
    core (c :: rest) = (c :: rest).takeWhile (· ≠ '+') := by
  unfold core
  split
  · next heq => exact absurd (List.cons.inj heq).1 h
  · rfl

/-- Mark and build are dropped. -/
theorem core_text : core v.text.toList = v.bodyChars := by
  have hbody : (v.bodyChars ++ buildChars v.build).takeWhile (· ≠ '+') = v.bodyChars := by
    have hall : ∀ c ∈ v.bodyChars, decide (c ≠ '+') = true := fun c hc =>
      decide_eq_true (v.plus_lt_of_mem_bodyChars c hc).ne'
    rw [List.takeWhile_append_of_pos hall]
    cases v.build <;> simp [buildChars]
  obtain ⟨c, rest, hmajor⟩ := List.exists_cons_of_ne_nil v.major.ne_nil
  have hhead : c ≠ 'v' := by
    have hdigit : isDigit c = true := v.major.digits c (hmajor ▸ List.mem_cons_self)
    rintro rfl
    exact absurd hdigit (by decide)
  rw [text, String.toList_ofList]
  cases v.marked with
  | true => exact hbody
  | false =>
    have hcons : v.bodyChars ++ buildChars v.build =
        c :: (rest ++ led '.' [v.minor.chars, v.patch.chars] ++ tagChars v.tag ++
          buildChars v.build) := by
      rw [bodyChars, intercalate_cons, hmajor]
      simp
    change core (v.bodyChars ++ buildChars v.build) = _
    rw [hcons, core_of_ne hhead, ← hcons, hbody]

/-- What stands for the stage: the identifiers of the tag, or the mark of a release. -/
def stageParts : List Identifier → List (List Char)
  | [] => [['~']]
  | id :: rest => (id :: rest).map fun other => pad other.chars

theorem paddedParts_text : paddedParts v.text.toList =
    pad v.major.chars :: pad v.minor.chars :: pad v.patch.chars :: stageParts v.tag := by
  have hne : ∀ part ∈ v.major.chars :: v.minor.chars :: v.patch.chars :: v.tag.map Identifier.chars,
      part ≠ [] := by
    simp only [List.forall_mem_cons, List.forall_mem_map]
    exact ⟨v.major.ne_nil, v.minor.ne_nil, v.patch.ne_nil, fun id _ => id.ne_nil⟩
  have hfilter : ∀ {parts : List (List Char)}, (∀ part ∈ parts, part ≠ []) →
      parts.filter (· ≠ []) = parts := fun h =>
    List.filter_eq_self.mpr fun part hpart => decide_eq_true (h part hpart)
  rw [paddedParts, core_text, parts_bodyChars]
  cases htag : v.tag with
  | nil =>
    rw [htag, List.map_nil] at hne
    simp only [List.map_nil, List.length_cons, List.length_nil, if_true]
    rw [List.filter_append, hfilter hne]
    rfl
  | cons id rest =>
    rw [htag] at hne
    have hlength : (v.major.chars :: v.minor.chars :: v.patch.chars ::
        (id :: rest).map Identifier.chars).length ≠ 3 := by simp
    simp only [hlength, if_false]
    rw [hfilter hne, stageParts]
    simp

end SemanticVersion

/-! ### The order of the parts -/

namespace Version

/-- A numeral is filled up to five digits, and keeps its value. -/
theorem Digits.pad_chars (n : Digits) : (pad n.chars).length = 5 ∧
    (∀ c ∈ pad n.chars, isDigit c) ∧ digitsValue (pad n.chars) = n.value := by
  have hpad : pad n.chars = List.replicate (5 - n.chars.length) '0' ++ n.chars :=
    if_pos (List.all_eq_true.mpr n.digits)
  rw [hpad]
  refine ⟨?_, ?_, digitsValue_zeros _ _⟩
  · have := n.short
    rw [List.length_append, List.length_replicate]
    omega
  · intro c hc
    rcases List.mem_append.mp hc with hc | hc
    · rw [List.eq_of_mem_replicate hc]
      decide
    · exact n.digits c hc

theorem Digits.compareChars_pad (m n : Digits) :
    compareChars (pad m.chars) (pad n.chars) = compare m.value n.value := by
  obtain ⟨hlength, hdigits, hvalue⟩ := m.pad_chars
  obtain ⟨hlength', hdigits', hvalue'⟩ := n.pad_chars
  rw [compareChars_digits hdigits hdigits' (hlength.trans hlength'.symm), hvalue, hvalue']

theorem Word.not_isDigit_first (w : Word) : isDigit w.first = false :=
  Bool.eq_false_iff.mpr fun h => (le_nine_of_isDigit h).not_gt (lt_of_isAlpha w.letter).1

/-- A word is left as it is. -/
theorem Word.pad_chars (w : Word) : pad w.chars = w.chars := by
  refine if_neg fun h => ?_
  have hfirst := List.all_eq_true.mp h w.first List.mem_cons_self
  rw [w.not_isDigit_first] at hfirst
  cases hfirst

theorem Digits.exists_head (n : Digits) : ∃ c rest, pad n.chars = c :: rest ∧ isDigit c := by
  obtain ⟨hlength, hdigits, -⟩ := n.pad_chars
  obtain ⟨c, rest, hpad⟩ := List.exists_cons_of_length_eq_add_one hlength
  exact ⟨c, rest, hpad, hdigits c (hpad ▸ List.mem_cons_self)⟩

namespace Identifier

/-- **Padded identifiers are ordered by precedence.** -/
theorem compareChars_pad (a b : Identifier) :
    compareChars (pad a.chars) (pad b.chars) = a.precedence b := by
  -- a digit at the front is smaller than a letter there
  have hfront : ∀ (n : Digits) (w : Word), ∃ c rest, pad n.chars = c :: rest ∧ c < w.first := by
    intro n w
    obtain ⟨c, rest, hpad, hc⟩ := n.exists_head
    exact ⟨c, rest, hpad, lt_of_le_of_lt (le_nine_of_isDigit hc) (lt_of_isAlpha w.letter).1⟩
  cases a with
  | number m =>
    cases b with
    | number n => exact m.compareChars_pad n
    | word w =>
      obtain ⟨c, rest, hpad, hlt⟩ := hfront m w
      rw [chars, chars, w.pad_chars, hpad, Word.chars, precedence, compareChars_cons_cons,
        compare_lt_iff_lt.mpr hlt, Ordering.lt_then]
  | word v =>
    cases b with
    | number n =>
      obtain ⟨c, rest, hpad, hlt⟩ := hfront n v
      rw [chars, chars, v.pad_chars, hpad, Word.chars, precedence, compareChars_cons_cons,
        compare_gt_iff_gt.mpr hlt, Ordering.gt_then]
    | word w =>
      rw [chars, chars, v.pad_chars, w.pad_chars, precedence, compare_ofList]

/-- The mark of a release is larger than every identifier. -/
theorem compareChars_mark (id : Identifier) : compareChars (pad id.chars) ['~'] = .lt := by
  have hfront : ∃ c rest, pad id.chars = c :: rest ∧ c < '~' := by
    cases id with
    | number n =>
      obtain ⟨c, rest, hpad, hc⟩ := n.exists_head
      exact ⟨c, rest, hpad, lt_of_le_of_lt (le_nine_of_isDigit hc) (by decide)⟩
    | word w => exact ⟨w.first, w.rest, w.pad_chars, (lt_of_isAlpha w.letter).2⟩
  obtain ⟨c, rest, hpad, hlt⟩ := hfront
  rw [hpad, compareChars_cons_cons, compare_lt_iff_lt.mpr hlt, Ordering.lt_then]

/-- The characters of a padded identifier are larger than the dash. -/
theorem dash_lt (id : Identifier) : ∀ c ∈ pad id.chars, '-' < c := by
  intro c hc
  cases id with
  | number n => exact lt_trans (by decide) (dot_lt_of_isDigit (n.pad_chars.2.1 c hc))
  | word w =>
    rw [chars, w.pad_chars] at hc
    exact lt_trans (by decide) ((word w).dot_lt c hc)

end Identifier

theorem compareLex_pad : ∀ as bs : List Identifier,
    (as.map fun id => pad id.chars).compareLex compareChars (bs.map fun id => pad id.chars) =
      as.compareLex Identifier.precedence bs
  | [], [] => rfl
  | [], _ :: _ => rfl
  | _ :: _, [] => rfl
  | a :: as, b :: bs => by
    rw [List.map_cons, List.map_cons, List.compareLex_cons_cons, List.compareLex_cons_cons,
      a.compareChars_pad b, compareLex_pad as bs]

end Version

namespace SemanticVersion

theorem compareLex_stageParts (as bs : List Identifier) :
    (stageParts as).compareLex compareChars (stageParts bs) = tagPrecedence as bs := by
  cases as with
  | nil =>
    cases bs with
    | nil => rfl
    | cons b bs =>
      have hmark : compareChars ['~'] (pad b.chars) = .gt :=
        Std.OrientedCmp.gt_iff_lt.mpr b.compareChars_mark
      rw [stageParts, stageParts, List.map_cons, List.compareLex_cons_cons, hmark]
      rfl
  | cons a as =>
    cases bs with
    | nil =>
      rw [stageParts, stageParts, List.map_cons, List.compareLex_cons_cons, a.compareChars_mark]
      rfl
    | cons b bs => exact compareLex_pad (a :: as) (b :: bs)

/-- **Padded versions are ordered by precedence**, and they are the same text if and only if the
precedence is the same. -/
theorem compare_paddedVersion (a b : SemanticVersion) :
    compare (paddedVersion a.text) (paddedVersion b.text) = a.precedence b ∧
    (paddedVersion a.text = paddedVersion b.text ↔ a.precedence b = .eq) := by
  have hdash : ∀ v : SemanticVersion, ∀ part ∈ pad v.major.chars :: pad v.minor.chars ::
      pad v.patch.chars :: stageParts v.tag, ∀ c ∈ part, '-' < c := by
    intro v
    simp only [List.forall_mem_cons]
    refine ⟨(Identifier.number v.major).dash_lt, (Identifier.number v.minor).dash_lt,
      (Identifier.number v.patch).dash_lt, ?_⟩
    cases v.tag with
    | nil => simp [stageParts]
    | cons id rest => exact List.forall_mem_map.mpr fun other _ => other.dash_lt
  have hcompare : compare (paddedVersion a.text) (paddedVersion b.text) = a.precedence b := by
    rw [paddedVersion, paddedVersion, compare_ofList, paddedParts_text, paddedParts_text,
      compareChars_intercalate (hdash a) (hdash b)]
    simp only [List.compareLex_cons_cons, Digits.compareChars_pad, compareLex_stageParts]
    rfl
  exact ⟨hcompare, by rw [← hcompare, compare_eq_iff_eq]⟩

example : compare (paddedVersion "1.0.0-rc.2") (paddedVersion "v1.0.0-rc.11+exp") = .lt := by
  decide

end SemanticVersion
end FeatureFlags
