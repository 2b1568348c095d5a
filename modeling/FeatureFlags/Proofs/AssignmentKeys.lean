/-
# Assignment keys never collide

An assignment is stored under the key of its experiment, two marks and a version. The key of an
experiment may have marks of its own, at its end or anywhere else, and look like an assignment key
itself. But a version is written without marks, so the last ones tell where it starts, and it is
read back from its text (`integer?_toString`). Hence an assignment key can be read in one way only
(`assignmentKey_eq_iff`).

Whether a user is kept out is found by going through the keys of the assignments at hand, and by
reading the versions of those that belong to the experiment. Because keys are read in one way only,
this is the same as asking for the assignment under each version below the least one
(`StickyExperiment.isBlocked_iff`). And assignments of other experiments make no difference,
neither to this nor to the variation that is found (`StickyExperiment.reads_own_only`).

Key definitions: `StickyExperiment.Foreign`.
Key theorems: `assignmentKey_eq_iff`, `StickyExperiment.isBlocked_iff`,
`StickyExperiment.reads_own_only`.
-/
import FeatureFlags.Proofs.Documents

namespace FeatureFlags

/-! ### Numbers are read back from their texts -/

theorem isDigit_of_mem_toDigits {n : Nat} {c : Char} (h : c ∈ Nat.toDigits 10 n) :
    isDigit c = true := by
  have hdigit : c.isDigit = true := Nat.isDigit_of_mem_toDigits (by decide) (by decide) h
  simpa [Char.isDigit, isDigit, Char.le_def] using hdigit

theorem digits?_toDigits (n : Nat) : digits? (Nat.toDigits 10 n) = some n := by
  have hdigits : (Nat.toDigits 10 n).all isDigit = true :=
    List.all_eq_true.mpr fun _ hmem => isDigit_of_mem_toDigits hmem
  rw [digits?, if_pos ⟨Nat.toDigits_ne_nil, hdigits⟩]
  exact congrArg some Nat.ofDigitChars_ten_toDigits

/-- The text of a natural number has no sign. -/
theorem toDigits_ne_cons {sign : Char} (hsign : isDigit sign = false) (n : Nat)
    (rest : List Char) : Nat.toDigits 10 n ≠ sign :: rest := by
  intro hcons
  have hdigit : isDigit sign = true := isDigit_of_mem_toDigits (hcons ▸ List.mem_cons_self)
  rw [hsign] at hdigit
  cases hdigit

theorem natural?_toDigits (n : Nat) : natural? (Nat.toDigits 10 n) = some n := by
  unfold natural?
  split
  · rename_i rest hplus
    exact absurd hplus (toDigits_ne_cons (by decide) n rest)
  · exact digits?_toDigits n

/-- **An integer is read back from its text.** -/
theorem integer?_toString (n : Int) : integer? (toString n).toList = some n := by
  cases n with
  | ofNat m =>
    show integer? (toString m).toList = some (Int.ofNat m)
    rw [Nat.toString_eq_ofList_toDigits, String.toList_ofList]
    unfold integer?
    split
    · rename_i rest hminus
      exact absurd hminus (toDigits_ne_cons (by decide) m rest)
    · rw [natural?_toDigits]
      rfl
  | negSucc m =>
    have htext : (toString (Int.negSucc m)).toList = '-' :: Nat.toDigits 10 (m + 1) := by
      show ("-" ++ toString (m + 1)).toList = '-' :: Nat.toDigits 10 (m + 1)
      simp
    rw [htext, integer?, digits?_toDigits]
    rfl

theorem underscore_notMem_toString (n : Int) : '_' ∉ (toString n).toList := by
  cases n with
  | ofNat m =>
    show '_' ∉ (toString m).toList
    rw [Nat.toString_eq_ofList_toDigits, String.toList_ofList]
    exact Nat.underscore_not_in_toDigits
  | negSucc m =>
    show '_' ∉ ("-" ++ toString (m + 1)).toList
    rw [Nat.toString_eq_ofList_toDigits, String.toList_append, String.toList_ofList]
    simp [Nat.underscore_not_in_toDigits]

/-! ### One way to read a key -/

theorem toList_assignmentKey (experiment : String) (version : Option Int) :
    (assignmentKey experiment version).toList =
      experiment.toList ++ '_' :: '_' :: (toString (version.getD 0)).toList := by
  simp [assignmentKey]

/-- **Assignment keys never collide**: a key tells the experiment and the version, whatever marks
there are in the key of the experiment. -/
theorem assignmentKey_eq_iff {experiment experiment' : String} {version version' : Option Int} :
    assignmentKey experiment version = assignmentKey experiment' version' ↔
      experiment = experiment' ∧ version.getD 0 = version'.getD 0 := by
  constructor
  · intro h
    -- from the end, the first mark is the one before the version
    have hreversed : ∀ (key : String) (n : Option Int), (assignmentKey key n).toList.reverse =
        (toString (n.getD 0)).toList.reverse ++ '_' :: '_' :: key.toList.reverse := fun key n => by
      simp [toList_assignmentKey]
    have hno : ∀ n : Option Int, '_' ∉ (toString (n.getD 0)).toList.reverse := fun n hmem =>
      underscore_notMem_toString _ (List.mem_reverse.mp hmem)
    have hlists := congrArg (fun key => key.toList.reverse) h
    simp only [hreversed] at hlists
    have hle := length_le_of_append_cons (hno version) hlists
    have hge := length_le_of_append_cons (hno version') hlists.symm
    obtain ⟨hversions, hmarks⟩ := List.append_inj hlists (by omega)
    injection hmarks with _ hmarks
    injection hmarks with _ hkeys
    have hread := congrArg integer? (List.reverse_inj.mp hversions)
    rw [integer?_toString, integer?_toString] at hread
    exact ⟨String.toList_inj.mp (List.reverse_inj.mp hkeys), Option.some.inj hread⟩
  · rintro ⟨rfl, hversions⟩
    rw [assignmentKey, assignmentKey, hversions]

/-- **The key of an assignment tells the experiment.** -/
theorem experiment_eq_of_assignmentKey {experiment experiment' : String}
    {version version' : Option Int}
    (h : assignmentKey experiment version = assignmentKey experiment' version') :
    experiment = experiment' :=
  (assignmentKey_eq_iff.mp h).1

namespace StickyExperiment

variable {x : StickyExperiment} {assignments before after : Assignments}

/-- Versions are read off the keys of the experiment, and off no other keys. -/
theorem versionOf?_eq_some_iff {experiment key : String} {version : Nat} :
    versionOf? experiment key = some version ↔ key = assignmentKey experiment (some version) := by
  unfold versionOf?
  rw [Option.filter_eq_some_iff, beq_iff_eq]
  constructor
  · rintro ⟨-, hkey⟩
    exact hkey.symm
  · rintro rfl
    have hrest : (assignmentKey experiment (some version)).toList.drop (experiment.length + 2) =
        Nat.toDigits 10 version := by
      rw [toList_assignmentKey, ← String.length_toList, ← List.drop_drop, List.drop_left]
      show (toString version).toList = Nat.toDigits 10 version
      rw [Nat.toString_eq_ofList_toDigits, String.toList_ofList]
    exact ⟨by rw [hrest, natural?_toDigits], rfl⟩

/-! ### What an experiment reads -/

/-- **Users are kept out by assignments of the experiment under versions that are too low.** -/
theorem isBlocked_iff : x.isBlocked assignments = true ↔
    ∃ version : Nat, (version : Int) < x.minBucketVersion.getD 0 ∧
      (assignments.find? (assignmentKey x.key (some version))).isSome := by
  unfold isBlocked
  rw [List.any_eq_true]
  constructor
  · rintro ⟨key, hmem, hlow⟩
    cases hversion : versionOf? x.key key with
    | none => simp [hversion] at hlow
    | some version =>
      have hlt : (version : Int) < x.minBucketVersion.getD 0 := by simpa [hversion] using hlow
      obtain rfl := versionOf?_eq_some_iff.mp hversion
      exact ⟨version, hlt, Dictionary.mem_keys_iff.mp hmem⟩
  · rintro ⟨version, hlt, hstored⟩
    refine ⟨_, Dictionary.mem_keys_iff.mpr hstored, ?_⟩
    rw [versionOf?_eq_some_iff.mpr rfl]
    exact decide_eq_true hlt

/-- Only assignments of the experiment can keep a user out. -/
theorem isBlocked_congr (h : ∀ version, after.find? (assignmentKey x.key version) =
    before.find? (assignmentKey x.key version)) : x.isBlocked after = x.isBlocked before := by
  rw [Bool.eq_iff_iff, isBlocked_iff, isBlocked_iff]
  simp only [h]

/-- The key is that of an assignment of another experiment. -/
def Foreign (x : StickyExperiment) (key : String) : Prop :=
  ∃ experiment version, experiment ≠ x.key ∧ key = assignmentKey experiment version

theorem Foreign.ne {key : String} (h : x.Foreign key) (version : Option Int) :
    assignmentKey x.key version ≠ key := by
  obtain ⟨experiment, version', hne, rfl⟩ := h
  exact fun hkey => hne (experiment_eq_of_assignmentKey hkey).symm

/-- **An experiment reads its own assignments only.** Two assignment keys are the same exactly if
the experiments are and the versions are, a version that is not given being zero. A user is kept
out exactly if an assignment is stored under the key of the experiment and a version from zero on
that is below the least one. So when assignments of other experiments, whatever their keys, are
added, replaced or taken away, the user is kept out as before, and has the variation as before. -/
theorem reads_own_only :
    (∀ (experiment experiment' : String) (version version' : Option Int),
      assignmentKey experiment version = assignmentKey experiment' version' ↔
        experiment = experiment' ∧ version.getD 0 = version'.getD 0) ∧
    (∀ (x : StickyExperiment) (assignments : Assignments), x.isBlocked assignments = true ↔
      ∃ version : Nat, (version : Int) < x.minBucketVersion.getD 0 ∧
        (assignments.find? (assignmentKey x.key (some version))).isSome) ∧
    ∀ (x : StickyExperiment) (before after : Assignments),
      (∀ key, after.find? key = before.find? key ∨ x.Foreign key) →
        x.isBlocked after = x.isBlocked before ∧ x.assignedIn? after = x.assignedIn? before := by
  refine ⟨fun _ _ _ _ => assignmentKey_eq_iff, fun _ _ => isBlocked_iff, ?_⟩
  intro x before after hothers
  have hown : ∀ version, after.find? (assignmentKey x.key version) =
      before.find? (assignmentKey x.key version) := fun version =>
    (hothers _).resolve_right fun hforeign => hforeign.ne version rfl
  refine ⟨isBlocked_congr hown, ?_⟩
  rw [assignedIn?, assignedIn?, hown]

/-- An experiment that has been started anew, without the users who were assigned before. -/
def restarted : StickyExperiment :=
  { key := "trial_"
    bucketVersion := some 2
    minBucketVersion := some 2
    infos := [⟨some "a", none, none⟩, ⟨some "b", none, none⟩]
    hashAttribute := none
    fallbackAttribute := none }

/-- What a user has been assigned since. -/
def ownAssignments : Assignments := .ofList [("trial___2", "b")]

/-- The user has also been assigned under older versions of experiments with keys much like it. -/
def likeAssignments : Assignments :=
  ((ownAssignments.insert "trial__1" "a").insert "trial____1" "a").insert "trial___0__1" "a"

/-- They do not keep the user out, as an older assignment of the experiment itself would. -/
theorem restarted_reads_own :
    (∀ key, likeAssignments.find? key = ownAssignments.find? key ∨ restarted.Foreign key) ∧
      restarted.isBlocked likeAssignments = false ∧
      restarted.assignedIn? likeAssignments = some 1 ∧
      restarted.isBlocked (likeAssignments.insert "trial___1" "a") = true := by
  have hothers : ∀ key, likeAssignments.find? key = ownAssignments.find? key ∨
      restarted.Foreign key := by
    intro key
    rw [likeAssignments, Dictionary.find?_insert, Dictionary.find?_insert, Dictionary.find?_insert]
    split
    · rename_i hkey
      exact Or.inr ⟨"trial___0", some 1, by decide, hkey.symm.trans (by decide)⟩
    · split
      · rename_i hkey
        exact Or.inr ⟨"trial__", some 1, by decide, hkey.symm.trans (by decide)⟩
      · split
        · rename_i hkey
          exact Or.inr ⟨"trial", some 1, by decide, hkey.symm.trans (by decide)⟩
        · exact Or.inl rfl
  obtain ⟨-, hscan, hsame⟩ := reads_own_only
  obtain ⟨hblocked, hassigned⟩ := hsame restarted ownAssignments likeAssignments hothers
  refine ⟨hothers, ?_, ?_, (hscan _ _).mpr ⟨1, by decide, by decide⟩⟩
  · rw [hblocked]
    decide
  · rw [hassigned]
    decide

end StickyExperiment
end FeatureFlags
