/-
# Assignments settle

When experiments are run for a user, what is looked up for them later may differ from what is
looked up now. But it only differs in one way: an experiment that had no stored assignment has
one, and it is the variation that the user was to have by place anyway (`Setting.Later`). So
the decision on each experiment is the same later, but for the reason of it
(`Setting.decision_later`), and what was stored once stays.

This needs three things (`Setting.Steady`). The documents are truthful. An experiment that
assigns the user may be found to have done so: there is such a variation, its key means no other
one, and the version is not one that blocks those who were assigned under it
(`Experiment.Settles`). And experiments with the same key are the same, apart from the values of
their variations.

Key definitions: `Experiment.shape`, `Experiment.Settles`, `Setting.Steady`, `Setting.Later`,
`Setting.Leads`.
Key theorems: `Setting.decision_later`, `Setting.Steady.later`, `Setting.leads_conclude`.
-/
import FeatureFlags.Proofs.Lookup

namespace FeatureFlags

/-- The same decision, but that it may be made because of a stored assignment now. -/
def Decision.Again (d d' : Decision) : Prop :=
  d' = d ∨ ∃ n bucket, d = .assigned n bucket false ∧ d' = .assigned n bucket true

/-- The same result, but that it may be so because of a stored assignment now. -/
def ExperimentResult.Matches {V : Type} (r r' : ExperimentResult V) : Prop :=
  r' = { r with stickyUsed := r'.stickyUsed }

/-! ### What decides where a user is placed -/

namespace Experiment

variable {V : Type} {e : Experiment V}

/-- The experiment without the values of its variations and without names. -/
def shape (e : Experiment V) : Experiment Unit :=
  { e.withVariations (e.variations.map fun _ => ()) with name := none, phase := none }

/-- Users who are assigned to the variation can be found to be. -/
structure Settles (e : Experiment V) (n : Nat) : Prop where
  within : n < e.variations.length
  /-- No other variation has its key. -/
  key : ∀ m, e.sticky.variationWithKey? (e.variationKey n) = some m → m = n
  /-- Nobody is blocked because of an assignment under the current version. -/
  version : ¬ (0 ≤ e.bucketVersion.getD 0 ∧ e.bucketVersion.getD 0 < e.minBucketVersion.getD 0)

/-- A variation that has a key has that one. -/
theorem variationKey_of_variationWithKey? {key : String} {n : Nat}
    (h : e.sticky.variationWithKey? key = some n) : e.variationKey n = key := by
  obtain ⟨hn, hkey, -⟩ := List.findIdx?_eq_some_iff_getElem.mp h
  have hinfo : e.info? n = e.sticky.infos[n]? := by
    unfold info? Experiment.sticky
    cases e.infos <;> rfl
  rw [variationKey, hinfo, List.getElem?_eq_getElem hn, Option.bind_some, eq_of_beq hkey,
    Option.getD_some]

end Experiment

namespace Setting

variable {V : Type} {s : Setting}

theorem place_shape (s : Setting) (e : Experiment V) (sticky : StickyVariation) :
    s.place e.shape sticky = s.place e sticky := by
  have hranges : e.shape.bucketRanges = e.bucketRanges := by
    simp [Experiment.bucketRanges, Experiment.shape, Experiment.withVariations]
  unfold place Experiment.chosen?
  rw [hranges]
  rfl

/-- What is stored for the user under the key of the experiment, in the document that the
experiment stores assignments in. -/
def ownAssignment? (s : Setting) (docs : StickyDocuments) (e : Experiment V) : Option String :=
  (docs.assignmentsOf (s.identityFor e)).find? (assignmentKey e.key e.bucketVersion)

/-- The variation that the user is to have, if the experiment is for the user. -/
def Takes (s : Setting) (docs : StickyDocuments) (e : Experiment V) (n : Nat) : Prop :=
  ∃ bucket stored, s.place e (s.stickyVariation e docs) = .assigned n bucket stored

/-- A stored variation has a key, which means it. -/
theorem variationWithKey?_of_stickyVariation {docs : StickyDocuments} {e : Experiment V} {n : Nat}
    (h : s.stickyVariation e docs = .assigned n) :
    e.sticky.variationWithKey? (e.variationKey n) = some n := by
  obtain ⟨-, key, hkey⟩ := exists_key_of_stickyVariation h
  rw [Experiment.variationKey_of_variationWithKey? hkey, hkey]

/-! ### Experiments that settle -/

/-- What the experiments `kept` are like, which may store assignments, where the documents
`docs` are at hand. -/
structure Steady (s : Setting) (kept : Experiment → Prop) (docs : StickyDocuments) : Prop where
  /-- Somebody else's documents are looked for where there is a fallback attribute. -/
  truthful : ∀ x, kept x → (Identity.named x.fallbackAttribute).isSome → docs.Truthful s.attributes
  settles : ∀ x, kept x → ∀ n bucket stored, s.decision docs x = .assigned n bucket stored →
    x.Settles n
  shared : ∀ x y, kept x → kept y → x.key = y.key → x.shape = y.shape

/-- What is found for an experiment now, and what may be found later: the same, or the variation
by place, where there was no stored one before. -/
def Becomes (s : Setting) (x : Experiment) (sticky sticky' : StickyVariation) : Prop :=
  sticky' = sticky ∨ ∃ n bucket, sticky = .unassigned ∧
    s.place x .unassigned = .assigned n bucket false ∧
    (x.admits (s.identityFor x) s.attributes ∧ x.conditionHolds s.attributes s.savedGroups) ∧
    sticky' = .assigned n

/-- Documents that there may be later, when some of the experiments `kept` have been run. -/
structure Later (s : Setting) (kept : Experiment → Prop) (docs docs' : StickyDocuments) : Prop where
  truthful : docs.Truthful s.attributes → docs'.Truthful s.attributes
  found : ∀ x, kept x → s.Becomes x (s.stickyVariation x docs) (s.stickyVariation x docs')
  /-- What has been stored stays. -/
  stored : ∀ x, kept x → ∀ n, s.Takes docs x n → s.ownAssignment? docs x = some (x.variationKey n) →
    s.ownAssignment? docs' x = some (x.variationKey n)

/-- Documents that running some of the experiments `kept` leads to: for others nothing
changes. -/
structure Leads (s : Setting) (kept : Experiment → Prop) (docs docs' : StickyDocuments) : Prop
    extends s.Later kept docs docs' where
  others : ∀ y : Experiment, (∀ x, kept x → x.key ≠ y.key) →
    ((Identity.named y.fallbackAttribute).isSome → docs.Truthful s.attributes) →
    s.stickyVariation y docs' = s.stickyVariation y docs

variable {kept : Experiment → Prop} {docs docs' docs'' : StickyDocuments}

theorem Later.refl (docs : StickyDocuments) : s.Later kept docs docs :=
  ⟨id, fun _ _ => Or.inl rfl, fun _ _ _ _ h => h⟩

theorem Leads.refl (docs : StickyDocuments) : s.Leads kept docs docs :=
  { Later.refl docs with others := fun _ _ _ => rfl }

/-- The place of a stored variation is that of the same variation by chance. -/
theorem place_assigned {x : Experiment V} {n : Nat} {bucket : Float} {stored : Bool}
    (h : s.place x .unassigned = .assigned n bucket stored) :
    s.place x (.assigned n) = .assigned n bucket true := by
  obtain ⟨hbucket, -, -, hforce, hqa, -⟩ := place_eq_assigned_iff.mp h
  exact place_eq_assigned_iff.mpr ⟨hbucket, StickyVariation.noConfusion, rfl, hforce, hqa, rfl⟩

theorem Later.takes (h : s.Later kept docs docs') {x : Experiment} (hx : kept x) {n : Nat}
    (htakes : s.Takes docs x n) : s.Takes docs' x n := by
  obtain ⟨bucket, stored, hplace⟩ := htakes
  rcases h.found x hx with hsame | ⟨m, bucket', hnone, hchance, -, hfound⟩
  · exact ⟨bucket, stored, hsame ▸ hplace⟩
  · rw [hnone, hchance] at hplace
    cases hplace
    exact ⟨bucket, true, hfound ▸ place_assigned hchance⟩

theorem Later.trans (h : s.Later kept docs docs') (h' : s.Later kept docs' docs'') :
    s.Later kept docs docs'' where
  truthful htrue := h'.truthful (h.truthful htrue)
  found x hx := by
    rcases h.found x hx with hsame | ⟨n, bucket, hnone, hchance, hmeant, hfound⟩
    · rw [← hsame]
      exact h'.found x hx
    · right
      refine ⟨n, bucket, hnone, hchance, hmeant, ?_⟩
      rcases h'.found x hx with hsame | ⟨-, -, hnone', -⟩
      · rw [hsame, hfound]
      · rw [hfound] at hnone'
        cases hnone'
  stored x hx n htakes hown := h'.stored x hx n (h.takes hx htakes) (h.stored x hx n htakes hown)

theorem Leads.trans (h : s.Leads kept docs docs') (h' : s.Leads kept docs' docs'') :
    s.Leads kept docs docs'' :=
  { h.toLater.trans h'.toLater with
    others := fun y hy htrue =>
      (h'.others y hy fun hnamed => h.truthful (htrue hnamed)).trans (h.others y hy htrue) }

/-! ### Experiments of the same shape -/

section Shape

variable {x z : Experiment} {n : Nat} {docs : StickyDocuments}

theorem stickyVariation_of_shape (h : x.shape = z.shape) (docs : StickyDocuments) :
    s.stickyVariation x docs = s.stickyVariation z docs := by
  show s.stickyVariation x.shape docs = s.stickyVariation z.shape docs
  rw [h]

theorem ownAssignment?_of_shape (h : x.shape = z.shape) (docs : StickyDocuments) :
    s.ownAssignment? docs x = s.ownAssignment? docs z := by
  show s.ownAssignment? docs x.shape = s.ownAssignment? docs z.shape
  rw [h]

theorem place_of_shape (h : x.shape = z.shape) : s.place x = s.place z := by
  funext sticky
  rw [← place_shape, h, place_shape]

theorem variationKey_of_shape (h : x.shape = z.shape) : x.variationKey = z.variationKey := by
  show x.shape.variationKey = z.shape.variationKey
  rw [h]

theorem takes_of_shape (h : x.shape = z.shape) : s.Takes docs x n ↔ s.Takes docs z n := by
  unfold Takes
  rw [stickyVariation_of_shape h, place_of_shape h]

theorem becomes_of_shape (h : x.shape = z.shape) {sticky sticky' : StickyVariation} :
    s.Becomes x sticky sticky' ↔ s.Becomes z sticky sticky' := by
  have htargeted : (x.admits (s.identityFor x) s.attributes ∧
        x.conditionHolds s.attributes s.savedGroups) ↔
      z.admits (s.identityFor z) s.attributes ∧ z.conditionHolds s.attributes s.savedGroups := by
    show (x.shape.admits (s.identityFor x.shape) s.attributes ∧
      x.shape.conditionHolds s.attributes s.savedGroups) ↔ _
    rw [h]
    rfl
  unfold Becomes
  rw [place_of_shape h, htargeted]

end Shape

/-! ### Decisions -/

/-- What is stored is found, or else it is the variation by place; where assignments are not
stored there is nothing to be found. -/
theorem Later.becomes (h : s.Later kept docs docs') {x : Experiment}
    (hx : s.sticks x.disableSticky = true → kept x) :
    s.Becomes x (s.stickyVariation x docs) (s.stickyVariation x docs') := by
  by_cases hsticks : s.sticks x.disableSticky = true
  · exact h.found x (hx hsticks)
  · left
    unfold stickyVariation
    rw [if_neg hsticks, if_neg hsticks]

/-- **The decision is the same later**, but that it may be made because of a stored assignment
then. -/
theorem decision_later (h : s.Later kept docs docs') {x : Experiment}
    (hx : s.sticks x.disableSticky = true → kept x) :
    (s.decision docs x).Again (s.decision docs' x) := by
  cases hearly : s.early? x with
  | some early => exact Or.inl (by simp only [decision, hearly])
  | none =>
    rcases h.becomes hx with hsame | ⟨n, bucket, hnone, hchance, hmeant, hfound⟩
    · exact Or.inl (decision_of_stickyVariation hsame)
    · have hbefore : s.decision docs x = .assigned n bucket false := by
        simp only [decision, hearly, Meant, hmeant, hnone, hchance, and_self, or_true, ↓reduceIte]
      have hafter : s.decision docs' x = .assigned n bucket true := by
        have hstored : s.Meant docs' x := Or.inl (by rw [hfound]; rfl)
        simp only [decision, hearly, hstored, hfound, place_assigned hchance, ↓reduceIte]
      exact Or.inr ⟨n, bucket, hbefore, hafter⟩

/-- What experiments are like does not change. -/
theorem Steady.later (hs : s.Steady kept docs) (h : s.Later kept docs docs') :
    s.Steady kept docs' where
  truthful x hx hnamed := h.truthful (hs.truthful x hx hnamed)
  settles x hx n bucket stored hd' := by
    rcases decision_later h fun _ => hx with hsame | ⟨m, bucket', hd, hagain⟩
    · exact hs.settles x hx n bucket stored (hsame ▸ hd')
    · rw [hagain] at hd'
      cases hd'
      exact hs.settles x hx n bucket false hd
  shared := hs.shared

theorem Steady.mono {fewer : Experiment → Prop} (hs : s.Steady kept docs)
    (h : ∀ x, fewer x → kept x) : s.Steady fewer docs where
  truthful x hx := hs.truthful x (h x hx)
  settles x hx := hs.settles x (h x hx)
  shared x y hx hy := hs.shared x y (h x hx) (h y hy)

theorem Later.mono {fewer : Experiment → Prop} (hl : s.Later kept docs docs')
    (h : ∀ x, fewer x → kept x) : s.Later fewer docs docs' where
  truthful := hl.truthful
  found x hx := hl.found x (h x hx)
  stored x hx := hl.stored x (h x hx)

/-! ### Storing an assignment -/

/-- The documents with an assignment of the user stored. -/
def withAssignment (s : Setting) (docs : StickyDocuments) (e : Experiment V) (n : Nat) :
    StickyDocuments :=
  docs.save (docs.updated (s.identityFor e) (assignmentKey e.key e.bucketVersion)
    (e.variationKey n))

variable {x z : Experiment} {n : Nat}

/-- An assignment does not matter for experiments with other keys. -/
theorem stickyVariation_withAssignment_of_ne
    (htrue : (Identity.named x.fallbackAttribute).isSome → docs.Truthful s.attributes)
    (hkey : x.key ≠ z.key) (n : Nat) :
    s.stickyVariation x (s.withAssignment docs z n) = s.stickyVariation x docs :=
  stickyVariation_save_of_ne (fun hnamed => (htrue hnamed).truthfulFor (s.value_identityFor z))
    (s.value_identityFor z) hkey z.bucketVersion (z.variationKey n)

theorem ownAssignment?_withAssignment_of_ne (hkey : x.key ≠ z.key) (n : Nat) :
    s.ownAssignment? (s.withAssignment docs z n) x = s.ownAssignment? docs x := by
  unfold ownAssignment? withAssignment
  rw [StickyDocuments.find?_save_updated, if_neg]
  exact fun hboth => hkey (experiment_eq_of_assignmentKey hboth.2).symm

theorem ownAssignment?_withAssignment (s : Setting) (docs : StickyDocuments) (z : Experiment)
    (n : Nat) : s.ownAssignment? (s.withAssignment docs z n) z = some (z.variationKey n) := by
  unfold ownAssignment? withAssignment
  rw [StickyDocuments.find?_save_updated, if_pos ⟨rfl, rfl⟩]

/-- After an assignment is stored the look-up finds what it found before, or the variation that
the stored key means. -/
theorem stickyVariation_withAssignment
    (htrue : (Identity.named z.fallbackAttribute).isSome → docs.Truthful s.attributes)
    (hversion : ¬ (0 ≤ z.bucketVersion.getD 0 ∧
      z.bucketVersion.getD 0 < z.minBucketVersion.getD 0))
    (hblocked : s.stickyVariation z docs ≠ .blocked) (n : Nat) :
    s.stickyVariation z (s.withAssignment docs z n) = s.stickyVariation z docs ∨
      s.stickyVariation z (s.withAssignment docs z n) =
        ((z.sticky.variationWithKey? (z.variationKey n)).map StickyVariation.assigned).getD
          .unassigned := by
  unfold stickyVariation at hblocked ⊢
  by_cases hsticks : s.sticks z.disableSticky = true
  · simp only [hsticks, ↓reduceIte] at hblocked ⊢
    exact StickyExperiment.lookup_cases hblocked hversion fun key =>
      StickyDocuments.find?_assignmentsFor_save
        (fun hnamed => (htrue hnamed).truthfulFor (s.value_identityFor z)) (s.value_identityFor z)
        _ _ _ key
  · left
    rw [if_neg hsticks, if_neg hsticks]

/-- **Storing the variation that a user is assigned to settles it**: it is found from then on, or
nothing is found still. -/
theorem becomes_withAssignment
    (htrue : (Identity.named z.fallbackAttribute).isSome → docs.Truthful s.attributes)
    (hsettles : z.Settles n) {bucket : Float} {stored : Bool}
    (hd : s.decision docs z = .assigned n bucket stored) :
    s.Becomes z (s.stickyVariation z docs) (s.stickyVariation z (s.withAssignment docs z n)) := by
  obtain ⟨-, hmeant, hplace⟩ := decision_eq_assigned hd
  obtain ⟨-, hblocked, hchosen, -, -, hstored⟩ := place_eq_assigned_iff.mp hplace
  rcases stickyVariation_withAssignment htrue hsettles.version hblocked n with hsame | hfound
  · exact Or.inl hsame
  · rw [hfound]
    cases hbefore : s.stickyVariation z docs with
    | blocked => exact absurd hbefore hblocked
    | assigned m =>
      -- the user is assigned to the stored variation, so its key is stored again
      rw [hbefore] at hchosen
      obtain rfl : m = n := Option.some.inj hchosen
      rw [variationWithKey?_of_stickyVariation hbefore]
      exact Or.inl rfl
    | unassigned =>
      rw [hbefore] at hplace hstored
      subst hstored
      rw [Meant, hbefore] at hmeant
      have htargeted := hmeant.resolve_left Bool.false_ne_true
      cases hmeans : z.sticky.variationWithKey? (z.variationKey n) with
      | none => exact Or.inl rfl
      | some m => exact Or.inr ⟨n, bucket, rfl, hplace, htargeted, hsettles.key m hmeans ▸ rfl⟩

/-- **Storing an assignment of one of the experiments** settles it for all that have its key, and
changes nothing for others. -/
theorem leads_withAssignment (hs : s.Steady kept docs) (hz : kept z) {bucket : Float}
    {stored : Bool} (hd : s.decision docs z = .assigned n bucket stored) :
    s.Leads kept docs (s.withAssignment docs z n) where
  truthful htrue := htrue.save (s.value_identityFor z) _ _
  found x hx := by
    by_cases hkey : x.key = z.key
    · have hshape := hs.shared x z hx hz hkey
      rw [stickyVariation_of_shape hshape, stickyVariation_of_shape hshape,
        becomes_of_shape hshape]
      exact becomes_withAssignment (hs.truthful z hz) (hs.settles z hz _ _ _ hd) hd
    · exact Or.inl (stickyVariation_withAssignment_of_ne (hs.truthful x hx) hkey n)
  stored x hx m htakes' hown := by
    by_cases hkey : x.key = z.key
    · have hshape := hs.shared x z hx hz hkey
      obtain ⟨-, -, hplace⟩ := decision_eq_assigned hd
      obtain ⟨bucket', stored', hplace'⟩ := (takes_of_shape hshape).mp htakes'
      rw [hplace] at hplace'
      cases hplace'
      rw [ownAssignment?_of_shape hshape, variationKey_of_shape hshape]
      exact ownAssignment?_withAssignment s docs z n
    · rw [ownAssignment?_withAssignment_of_ne hkey]
      exact hown
  others y hy htrue := stickyVariation_withAssignment_of_ne htrue (hy z hz).symm n

/-! ### What follows from a decision -/

variable {p q : Progress}

/-- **What follows from the decision on one of the experiments** leads to documents where the
assignment is stored, if there is one. -/
theorem leads_conclude (hs : s.Steady kept p.documents)
    (hz : s.sticks z.disableSticky = true → kept z) (feature : Option String) {d : Decision}
    (hd : ∀ n bucket stored, d = .assigned n bucket stored → s.decision p.documents z = d) :
    s.Leads kept p.documents (s.conclude z feature d p).2.documents ∧
      ∀ n bucket stored, d = .assigned n bucket stored → s.sticks z.disableSticky = true →
        n < z.variations.length ∧
        s.ownAssignment? (s.conclude z feature d p).2.documents z = some (z.variationKey n) := by
  cases d with
  | excluded => exact ⟨.refl _, fun _ _ _ hne => Decision.noConfusion hne⟩
  | blocked => exact ⟨.refl _, fun _ _ _ hne => Decision.noConfusion hne⟩
  | forced variation => exact ⟨.refl _, fun _ _ _ hne => Decision.noConfusion hne⟩
  | assigned n bucket stored =>
    have hdecision := hd n bucket stored rfl
    rw [conclude_assigned]
    simp only [Eval.documents_track, keep]
    by_cases hsticks : s.sticks z.disableSticky = true
    · have hn := (hs.settles z (hz hsticks) n bucket stored hdecision).within
      rw [if_pos hsticks, key_resultOf_assigned hn]
      by_cases hknown : s.ownAssignment? p.documents z = some (z.variationKey n)
      · rw [Eval.assign_of_known hknown]
        refine ⟨.refl _, fun m _ _ hsame _ => ?_⟩
        cases hsame
        exact ⟨hn, hknown⟩
      · rw [Eval.assign_of_new hknown]
        refine ⟨leads_withAssignment hs (hz hsticks) hdecision, ?_⟩
        intro m _ _ hsame _
        cases hsame
        exact ⟨hn, ownAssignment?_withAssignment s p.documents z n⟩
    · rw [if_neg hsticks]
      exact ⟨.refl _, fun _ _ _ _ hsticks' => absurd hsticks' hsticks⟩

/-- **The same decision means the same once more**, and nothing is stored any more, if it was
stored the first time. -/
theorem conclude_again {feature : Option String} {d d' : Decision} (hagain : d.Again d')
    (hown : ∀ n bucket stored, d = .assigned n bucket stored → s.sticks z.disableSticky = true →
      n < z.variations.length ∧ s.ownAssignment? q.documents z = some (z.variationKey n)) :
    (s.resultOf z feature d).Matches (s.conclude z feature d' q).1 ∧
      q.SameStored (s.conclude z feature d' q).2 := by
  have hmatches : (s.resultOf z feature d).Matches (s.resultOf z feature d') := by
    rcases hagain with rfl | ⟨n, bucket, rfl, rfl⟩
    · rfl
    · rfl
  rw [conclude_fst]
  refine ⟨hmatches, ?_⟩
  cases d' with
  | excluded => exact .refl q
  | blocked => exact .refl q
  | forced variation => exact .refl q
  | assigned n bucket stored =>
    obtain ⟨stored', rfl⟩ : ∃ stored', d = .assigned n bucket stored' := by
      rcases hagain with rfl | ⟨m, bucket', rfl, hsame⟩
      · exact ⟨stored, rfl⟩
      · cases hsame
        exact ⟨false, rfl⟩
    have hkeep : s.keep z (s.resultOf z feature (.assigned n bucket stored)) q = q := by
      unfold keep
      split
      · rename_i hsticks
        obtain ⟨hn, hknown⟩ := hown n bucket stored' rfl hsticks
        rw [key_resultOf_assigned hn, Eval.assign_of_known hknown]
      · rfl
    rw [conclude_assigned]
    simp only [hkeep]
    exact ⟨Eval.documents_track _ _ _, Eval.saved_track _ _ _⟩

end Setting
end FeatureFlags
