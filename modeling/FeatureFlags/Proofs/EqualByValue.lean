/-
# Equality by value

Values are equal by value if they have the same structure and their numbers the same value as
floats. Large integers are rounded, so it is not obvious that this is an equivalence, nor that
every number is equal to itself: NaN is not. But a number is never NaN (`Number.exists_rank`), so
numbers are compared by their ranks, and the rest follows by induction on the values. Equal values
cannot be told apart by a membership test (`Json.isAmong_congr`).

Fields are compared in key order. Where keys are in order and none is repeated, as in values that
have been read (`Json.sorted_canonicalFields`), this comes to the same as a look at one side only:
there are as many fields on both sides, and each field of the one object is found in the other one
with an equal value (`Json.equivalent_obj_iff`). By counting, no field of the other one is left over.

Key theorems: `Number.exists_rank`, `Json.isAmong_congr`, `Json.equivalent_obj_iff`,
`Json.equal_by_value`.
-/
import FeatureFlags.Json.Equivalence
import FeatureFlags.Proofs.CodecLaws
import FeatureFlags.Proofs.FloatIntegers

namespace FeatureFlags

open Float.Model
open Float.Model.UnpackedFloat (Sign)

/-! ### Numbers -/

/-- What has a sign has a rank. -/
theorem exists_rank_of_sign {u : UnpackedFloat} (h : (sign? u).isSome) :
    ∃ a, rank? u = some a := by
  rcases u with (_ | _) | _ | _ | ⟨(_ | _), m, e, hm⟩
  case notANumber => cases h
  all_goals exact ⟨_, rfl⟩

/-- An integer has a sign. -/
theorem isSome_sign_ofInt (spec : Format) (n : ℤ) : (sign? (UnpackedFloat.ofInt spec n)).isSome := by
  unfold UnpackedFloat.ofInt UnpackedFloat.normalize
  split
  · exact Option.isSome_of_eq_some (sign_roundWithAccuracy ..)
  · rfl
  · exact Option.isSome_of_eq_some (sign_roundWithAccuracy ..)

/-- What has a sign is not packed as NaN. -/
theorem exists_pack_of_sign {u : UnpackedFloat} (h : (sign? u).isSome) :
    ∃ (s : Sign) (exponent : BitVec 11) (mantissa : BitVec 52),
      UnpackedFloat.pack Format.binary64 u =
        UnpackedFloat.packComponents Format.binary64 s exponent mantissa ∧
      (exponent = -1#11 → mantissa = 0#52) := by
  cases u with
  | notANumber => cases h
  | infinity s => exact ⟨s, -1#11, 0#52, rfl, fun _ => rfl⟩
  | zero s => exact ⟨s, 0#11, 0#52, rfl, fun _ => rfl⟩
  | finite s m e hm =>
    unfold UnpackedFloat.pack
    simp only
    split
    · exact ⟨s, -1#11, 0#52, rfl, fun _ => rfl⟩
    · next hroom =>
      split
      · refine ⟨s, _, _, rfl, fun hones => ?_⟩
        have hones := congrArg BitVec.toNat hones
        have hmax : (-1#11).toNat = 2047 := rfl
        rw [hmax, BitVec.toNat_ofNat] at hones
        omega
      · exact ⟨s, 0#11, _, rfl, fun hones => absurd hones (by decide)⟩

/-- What has a sign has one after it was packed. -/
theorem isSome_sign_unpack_pack {u : UnpackedFloat} (h : (sign? u).isSome) :
    (sign? (Float.Model.pack u).unpack).isSome := by
  obtain ⟨s, exponent, mantissa, hpack, hnumber⟩ := exists_pack_of_sign h
  have hunpack : (Float.Model.pack u).unpack = UnpackedFloat.unpack Format.binary64
      (UnpackedFloat.packComponents Format.binary64 s exponent mantissa) :=
    congrArg (UnpackedFloat.unpack Format.binary64) hpack
  rw [hunpack]
  unfold UnpackedFloat.unpack
  simp only [UnpackedFloat.unpackMantissa_packComponents,
    UnpackedFloat.unpackExponent_packComponents]
  split
  · next hones =>
    rw [if_pos (hnumber hones)]
    rfl
  · split
    · split <;> rfl
    · rfl

namespace Number

/-- **No number is NaN.** -/
theorem exists_rank : ∀ n : Number, ∃ a, floatRank? n.toFloat = some a
  | .int n => exists_rank_of_sign (isSome_sign_unpack_pack (isSome_sign_ofInt _ n))
  | .float x => by
    have hfinite : x.value.toModel.unpack.isFinite = true := x.finite
    have hsign : (sign? x.value.toModel.unpack).isSome := by
      cases hunpack : x.value.toModel.unpack with
      | notANumber | infinity =>
        rw [hunpack] at hfinite
        cases hfinite
      | zero | finite => rfl
    exact exists_rank_of_sign hsign

theorem beq_toFloat_iff {m n : Number} :
    (m.toFloat == n.toFloat) = true ↔ floatRank? m.toFloat = floatRank? n.toFloat := by
  obtain ⟨a, ha⟩ := m.exists_rank
  rw [float_beq_iff]
  constructor
  · rintro ⟨b, hm, hn⟩
    exact hm.trans hn.symm
  · exact fun hsame => ⟨a, ha, hsame.symm.trans ha⟩

end Number

namespace Json

/-! ### Values -/

mutual

theorem equivalent_refl : ∀ a : Json, a.equivalent a = true
  | .null => rfl
  | .bool b => beq_self_eq_true b
  | .num _ => Number.beq_toFloat_iff.mpr rfl
  | .str s => beq_self_eq_true s
  | .arr items => equivalentItems_refl items
  | .obj fields => equivalentFields_refl fields
termination_by structural a => a

theorem equivalentItems_refl : ∀ items : List Json, equivalentItems items items = true
  | [] => rfl
  | a :: as => by rw [equivalentItems, equivalent_refl a, equivalentItems_refl as, Bool.and_self]
termination_by structural items => items

theorem equivalentFields_refl : ∀ fields : List (String × Json),
    equivalentFields fields fields = true
  | [] => rfl
  | (k, a) :: as => by
    rw [equivalentFields, equivalent_refl a, equivalentFields_refl as, beq_self_eq_true,
      Bool.and_self, Bool.and_self]
termination_by structural fields => fields

end

mutual

theorem equivalent_comm : ∀ a b : Json, a.equivalent b = b.equivalent a
  | .null, b => by cases b <;> rfl
  | .bool _, b => by
    cases b with
    | bool _ => exact Bool.beq_comm
    | _ => rfl
  | .num _, b => by
    cases b with
    | num _ =>
      rw [equivalent, equivalent, Bool.eq_iff_iff, Number.beq_toFloat_iff, Number.beq_toFloat_iff]
      exact eq_comm
    | _ => rfl
  | .str _, b => by
    cases b with
    | str _ => exact Bool.beq_comm
    | _ => rfl
  | .arr as, b => by
    cases b with
    | arr bs => exact equivalentItems_comm as bs
    | _ => rfl
  | .obj as, b => by
    cases b with
    | obj bs => exact equivalentFields_comm as bs
    | _ => rfl
termination_by structural a => a

theorem equivalentItems_comm : ∀ as bs : List Json, equivalentItems as bs = equivalentItems bs as
  | [], bs => by cases bs <;> rfl
  | a :: as, [] => rfl
  | a :: as, b :: bs => by
    rw [equivalentItems, equivalentItems, equivalent_comm a b, equivalentItems_comm as bs]
termination_by structural as => as

theorem equivalentFields_comm : ∀ as bs : List (String × Json),
    equivalentFields as bs = equivalentFields bs as
  | [], bs => by cases bs <;> rfl
  | (_, _) :: _, [] => rfl
  | (k, a) :: as, (l, b) :: bs => by
    rw [equivalentFields, equivalentFields, equivalent_comm a b, equivalentFields_comm as bs,
      Bool.beq_comm (a := k)]
termination_by structural as => as

end

mutual

/-- Equal values are equal to the same values. -/
theorem equivalent_congr : ∀ {a b : Json}, a.equivalent b = true → ∀ c : Json,
    a.equivalent c = b.equivalent c
  | .null, b, h, c => by
    cases b with
    | null => rfl
    | _ => cases h
  | .bool _, b, h, c => by
    cases b with
    | bool _ => rw [eq_of_beq h]
    | _ => cases h
  | .num _, b, h, c => by
    cases b with
    | num _ =>
      have hrank := Number.beq_toFloat_iff.mp h
      cases c with
      | num _ =>
        rw [equivalent, equivalent, Bool.eq_iff_iff, Number.beq_toFloat_iff,
          Number.beq_toFloat_iff, hrank]
      | _ => rfl
    | _ => cases h
  | .str _, b, h, c => by
    cases b with
    | str _ => rw [eq_of_beq h]
    | _ => cases h
  | .arr as, b, h, c => by
    cases b with
    | arr bs =>
      cases c with
      | arr cs => exact equivalentItems_congr h cs
      | _ => rfl
    | _ => cases h
  | .obj as, b, h, c => by
    cases b with
    | obj bs =>
      cases c with
      | obj cs => exact equivalentFields_congr h cs
      | _ => rfl
    | _ => cases h
termination_by structural a => a

theorem equivalentItems_congr : ∀ {as bs : List Json}, equivalentItems as bs = true →
    ∀ cs : List Json, equivalentItems as cs = equivalentItems bs cs
  | [], [], _, _ => rfl
  | [], _ :: _, h, _ => by cases h
  | _ :: _, [], h, _ => by cases h
  | a :: as, b :: bs, h, cs => by
    obtain ⟨hfirst, hrest⟩ := Bool.and_eq_true_iff.mp h
    cases cs with
    | nil => rfl
    | cons c cs =>
      rw [equivalentItems, equivalentItems, equivalent_congr hfirst c,
        equivalentItems_congr hrest cs]
termination_by structural as => as

theorem equivalentFields_congr : ∀ {as bs : List (String × Json)}, equivalentFields as bs = true →
    ∀ cs : List (String × Json), equivalentFields as cs = equivalentFields bs cs
  | [], [], _, _ => rfl
  | [], _ :: _, h, _ => by cases h
  | (_, _) :: _, [], h, _ => by cases h
  | (k, a) :: as, (l, b) :: bs, h, cs => by
    obtain ⟨hfield, hrest⟩ := Bool.and_eq_true_iff.mp h
    obtain ⟨hkey, hfirst⟩ := Bool.and_eq_true_iff.mp hfield
    cases cs with
    | nil => rfl
    | cons c cs =>
      rw [equivalentFields, equivalentFields, eq_of_beq hkey, equivalent_congr hfirst c.2,
        equivalentFields_congr hrest cs]
termination_by structural as => as

end

/-- **Equality by value is an equivalence.** -/
theorem equivalent_equivalence : Equivalence fun a b : Json => a.equivalent b = true where
  refl := equivalent_refl
  symm h := (equivalent_comm _ _).trans h
  trans h h' := (equivalent_congr h _).trans h'

/-! ### Membership -/

/-- Items are equal if they are in the same places. -/
theorem equivalentItems_iff : ∀ {as bs : List Json}, equivalentItems as bs = true ↔
    List.Forall₂ (fun a b => a.equivalent b = true) as bs
  | [], [] => iff_of_true rfl .nil
  | [], _ :: _ => iff_of_false nofun nofun
  | _ :: _, [] => iff_of_false nofun nofun
  | _ :: _, _ :: _ => by
    rw [equivalentItems, List.forall₂_cons, Bool.and_eq_true, equivalentItems_iff]

/-- A test that does not tell equal values apart holds for an item of the one list if for one of
the other. -/
theorem any_congr {test test' : Json → Bool}
    (htest : ∀ a b : Json, a.equivalent b = true → test a = test' b) {as bs : List Json}
    (h : List.Forall₂ (fun a b => a.equivalent b = true) as bs) : as.any test = bs.any test' := by
  induction h with
  | nil => rfl
  | cons hitem _ ih => rw [List.any_cons, List.any_cons, htest _ _ hitem, ih]

/-- **Equal values are in equal lists.** -/
theorem isAmong_congr {a b : Json} (h : a.equivalent b = true) {values values' : List Json}
    (hvalues : List.Forall₂ (fun v w => v.equivalent w = true) values values') :
    a.isAmong values = b.isAmong values' := by
  have hany : ∀ c d : Json, c.equivalent d = true →
      values.any c.equivalent = values'.any d.equivalent := by
    refine fun c d hcd => any_congr (fun v w hvw => ?_) hvalues
    rw [equivalent_congr hcd v, equivalent_comm d v, equivalent_congr hvw d, equivalent_comm w d]
  cases a with
  | arr as =>
    cases b with
    | arr bs => exact any_congr hany (equivalentItems_iff.mp h)
    | _ => cases h
  | null | bool | num | str | obj =>
    cases b with
    | arr bs => cases h
    | _ => exact hany _ _ h

/-! ### Objects -/

/-- Fields are equal if they have the same names and equal values. -/
theorem equivalentFields_iff : ∀ {as bs : List (String × Json)}, equivalentFields as bs = true ↔
    List.Forall₂ (fun a b => a.1 = b.1 ∧ a.2.equivalent b.2 = true) as bs
  | [], [] => iff_of_true rfl .nil
  | [], _ :: _ => iff_of_false nofun nofun
  | (_, _) :: _, [] => iff_of_false nofun nofun
  | (k, a) :: as, (l, b) :: bs => by
    rw [equivalentFields, List.forall₂_cons, Bool.and_eq_true, Bool.and_eq_true, beq_iff_eq,
      equivalentFields_iff]

/-- The fields of a value in canonical form are in key order. -/
theorem sorted_canonicalFields (fields : List (String × Json)) :
    Entries.Sorted (canonicalFields fields []) := by
  rw [canonicalFields_eq]
  exact Entries.sorted_insertAll _ List.Pairwise.nil

/-- No key is left over on the other side if there are as many. -/
theorem keys_eq_of_subset {as bs : Entries Json} (has : as.Sorted) (hbs : bs.Sorted)
    (hlength : as.length = bs.length) (hsubset : as.map (·.1) ⊆ bs.map (·.1)) :
    as.map (·.1) = bs.map (·.1) := by
  have has' : (as.map (·.1)).Pairwise (· < ·) := List.pairwise_map.mpr has
  have hbs' : (bs.map (·.1)).Pairwise (· < ·) := List.pairwise_map.mpr hbs
  have hperm : (as.map (·.1)).Perm (bs.map (·.1)) := by
    refine (List.subperm_of_subset has'.nodup hsubset).perm_of_length_le ?_
    rw [List.length_map, List.length_map, hlength]
  exact hperm.eq_of_pairwise (fun k l _ _ hkl hlk => absurd hlk (lt_asymm hkl)) has' hbs'

/-- **Objects are equal if they have as many fields, and each field of the one is found in the other
with an equal value.** -/
theorem equivalent_obj_iff {as bs : Entries Json} (has : as.Sorted) (hbs : bs.Sorted) :
    (obj as).equivalent (obj bs) = true ↔ as.length = bs.length ∧
      ∀ field ∈ as, ∃ value, bs.find? field.1 = some value ∧
        field.2.equivalent value = true := by
  rw [equivalent, equivalentFields_iff, List.forall₂_iff_get]
  refine and_congr_right fun hlength => ⟨?_, ?_⟩
  · rintro hfields field hfield
    obtain ⟨⟨i, hi⟩, rfl⟩ := List.get_of_mem hfield
    have hi' : i < bs.length := hlength ▸ hi
    obtain ⟨hkey, hvalue⟩ := hfields i hi hi'
    refine ⟨(bs.get ⟨i, hi'⟩).2, ?_, hvalue⟩
    rw [hkey]
    exact Entries.find?_of_mem hbs (List.get_mem bs ⟨i, hi'⟩)
  · intro hfound i hi hi'
    have hsubset : as.map (·.1) ⊆ bs.map (·.1) := by
      intro key hkey
      obtain ⟨field, hfield, rfl⟩ := List.mem_map.mp hkey
      obtain ⟨value, hvalue, -⟩ := hfound field hfield
      exact Entries.mem_keys_of_find? hvalue
    have hkeys := keys_eq_of_subset has hbs hlength hsubset
    have hkey : (as.get ⟨i, hi⟩).1 = (bs.get ⟨i, hi'⟩).1 := by
      have hsame := congrArg (fun keys => keys[i]?) hkeys
      simpa [hi, hi'] using hsame
    refine ⟨hkey, ?_⟩
    -- the value that is found is the one in the same place
    obtain ⟨value, hvalue, hequal⟩ := hfound _ (List.get_mem as ⟨i, hi⟩)
    rw [hkey, Entries.find?_of_mem hbs (List.get_mem bs ⟨i, hi'⟩)] at hvalue
    cases hvalue
    exact hequal

/-- **Equality by value is an equivalence, and membership does not tell equal values apart**, neither
the value that is looked for nor those in the list. Objects, whose keys are in order, are equal if
they have as many fields and each field of the one is found in the other with an equal value. -/
theorem equal_by_value :
    (Equivalence fun a b : Json => a.equivalent b = true) ∧
    (∀ (a b : Json) (values values' : List Json), a.equivalent b = true →
      List.Forall₂ (fun v w => v.equivalent w = true) values values' →
      a.isAmong values = b.isAmong values') ∧
    ∀ as bs : Entries Json, as.Sorted → bs.Sorted →
      ((obj as).equivalent (obj bs) = true ↔ as.length = bs.length ∧
        ∀ field ∈ as, ∃ value, bs.find? field.1 = some value ∧ field.2.equivalent value = true) :=
  ⟨equivalent_equivalence, fun _ _ _ _ h hvalues => isAmong_congr h hvalues,
    fun _ _ has hbs => equivalent_obj_iff has hbs⟩

/-- One, spelled as a float. -/
def floatOne : Json :=
  .num (.float ⟨nearestFloat 1, isFinite_of_floatInteger? (floatInteger?_nearestFloat (by decide))⟩)

/-- A list with `[1]` in a field has the object with `[1.0]` in the field, because it has the one
with `[1]`. -/
theorem isAmong_floatOne :
    (obj [("a", .arr [floatOne])]).isAmong [.null, obj [("a", .arr [int 1])]] = true := by
  obtain ⟨hequivalence, hamong, hobjects⟩ := equal_by_value
  have hfloat : Entries.Sorted [("a", Json.arr [floatOne])] :=
    sorted_canonicalFields [("a", .arr [floatOne])]
  have hint : Entries.Sorted [("a", Json.arr [int 1])] :=
    sorted_canonicalFields [("a", .arr [int 1])]
  have hitems : (Json.arr [floatOne]).equivalent (.arr [int 1]) = true := by decide +kernel
  have hequal : (obj [("a", .arr [floatOne])]).equivalent (obj [("a", .arr [int 1])]) = true := by
    refine (hobjects _ _ hfloat hint).mpr ⟨rfl, fun field hfield => ?_⟩
    rw [List.mem_singleton.mp hfield]
    exact ⟨_, rfl, hitems⟩
  rw [hamong _ _ _ _ hequal (List.forall₂_same.mpr fun v _ => hequivalence.refl v)]
  decide +kernel

/-- Integers that are rounded to the same float are equal. -/
example : (int (2 ^ 53)).equivalent (int (2 ^ 53 + 1)) = true := by decide +kernel

end Json
end FeatureFlags
