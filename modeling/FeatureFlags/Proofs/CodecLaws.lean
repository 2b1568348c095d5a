/-
# What is written is read back

A codec is lawful if a value that has been read survives being written and read again. The
codecs of simple values are, and so are lists, dictionaries and optional values over lawful ones
(`Codec.list_lawful`, `Codec.dictionary_lawful`, `Codec.orNull_lawful`).

For a value that may be `null` more is needed. What is read from something else must not be
written as `null`, or it would be taken for nothing afterwards (`Codec.Present`).

JSON values as such are brought into canonical form when they are read. That the form does not
change when it is read again is the law for them (`Json.canonical_canonical`): the fields of an
object are in key order then, and nothing is said twice.

Key definitions: `Codec.Present`.
Key theorems: `Json.canonical_canonical`, `Codec.list_lawful`, `Codec.dictionary_lawful`,
`Codec.orNull_lawful`, `Codec.float_lawful`.
-/
import FeatureFlags.Wire.Codec

namespace FeatureFlags

/-! ### Entries in key order -/

namespace Entries

variable {α : Type}

/-- Storing the pairs of a list finds the first of them, if they are in key order already. -/
theorem find?_ofList {entries : Entries α} (h : entries.Sorted) (key : String) :
    (ofList entries).find? key = entries.find? key := by
  rw [ofList, find?_insertAll h]
  exact Option.or_none

/-- Entries in key order stay as they are. -/
theorem ofList_of_sorted {entries : Entries α} (h : entries.Sorted) : ofList entries = entries :=
  eq_of_find?_eq (sorted_insertAll entries List.Pairwise.nil) h (find?_ofList h)

theorem mem_of_mem_ofList {pairs : List (String × α)} {pair : String × α}
    (h : pair ∈ ofList pairs) : pair ∈ pairs := by
  have hsorted : (ofList pairs).Sorted := sorted_insertAll pairs List.Pairwise.nil
  rcases mem_or_find?_of_insertAll (find?_of_mem hsorted h) with hmem | hnone
  · exact hmem
  · cases hnone

end Entries

namespace Dictionary

/-- A dictionary is made of its pairs. -/
theorem ofList_toList {α : Type} (dict : Dictionary α) : ofList dict.toList = dict :=
  ext_find? (Entries.find?_ofList dict.sorted)

end Dictionary

/-! ### The canonical form -/

namespace Json

theorem canonicalFields_eq : ∀ (fields : List (String × Json)) (acc : Entries Json),
    canonicalFields fields acc =
      Entries.insertAll (fields.map fun field => (field.1, field.2.canonical)) acc
  | [], _ => rfl
  | (key, value) :: rest, acc => by
    rw [canonicalFields, canonicalFields_eq rest]
    rfl

theorem canonicalItems_eq : ∀ items : List Json, canonicalItems items = items.map canonical
  | [] => rfl
  | item :: rest => by rw [canonicalItems, canonicalItems_eq rest, List.map_cons]

/-- Fields in key order whose values are in canonical form stay as they are. -/
theorem canonicalFields_of_sorted {fields : Entries Json} (hsorted : fields.Sorted)
    (hvalues : ∀ field ∈ fields, field.2.canonical = field.2) :
    canonicalFields fields [] = fields := by
  have hfield : ∀ field ∈ fields, (field.1, field.2.canonical) = id field := by
    intro field hfield
    rw [hvalues field hfield]
    rfl
  rw [canonicalFields_eq, List.map_congr_left hfield, List.map_id]
  exact Entries.ofList_of_sorted hsorted

mutual

/-- **The canonical form of a value in canonical form is the value.** -/
theorem canonical_canonical : ∀ j : Json, j.canonical.canonical = j.canonical
  | .null | .bool _ | .num _ | .str _ => rfl
  | .arr items => by
    have hitems : (items.map canonical).map canonical = items.map canonical := by
      rw [List.map_map]
      exact List.map_congr_left (canonical_item items)
    rw [canonical, canonical, canonicalItems_eq, canonicalItems_eq, hitems]
  | .obj fields => by
    have hsorted : (canonicalFields fields []).Sorted := by
      rw [canonicalFields_eq]
      exact Entries.sorted_insertAll _ List.Pairwise.nil
    -- each value that is left is the canonical form of one that was there
    have hvalues : ∀ field ∈ canonicalFields fields [], field.2.canonical = field.2 := by
      intro field hfield
      rw [canonicalFields_eq] at hfield
      obtain ⟨given, hgiven, rfl⟩ := List.mem_map.mp (Entries.mem_of_mem_ofList hfield)
      exact canonical_field fields given hgiven
    rw [canonical, canonical, canonicalFields_of_sorted hsorted hvalues]

theorem canonical_item : ∀ items : List Json,
    ∀ item ∈ items, item.canonical.canonical = item.canonical
  | [] => fun _ h => absurd h List.not_mem_nil
  | item :: rest => List.forall_mem_cons.mpr ⟨canonical_canonical item, canonical_item rest⟩

theorem canonical_field : ∀ fields : List (String × Json),
    ∀ field ∈ fields, field.2.canonical.canonical = field.2.canonical
  | [] => fun _ h => absurd h List.not_mem_nil
  | (_, value) :: rest =>
    List.forall_mem_cons.mpr ⟨canonical_canonical value, canonical_field rest⟩

end

/-- Only `null` becomes `null`. -/
theorem canonical_eq_null {j : Json} (h : j.canonical = .null) : j = .null := by
  cases j with
  | null => rfl
  | bool _ | num _ | str _ | arr _ | obj _ => simp [canonical] at h

end Json

/-! ### Simple values -/

namespace Codec

variable {α : Type}

/-- A value is read back from what it is written as. -/
def Restores (codec : Codec α) (a : α) : Prop := codec.read (codec.write a) = some a

/-- What is read from a value other than `null` is written as one. -/
def Present (codec : Codec α) : Prop :=
  ∀ j a, codec.read j = some a → j ≠ .null → codec.write a ≠ .null

@[simp] theorem json_lawful : Codec.json.Lawful := by
  intro j a h
  cases h
  exact congrArg some (Json.canonical_canonical j)

@[simp] theorem json_present : Codec.json.Present := by
  intro j a h hj hnull
  cases h
  exact hj (Json.canonical_eq_null hnull)

@[simp] theorem condition_lawful : Codec.condition.Lawful := by
  intro j a h
  cases h
  exact congrArg (fun tree => some (Condition.mk tree)) (Json.canonical_canonical j)

@[simp] theorem condition_present : Codec.condition.Present := by
  intro j a h hj hnull
  cases h
  exact hj (Json.canonical_eq_null hnull)

@[simp] theorem string_lawful : Codec.string.Lawful := fun _ _ _ => rfl

@[simp] theorem string_present : Codec.string.Present := fun _ _ _ _ => Json.noConfusion

@[simp] theorem bool_lawful : Codec.bool.Lawful := fun _ _ _ => rfl

@[simp] theorem bool_present : Codec.bool.Present := fun _ _ _ _ => Json.noConfusion

@[simp] theorem json_restores_null : Codec.json.Restores .null := rfl

@[simp] theorem bool_restores (b : Bool) : Codec.bool.Restores b := rfl

/-- A float that has been read is finite, and is written as a float. -/
theorem ofFloat_of_read {j : Json} {x : Float} (h : Codec.float.read j = some x) :
    ∃ finite : FiniteFloat, finite.value = x ∧ Json.ofFloat x = .num (.float finite) := by
  cases j with
  | num n =>
    obtain ⟨finite, -, rfl⟩ := Option.map_eq_some_iff.mp h
    refine ⟨finite, rfl, ?_⟩
    rw [Json.ofFloat, FiniteFloat.ofFloat?_value]
  | null | bool _ | str _ | arr _ | obj _ => cases h

/-- **A float is read back as exactly the same.** -/
@[simp] theorem float_lawful : Codec.float.Lawful := by
  intro j x h
  obtain ⟨finite, rfl, hwrite⟩ := ofFloat_of_read h
  show Codec.float.read (Json.ofFloat finite.value) = some finite.value
  rw [hwrite]
  show (FiniteFloat.ofFloat? finite.value).map (·.value) = some finite.value
  rw [FiniteFloat.ofFloat?_value]
  rfl

@[simp] theorem float_present : Codec.float.Present := by
  intro j x h _ hnull
  obtain ⟨finite, -, hwrite⟩ := ofFloat_of_read h
  cases hwrite.symm.trans hnull

theorem intBetween_lawful (least greatest : Int) : (intBetween least greatest).Lawful := by
  intro j n h
  unfold intBetween at h ⊢
  simp only at h
  split at h
  · rename_i m
    split at h
    · rename_i hbounds
      cases h
      exact if_pos hbounds
    · cases h
  · cases h

@[simp] theorem int64_lawful : Codec.int64.Lawful := intBetween_lawful _ _

@[simp] theorem int64_present : Codec.int64.Present := fun _ _ _ _ => Json.noConfusion

@[simp] theorem index_lawful : Codec.index.Lawful := by
  intro j n h
  unfold index at h ⊢
  generalize Int.pow 2 64 = bound at h ⊢
  simp only at h
  split at h
  · rename_i m
    split at h
    · rename_i hbounds
      obtain ⟨k, rfl⟩ := Int.eq_ofNat_of_zero_le hbounds.1
      cases h
      exact if_pos hbounds
    · cases h
  · cases h

/-! ### Values made of others -/

/-- Items that are read back one by one are read back together. -/
theorem mapM_map {β : Type} (read : β → Option α) (write : α → β) :
    ∀ {items : List α}, (∀ a ∈ items, read (write a) = some a) →
      (items.map write).mapM read = some items
  | [], _ => rfl
  | a :: rest, h => by
    have hrest := mapM_map read write fun b hb => h b (List.mem_cons_of_mem a hb)
    rw [List.map_cons, List.mapM_cons, h a List.mem_cons_self, hrest]
    rfl

/-- What has been read together was read one by one. -/
theorem exists_of_mem_mapM {β : Type} {read : β → Option α} :
    ∀ {items : List β} {as : List α}, items.mapM read = some as →
      ∀ a ∈ as, ∃ item ∈ items, read item = some a
  | [], as, h, a, ha => by
    cases h
    cases ha
  | item :: rest, as, h, a, ha => by
    rw [List.mapM_cons] at h
    obtain ⟨b, hb, h⟩ := Option.bind_eq_some_iff.mp h
    obtain ⟨bs, hbs, h⟩ := Option.bind_eq_some_iff.mp h
    cases h
    rcases List.mem_cons.mp ha with rfl | ha
    · exact ⟨item, List.mem_cons_self, hb⟩
    · obtain ⟨other, hother, hread⟩ := exists_of_mem_mapM hbs a ha
      exact ⟨other, List.mem_cons_of_mem item hother, hread⟩

variable {codec : Codec α}

@[simp] theorem list_lawful (h : codec.Lawful) : codec.list.Lawful := by
  intro j as hread
  cases j with
  | arr items =>
    refine mapM_map codec.read codec.write fun a ha => ?_
    obtain ⟨item, -, hitem⟩ := exists_of_mem_mapM hread a ha
    exact h item a hitem
  | null | bool _ | num _ | str _ | obj _ => cases hread

@[simp] theorem list_restores_nil : codec.list.Restores [] := rfl

@[simp] theorem list_present : codec.list.Present := fun _ _ _ _ => Json.noConfusion

@[simp] theorem dictionary_lawful (h : codec.Lawful) : codec.dictionary.Lawful := by
  intro j dict hread
  cases j with
  | obj fields =>
    obtain ⟨pairs, hpairs, rfl⟩ := Option.map_eq_some_iff.mp hread
    -- every entry comes from a field that was read
    have hentry : ∀ entry ∈ (Dictionary.ofList pairs).toList,
        (codec.read (codec.write entry.2)).map (entry.1, ·) = some entry := by
      intro entry hentry
      obtain ⟨field, -, hfield⟩ :=
        exists_of_mem_mapM hpairs entry (Entries.mem_of_mem_ofList hentry)
      obtain ⟨a, ha, rfl⟩ := Option.map_eq_some_iff.mp hfield
      rw [h _ _ ha]
      rfl
    have hagain := mapM_map (fun field => (codec.read field.2).map (field.1, ·))
      (fun entry => (entry.1, codec.write entry.2)) hentry
    refine (congrArg (Option.map Dictionary.ofList) hagain).trans ?_
    exact congrArg some (Dictionary.ofList_toList _)
  | null | bool _ | num _ | str _ | arr _ => cases hread

theorem read_orNull {j : Json} (h : j ≠ .null) : codec.orNull.read j = (codec.read j).map some := by
  cases j with
  | null => exact absurd rfl h
  | bool _ | num _ | str _ | arr _ | obj _ => rfl

/-- A value that may be missing is read back if what is there is not written as `null`. -/
theorem orNull_lawful (h : codec.Lawful) (hpresent : codec.Present) : codec.orNull.Lawful := by
  intro j a? hread
  cases a? with
  | none => rfl
  | some a =>
    have hnotNull : j ≠ .null := by
      rintro rfl
      cases hread
    have ha : codec.read j = some a := by
      obtain ⟨b, hb, heq⟩ := Option.map_eq_some_iff.mp ((read_orNull hnotNull).symm.trans hread)
      cases heq
      exact hb
    have hwrite := hpresent j a ha hnotNull
    have hagain := h j a ha
    show codec.orNull.read (codec.write a) = some (some a)
    rw [read_orNull hwrite, hagain]
    rfl

@[simp] theorem range_lawful : Codec.range.Lawful := by
  intro j r h
  unfold range at h
  simp only at h
  split at h
  · rename_i a b
    obtain ⟨start, hstart, h⟩ := Option.bind_eq_some_iff.mp h
    obtain ⟨stop, hstop, h⟩ := Option.bind_eq_some_iff.mp h
    cases h
    have hstart' := float_lawful a start hstart
    have hstop' := float_lawful b stop hstop
    simp only [range, hstart', hstop']
    rfl
  · cases h

@[simp] theorem range_present : Codec.range.Present := fun _ _ _ _ => Json.noConfusion

@[simp] theorem slice_lawful : Codec.slice.Lawful := by
  intro j r h
  unfold slice at h
  simp only at h
  split at h
  · rename_i id a b
    obtain ⟨name, hname, h⟩ := Option.bind_eq_some_iff.mp h
    obtain ⟨start, hstart, h⟩ := Option.bind_eq_some_iff.mp h
    obtain ⟨stop, hstop, h⟩ := Option.bind_eq_some_iff.mp h
    cases h
    have hname' := string_lawful id name hname
    have hstart' := float_lawful a start hstart
    have hstop' := float_lawful b stop hstop
    simp only [string] at hname'
    simp only [slice, string, hname', hstart', hstop']
    rfl
  · cases h

@[simp] theorem slice_present : Codec.slice.Present := fun _ _ _ _ => Json.noConfusion

end Codec
end FeatureFlags
