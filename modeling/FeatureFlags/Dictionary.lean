/-
# Dictionaries in key order

Everything keyed by text in this library (JSON objects, feature definitions,
stored documents, forced values) is a list of entries whose keys ascend by code
point. The order is part of the meaning: targeting conditions are evaluated in it
and answers are listed in it.

`Entries` is the plain list, used inside JSON trees. `Dictionary` carries the
proof that its keys ascend, so two dictionaries with the same lookups are equal.

Key definitions:
* `Entries.find?`, `Entries.insert`: look a key up; store a value, replacing an
  older one.
* `Entries.ofList`: the entries of a list in which later pairs replace earlier
  ones.
* `Dictionary`: entries with strictly ascending keys.

Key theorems:
* `Entries.find?_insert`: a stored value is found, and nothing else changes.
* `Dictionary.find?_overlay`: of two dictionaries laid over each other, the second
  counts where it has the key.
* `Dictionary.ext_find?`: lookups determine a dictionary.
-/
namespace FeatureFlags

/-- Values under text keys. -/
abbrev Entries (α : Type) := List (String × α)

namespace Entries

variable {α : Type}

/-- The value under `key`: the first one, if the key occurs more than once. -/
def find? (key : String) : Entries α → Option α
  | [] => none
  | (k, v) :: rest => if k = key then some v else find? key rest

/-- Stores `value` under `key` before the first larger key, in place of an entry
with the same key. -/
def insert (key : String) (value : α) : Entries α → Entries α
  | [] => [(key, value)]
  | (k, v) :: rest =>
    if key < k then (key, value) :: (k, v) :: rest
    else if key = k then (key, value) :: rest
    else (k, v) :: insert key value rest

/-- Stores the pairs of a list one after the other, so the last value of a
repeated key stays. -/
def insertAll (pairs : List (String × α)) (entries : Entries α) : Entries α :=
  pairs.foldl (fun acc pair => acc.insert pair.1 pair.2) entries

/-- The entries of a list of pairs, in key order. -/
def ofList (pairs : List (String × α)) : Entries α :=
  insertAll pairs []

/-- Keys strictly ascend. -/
def Sorted (entries : Entries α) : Prop :=
  entries.Pairwise fun a b => a.1 < b.1

theorem find?_insert (key key' : String) (value : α) :
    ∀ entries : Entries α,
      (entries.insert key value).find? key' =
        if key = key' then some value else entries.find? key'
  | [] => by simp [insert, find?]
  | (k, v) :: rest => by
    unfold insert
    split
    · simp [find?]
    · split
      · rename_i _ h
        subst h
        by_cases hk : key = key' <;> simp [find?, hk]
      · rename_i _ h
        by_cases hk : k = key'
        · subst hk
          simp [find?, h]
        · simp only [find?, hk, ↓reduceIte]
          exact find?_insert key key' value rest

/-- A key of the result is the stored key or an older one. -/
theorem mem_insert {key : String} {value : α} {pair : String × α} :
    ∀ {entries : Entries α}, pair ∈ entries.insert key value →
      pair = (key, value) ∨ pair ∈ entries
  | [], h => by simpa [insert] using h
  | (k, v) :: rest, h => by
    unfold insert at h
    split at h
    · simpa using h
    · split at h
      · rcases List.mem_cons.mp h with h | h
        · exact Or.inl h
        · exact Or.inr (List.mem_cons_of_mem _ h)
      · rcases List.mem_cons.mp h with h | h
        · exact Or.inr (h ▸ List.mem_cons_self)
        · rcases mem_insert h with h | h
          · exact Or.inl h
          · exact Or.inr (List.mem_cons_of_mem _ h)

theorem sorted_insert (key : String) (value : α) :
    ∀ {entries : Entries α}, entries.Sorted → (entries.insert key value).Sorted
  | [], _ => by simp [insert, Sorted]
  | (k, v) :: rest, h => by
    obtain ⟨hhead, htail⟩ := List.pairwise_cons.mp h
    unfold insert
    split
    · rename_i hlt
      refine List.pairwise_cons.mpr ⟨fun pair hp => ?_, h⟩
      rcases List.mem_cons.mp hp with rfl | hp
      · exact hlt
      · exact String.lt_trans hlt (hhead pair hp)
    · split
      · rename_i _ heq
        subst heq
        exact List.pairwise_cons.mpr ⟨hhead, htail⟩
      · rename_i hge hne
        have hlt : k < key := by
          rcases String.le_total key k with hle | hle
          · exact absurd (String.le_antisymm hle hge) hne
          · exact Std.not_le.mp fun hk => hne (String.le_antisymm hk hle)
        refine List.pairwise_cons.mpr ⟨fun pair hp => ?_, sorted_insert key value htail⟩
        rcases mem_insert hp with rfl | hp
        · exact hlt
        · exact hhead pair hp

theorem sorted_insertAll (pairs : List (String × α)) :
    ∀ {entries : Entries α}, entries.Sorted → (insertAll pairs entries).Sorted := by
  induction pairs with
  | nil => exact fun h => h
  | cons pair rest ih => exact fun h => ih (sorted_insert _ _ h)

/-- A key that has a value is one of the keys. -/
theorem mem_keys_of_find? {key : String} {value : α} :
    ∀ {entries : Entries α}, entries.find? key = some value → key ∈ entries.map (·.1)
  | [], h => by simp [find?] at h
  | (k, _) :: rest, h => by
    by_cases hk : k = key
    · simp [hk]
    · simp only [find?, hk, ↓reduceIte] at h
      exact List.mem_cons_of_mem _ (mem_keys_of_find? h)

/-- A value that is found is in the list, under its key. -/
theorem mem_of_find? {key : String} {value : α} :
    ∀ {entries : Entries α}, entries.find? key = some value → (key, value) ∈ entries
  | [], h => by simp [find?] at h
  | (k, v) :: rest, h => by
    by_cases hk : k = key
    · simp only [find?, hk, ↓reduceIte, Option.some.injEq] at h
      simp [hk, h]
    · simp only [find?, hk, ↓reduceIte] at h
      exact List.mem_cons_of_mem _ (mem_of_find? h)

/-- Below its first key a sorted list has no entry. -/
theorem find?_eq_none_of_lt {key : String} :
    ∀ {entries : Entries α}, (∀ pair ∈ entries, key < pair.1) → entries.find? key = none
  | [], _ => rfl
  | (k, _) :: rest, h => by
    have hk : k ≠ key := by
      rintro rfl
      exact String.lt_irrefl k (h _ List.mem_cons_self)
    simp only [find?, hk, ↓reduceIte]
    exact find?_eq_none_of_lt fun pair hp => h pair (List.mem_cons_of_mem _ hp)

/-- Every entry of a sorted list is found. -/
theorem find?_of_mem {key : String} {value : α} :
    ∀ {entries : Entries α}, entries.Sorted → (key, value) ∈ entries →
      entries.find? key = some value
  | (k, v) :: rest, hsorted, h => by
    obtain ⟨hhead, htail⟩ := List.pairwise_cons.mp hsorted
    rcases List.mem_cons.mp h with h | h
    · cases h
      simp [find?]
    · have hk : k ≠ key := by
        rintro rfl
        exact String.lt_irrefl k (hhead _ h)
      simp only [find?, hk, ↓reduceIte]
      exact find?_of_mem htail h

/-- What is found after pairs were stored is one of them, or was there before. -/
theorem mem_or_find?_of_insertAll {key : String} {value : α} :
    ∀ {pairs : List (String × α)} {entries : Entries α},
      (insertAll pairs entries).find? key = some value →
        (key, value) ∈ pairs ∨ entries.find? key = some value
  | [], _, h => Or.inr h
  | (k, v) :: rest, entries, h => by
    have hrest : (insertAll rest (entries.insert k v)).find? key = some value := h
    rcases mem_or_find?_of_insertAll hrest with h | h
    · exact Or.inl (List.mem_cons_of_mem _ h)
    · rw [find?_insert] at h
      split at h
      · rename_i hk
        cases h
        exact Or.inl (hk ▸ List.mem_cons_self)
      · exact Or.inr h

/-- After pairs were stored there is something under each of their keys. -/
theorem isSome_find?_insertAll {key : String} :
    ∀ {pairs : List (String × α)} {entries : Entries α},
      key ∈ pairs.map (·.1) ∨ (entries.find? key).isSome →
        ((insertAll pairs entries).find? key).isSome
  | [], _, h => h.resolve_left List.not_mem_nil
  | (k, v) :: rest, entries, h => by
    show ((insertAll rest (entries.insert k v)).find? key).isSome
    refine isSome_find?_insertAll ?_
    rw [find?_insert]
    by_cases hk : k = key
    · simp [hk]
    · rw [if_neg hk]
      refine h.imp_left fun hmem => ?_
      exact (List.mem_cons.mp hmem).resolve_left fun heq => hk heq.symm

/-- Stored pairs with distinct keys are found, and nothing else changes. -/
theorem find?_insertAll {pairs : List (String × α)} (h : Entries.Sorted pairs)
    (entries : Entries α) (key : String) :
    (insertAll pairs entries).find? key = (find? key pairs).or (entries.find? key) := by
  induction pairs generalizing entries with
  | nil => rfl
  | cons pair rest ih =>
    obtain ⟨hhead, htail⟩ := List.pairwise_cons.mp h
    show (insertAll rest (entries.insert pair.1 pair.2)).find? key = _
    rw [ih htail, find?_insert]
    by_cases hk : pair.1 = key
    · have hnone : find? key rest = none := find?_eq_none_of_lt fun p hp => hk ▸ hhead p hp
      simp [find?, hk, hnone]
    · simp [find?, hk]

/-- Values that are changed one by one are found changed. -/
theorem find?_insertAll_map {β : Type} (f : α → β) :
    ∀ (pairs : List (String × α)) {entries : Entries α} {entries' : Entries β},
      (∀ key, entries'.find? key = (entries.find? key).map f) → ∀ key,
        (insertAll (pairs.map fun pair => (pair.1, f pair.2)) entries').find? key =
          ((insertAll pairs entries).find? key).map f
  | [], _, _, h => h
  | (k, v) :: rest, entries, entries', h => by
    refine find?_insertAll_map f rest fun key => ?_
    rw [find?_insert, find?_insert, h]
    split <;> rfl

/-- Sorted entries are determined by their lookups. -/
theorem eq_of_find?_eq : ∀ {a b : Entries α}, a.Sorted → b.Sorted →
    (∀ key, a.find? key = b.find? key) → a = b
  | [], [], _, _, _ => rfl
  | [], (k, v) :: _, _, _, h => by simpa [find?] using h k
  | (k, v) :: _, [], _, _, h => by simpa [find?] using h k
  | (k, v) :: as, (k', v') :: bs, ha, hb, h => by
    obtain ⟨ha₁, ha₂⟩ := List.pairwise_cons.mp ha
    obtain ⟨hb₁, hb₂⟩ := List.pairwise_cons.mp hb
    have hk : k = k' := by
      rcases Std.lt_trichotomy k k' with hlt | heq | hgt
      · have hnone : find? k ((k', v') :: bs) = none :=
          find?_eq_none_of_lt fun pair hp => by
            rcases List.mem_cons.mp hp with rfl | hp
            · exact hlt
            · exact String.lt_trans hlt (hb₁ pair hp)
        have := h k
        rw [hnone] at this
        simp [find?] at this
      · exact heq
      · have hnone : find? k' ((k, v) :: as) = none :=
          find?_eq_none_of_lt fun pair hp => by
            rcases List.mem_cons.mp hp with rfl | hp
            · exact hgt
            · exact String.lt_trans hgt (ha₁ pair hp)
        have := h k'
        rw [hnone] at this
        simp [find?] at this
    subst hk
    have hv : v = v' := by simpa [find?] using h k
    subst hv
    have hrest : ∀ key, find? key as = find? key bs := by
      intro key
      by_cases hkey : k = key
      · subst hkey
        rw [find?_eq_none_of_lt fun pair hp => ha₁ pair hp,
          find?_eq_none_of_lt fun pair hp => hb₁ pair hp]
      · simpa [find?, hkey] using h key
    rw [eq_of_find?_eq ha₂ hb₂ hrest]

end Entries

/-- Values under distinct text keys, in ascending order of the keys. -/
structure Dictionary (α : Type) where
  entries : Entries α
  sorted : entries.Sorted

namespace Dictionary

variable {α β : Type}

/-- The dictionary with no key. -/
def empty : Dictionary α := ⟨[], List.Pairwise.nil⟩

instance : Inhabited (Dictionary α) := ⟨empty⟩

/-- The value under `key`. -/
def find? (dict : Dictionary α) (key : String) : Option α := dict.entries.find? key

/-- Whether `key` has a value. -/
def contains (dict : Dictionary α) (key : String) : Bool := (dict.find? key).isSome

/-- Stores `value` under `key`, replacing an older value. -/
def insert (dict : Dictionary α) (key : String) (value : α) : Dictionary α :=
  ⟨dict.entries.insert key value, Entries.sorted_insert key value dict.sorted⟩

/-- Stores every pair of a list, one after the other. -/
def insertAll (dict : Dictionary α) (pairs : List (String × α)) : Dictionary α :=
  ⟨Entries.insertAll pairs dict.entries, Entries.sorted_insertAll pairs dict.sorted⟩

/-- The dictionary of a list of pairs; the last pair of a key counts. -/
def ofList (pairs : List (String × α)) : Dictionary α := empty.insertAll pairs

/-- The pairs in key order. -/
def toList (dict : Dictionary α) : List (String × α) := dict.entries

/-- The keys in ascending order. -/
def keys (dict : Dictionary α) : List String := dict.entries.map (·.1)

/-- The values in the order of their keys. -/
def values (dict : Dictionary α) : List α := dict.entries.map (·.2)

/-- Both dictionaries together; where both have a key, `upper` counts. -/
def overlay (dict upper : Dictionary α) : Dictionary α := dict.insertAll upper.entries

@[simp] theorem find?_empty (key : String) : (empty : Dictionary α).find? key = none := rfl

theorem find?_insert (dict : Dictionary α) (key key' : String) (value : α) :
    (dict.insert key value).find? key' = if key = key' then some value else dict.find? key' :=
  Entries.find?_insert key key' value dict.entries

/-- Where both dictionaries have a key, the second one counts. -/
theorem find?_overlay (dict upper : Dictionary α) (key : String) :
    (dict.overlay upper).find? key = (upper.find? key).or (dict.find? key) :=
  Entries.find?_insertAll upper.sorted dict.entries key

theorem mem_keys_of_find? {dict : Dictionary α} {key : String} {value : α}
    (h : dict.find? key = some value) : key ∈ dict.keys :=
  Entries.mem_keys_of_find? h

/-- Dictionaries with the same lookups are equal. -/
theorem ext_find? {a b : Dictionary α} (h : ∀ key, a.find? key = b.find? key) : a = b := by
  obtain ⟨as, ha⟩ := a
  obtain ⟨bs, hb⟩ := b
  have : as = bs := Entries.eq_of_find?_eq ha hb h
  subst this
  rfl

/-- Storing what is there already changes nothing. -/
theorem insert_eq_self_iff {dict : Dictionary α} {key : String} {value : α} :
    dict.insert key value = dict ↔ dict.find? key = some value := by
  constructor
  · intro h
    rw [← h, find?_insert, if_pos rfl]
  · intro h
    refine ext_find? fun key' => ?_
    rw [find?_insert]
    split
    · rename_i hkey
      rw [← hkey, h]
    · rfl

/-- Of two values stored under one key the second one stays. -/
theorem insert_insert (dict : Dictionary α) (key : String) (value value' : α) :
    (dict.insert key value).insert key value' = dict.insert key value' := by
  refine ext_find? fun key' => ?_
  rw [find?_insert, find?_insert, find?_insert]
  by_cases hkey : key = key'
  · rw [if_pos hkey, if_pos hkey]
  · rw [if_neg hkey, if_neg hkey, if_neg hkey]

/-- Values under different keys may be stored in either order. -/
theorem insert_comm (dict : Dictionary α) {key key' : String} (h : key ≠ key') (value value' : α) :
    (dict.insert key value).insert key' value' = (dict.insert key' value').insert key value := by
  refine ext_find? fun other => ?_
  rw [find?_insert, find?_insert, find?_insert, find?_insert]
  by_cases hkey : key = other
  · have hother : key' ≠ other := fun heq => h (hkey.trans heq.symm)
    rw [if_pos hkey, if_neg hother, if_pos hkey]
  · rw [if_neg hkey, if_neg hkey]

theorem mem_keys_iff {dict : Dictionary α} {key : String} :
    key ∈ dict.keys ↔ (dict.find? key).isSome := by
  constructor
  · intro h
    obtain ⟨pair, hpair, rfl⟩ := List.mem_map.mp h
    exact Option.isSome_of_eq_some (Entries.find?_of_mem dict.sorted hpair)
  · intro h
    obtain ⟨value, hvalue⟩ := Option.isSome_iff_exists.mp h
    exact mem_keys_of_find? hvalue

/-- Every value is found under some key. -/
theorem exists_find?_of_mem_values {dict : Dictionary α} {value : α} (h : value ∈ dict.values) :
    ∃ key, dict.find? key = some value := by
  obtain ⟨pair, hpair, rfl⟩ := List.mem_map.mp h
  exact ⟨pair.1, Entries.find?_of_mem dict.sorted hpair⟩

theorem mem_values_of_find? {dict : Dictionary α} {key : String} {value : α}
    (h : dict.find? key = some value) : value ∈ dict.values :=
  List.mem_map.mpr ⟨(key, value), Entries.mem_of_find? h, rfl⟩

/-- What is found in the dictionary of a list is one of its pairs. -/
theorem mem_of_find?_ofList {pairs : List (String × α)} {key : String} {value : α}
    (h : (ofList pairs).find? key = some value) : (key, value) ∈ pairs := by
  rcases Entries.mem_or_find?_of_insertAll h with h | h
  · exact h
  · simp [empty, Entries.find?] at h

theorem mem_keys_ofList {pairs : List (String × α)} {key : String} :
    key ∈ (ofList pairs).keys ↔ key ∈ pairs.map (·.1) := by
  rw [mem_keys_iff]
  constructor
  · intro h
    obtain ⟨value, hvalue⟩ := Option.isSome_iff_exists.mp h
    exact List.mem_map.mpr ⟨(key, value), mem_of_find?_ofList hvalue, rfl⟩
  · exact fun h => Entries.isSome_find?_insertAll (Or.inl h)

instance [DecidableEq α] : DecidableEq (Dictionary α) := fun a b =>
  decidable_of_iff (a.entries = b.entries) (by cases a; cases b; simp)

end Dictionary
end FeatureFlags
