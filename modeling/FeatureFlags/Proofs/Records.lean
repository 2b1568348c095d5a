/-
# Records field by field

A record has a table of fields: under which name each of them stands, how it is read and how it
is written. A codec that keeps to a table (`Codec.KeepsTo`) reads a record if each field of the
table can be read, and writes all of them into one object. Such a codec is lawful
(`Codec.KeepsTo.lawful`), because

* an object that has been written is opened as what was put into it
  (`Layout.exists_open?_write`), and
* a field that was read in some way is restored by that way from what it is written as
  (`Record.Restores`), whatever the record was like that it was first read from.

The second is said once for each kind of field. A field that may be left out where it is written
must be one for which the default is restored (`Record.restores_unlessEmpty`,
`Record.restores_ifTrue`).

Key definitions: `Layout.Unambiguous`, `Record.Restores`, `Field`, `Codec.KeepsTo`.
Key theorems: `Layout.exists_open?_write`, `Codec.KeepsTo.lawful`.
-/
import FeatureFlags.Proofs.CodecLaws
import FeatureFlags.Wire.Record
import Mathlib.Data.List.Nodup

namespace FeatureFlags

/-! ### Objects that have been written -/

namespace Layout

/-- The names under which the fields of a record are written. -/
def names (layout : Layout) : List String := layout.filterMap List.head?

/-- The names of fields differ, and each stands for its own field. -/
def Unambiguous (layout : Layout) : Prop :=
  layout.names.Nodup ∧ ∀ name ∈ layout.names, layout.nameOf? name = some name

instance (layout : Layout) : Decidable layout.Unambiguous := inferInstanceAs (Decidable (_ ∧ _))

variable {layout : Layout}

/-- Fields under their own names are known as they are. -/
theorem known_of_names (h : layout.Unambiguous) {fields : Entries Json}
    (hnames : ∀ field ∈ fields, field.1 ∈ layout.names) : layout.known fields = fields := by
  have hfield : ∀ field ∈ fields,
      (layout.nameOf? field.1).map (·, field.2) = some field := fun field hfield => by
    rw [h.2 field.1 (hnames field hfield)]
    rfl
  rw [known, List.filterMap_congr hfield, List.filterMap_some]

theorem eraseDups_of_nodup : ∀ {names : List String}, names.Nodup → names.eraseDups = names
  | [], _ => rfl
  | name :: rest, h => by
    obtain ⟨hnot, hrest⟩ := List.nodup_cons.mp h
    have hfilter : (rest.filter fun other => !other == name) = rest := by
      refine List.filter_eq_self.mpr fun other hother => ?_
      have hne : other ≠ name := fun heq => hnot (heq ▸ hother)
      simp [hne]
    rw [List.eraseDups_cons, hfilter, eraseDups_of_nodup hrest]

/-- **An object that has been written is opened as what was put into it**: each field is found
if it was there. -/
theorem exists_open?_write (layout : Layout) (fields : List (String × Option Json))
    (h : layout.Unambiguous) (hnames : fields.map (·.1) = layout.names) :
    ∃ r, layout.open? (Record.write fields) = some r ∧
      ∀ field ∈ fields, Entries.find? field.1 r = field.2 := by
  let present := fields.filterMap fun field => field.2.map (field.1, ·)
  let entries : Entries Json := Entries.ofList present
  have hpresent : ∀ {name : String} {j : Json}, (name, j) ∈ present ↔ (name, some j) ∈ fields := by
    intro name j
    simp only [present, List.mem_filterMap, Option.map_eq_some_iff, Prod.mk.injEq]
    constructor
    · rintro ⟨⟨_, _⟩, hfield, _, rfl, rfl, rfl⟩
      exact hfield
    · exact fun hfield => ⟨_, hfield, j, rfl, rfl, rfl⟩
  have hsorted : entries.Sorted := Entries.sorted_insertAll present List.Pairwise.nil
  have hknown : layout.known entries = entries := by
    refine known_of_names h fun field hfield => ?_
    have hgiven : (field.1, some field.2) ∈ fields :=
      hpresent.mp (Entries.mem_of_mem_ofList hfield)
    rw [← hnames]
    exact List.mem_map_of_mem hgiven
  have hdistinct : (entries.map (·.1)).Nodup :=
    List.pairwise_map.mpr (hsorted.imp fun hlt => String.ne_of_lt hlt)
  refine ⟨entries, ?_, fun field hfield => ?_⟩
  · show (if ((layout.known entries).map (·.1)).eraseDups.length = (layout.known entries).length
      then some (layout.known entries) else none) = some entries
    rw [hknown, eraseDups_of_nodup hdistinct, List.length_map, if_pos rfl]
  · -- there is one field of the name only
    have hfound : ∀ j, entries.find? field.1 = some j → field.2 = some j := by
      intro j hj
      have hmem : (field.1, some j) ∈ fields :=
        hpresent.mp (Entries.mem_of_mem_ofList (Entries.mem_of_find? hj))
      have hone := List.inj_on_of_nodup_map (hnames ▸ h.1) hmem hfield rfl
      exact congrArg Prod.snd hone.symm
    cases hfind : entries.find? field.1 with
    | some j => exact (hfound j hfind).symm
    | none =>
      rw [eq_comm, Option.eq_none_iff_forall_ne_some]
      intro j hj
      have hmem : (field.1, j) ∈ present := hpresent.mpr (hj ▸ hfield)
      have hkey : field.1 ∈ present.map (·.1) := List.mem_map_of_mem hmem
      have hsome : (entries.find? field.1).isSome := Entries.isSome_find?_insertAll (Or.inl hkey)
      rw [hfind] at hsome
      cases hsome

end Layout

/-! ### One field -/

namespace Record

variable {α : Type} {codec : Codec α} {name : String}

/-- A field that has been read in some way is read again from any record that has under its name
what the field is written as. -/
def Restores (read : Record → Option α) (name : String) (write : α → Option Json) : Prop :=
  ∀ (r : Record) (a : α), read r = some a → ∀ r' : Record, Entries.find? name r' = write a →
    read r' = some a

theorem restores_required (h : codec.Lawful) :
    Restores (·.required name codec) name fun a => some (codec.write a) := by
  intro r a hread r' hwrite
  obtain ⟨j, -, hj⟩ := Option.bind_eq_some_iff.mp hread
  show (Entries.find? name r').bind codec.read = some a
  rw [hwrite]
  exact h j a hj

/-- A field that may be left out is one that may be `null`. -/
theorem exists_read_of_optional {r : Record} {a? : Option α}
    (h : r.optional name codec = some a?) : ∃ j, codec.orNull.read j = some a? := by
  unfold optional at h
  split at h
  · cases h
    exact ⟨.null, rfl⟩
  · exact ⟨_, h⟩

/-- A field that is left out if there is none. -/
theorem restores_optional (h : codec.Lawful) (hpresent : codec.Present) :
    Restores (·.optional name codec) name (·.map codec.write) := by
  intro r a? hread r' hwrite
  obtain ⟨j, hj⟩ := exists_read_of_optional hread
  show Record.optional r' name codec = some a?
  unfold optional
  rw [hwrite]
  cases a? with
  | none => rfl
  | some a => exact Codec.orNull_lawful h hpresent j (some a) hj

/-- A field that is `null` if there is none. -/
theorem restores_orNull (h : codec.Lawful) (hpresent : codec.Present) :
    Restores (·.optional name codec) name fun a? => some (codec.orNull.write a?) := by
  intro r a? hread r' hwrite
  obtain ⟨j, hj⟩ := exists_read_of_optional hread
  show Record.optional r' name codec = some a?
  unfold optional
  rw [hwrite]
  exact Codec.orNull_lawful h hpresent j a? hj

/-- A field with a default that is always written. -/
theorem restores_orElse (h : codec.Lawful) {default : α}
    (hdefault : codec.Restores default) :
    Restores (·.orElse name codec default) name fun a => some (codec.write a) := by
  intro r a hread r' hwrite
  show Record.orElse r' name codec default = some a
  unfold orElse
  rw [hwrite]
  simp only [orElse] at hread
  split at hread
  · cases hread
    exact hdefault
  · exact h _ a hread

/-- A field with a default that may be left out where the default is meant. -/
theorem restores_orElse_of_omitted (h : codec.Lawful) {default : α} {write : α → Option Json}
    (hwrite : ∀ a, write a = some (codec.write a) ∨ (a = default ∧ write a = none))
    (hdefault : codec.Restores default) :
    Restores (·.orElse name codec default) name write := by
  intro r a hread r' hfind
  rcases hwrite a with hgiven | ⟨rfl, homitted⟩
  · exact restores_orElse h hdefault r a hread r' (hfind.trans hgiven)
  · show Record.orElse r' name codec a = some a
    unfold orElse
    rw [hfind, homitted]

theorem restores_unlessEmpty (h : codec.Lawful) :
    Restores (·.orElse name codec.list []) name (unlessEmpty codec) := by
  refine restores_orElse_of_omitted (Codec.list_lawful h) (fun items => ?_) rfl
  cases items with
  | nil => exact Or.inr ⟨rfl, rfl⟩
  | cons item rest => exact Or.inl rfl

theorem restores_ifTrue : Restores (·.orElse name .bool false) name ifTrue := by
  refine restores_orElse_of_omitted Codec.bool_lawful (fun b => ?_) rfl
  cases b with
  | false => exact Or.inr ⟨rfl, rfl⟩
  | true => exact Or.inl rfl

/-- A field of any value, `null` included. -/
theorem restores_given : Restores (fun r => some (r.given name)) name id := by
  intro r a hread r' hwrite
  cases hread
  show some (Record.given r' name) = some (Record.given r name)
  unfold given at hwrite ⊢
  rw [hwrite, id, Option.map_map]
  cases Entries.find? name r with
  | none => rfl
  | some j => exact congrArg (some ∘ some) (Json.canonical_canonical j)

end Record

/-! ### Tables of fields -/

/-- A field of records of type `ρ`. -/
structure Field (ρ : Type) where
  name : String
  Value : Type
  read : Record → Option Value
  write : Value → Option Json
  get : ρ → Value
  restores : Record.Restores read name write

namespace Field

variable {ρ α : Type}

/-- The field has been read as it is in a record. -/
def Reads (field : Field ρ) (r : Record) (e : ρ) : Prop := field.read r = some (field.get e)

/-- A field that must be given. -/
def required (name : String) (codec : Codec α) (get : ρ → α)
    (h : codec.Lawful := by simp) : Field ρ :=
  ⟨name, α, (·.required name codec), fun a => some (codec.write a), get,
    Record.restores_required h⟩

/-- A field that is left out if there is none. -/
def optional (name : String) (codec : Codec α) (get : ρ → Option α)
    (h : codec.Lawful := by simp) (hpresent : codec.Present := by simp) : Field ρ :=
  ⟨name, Option α, (·.optional name codec), (·.map codec.write), get,
    Record.restores_optional h hpresent⟩

/-- A field that is `null` if there is none. -/
def orNull (name : String) (codec : Codec α) (get : ρ → Option α)
    (h : codec.Lawful := by simp) (hpresent : codec.Present := by simp) : Field ρ :=
  ⟨name, Option α, (·.optional name codec), fun a? => some (codec.orNull.write a?), get,
    Record.restores_orNull h hpresent⟩

/-- A field with a default. -/
def orElse (name : String) (codec : Codec α) (default : α) (get : ρ → α)
    (h : codec.Lawful := by simp)
    (hdefault : codec.Restores default := by simp) : Field ρ :=
  ⟨name, α, (·.orElse name codec default), fun a => some (codec.write a), get,
    Record.restores_orElse h hdefault⟩

/-- A list that is left out if it has no items. -/
def unlessEmpty (name : String) (codec : Codec α) (get : ρ → List α)
    (h : codec.Lawful := by simp) : Field ρ :=
  ⟨name, List α, (·.orElse name codec.list []), Record.unlessEmpty codec, get,
    Record.restores_unlessEmpty h⟩

/-- A truth value that is left out if it is false. -/
def ifTrue (name : String) (get : ρ → Bool) : Field ρ :=
  ⟨name, Bool, (·.orElse name .bool false), Record.ifTrue, get, Record.restores_ifTrue⟩

/-- A field of any value, `null` included. -/
def given (name : String) (get : ρ → Option Json) : Field ρ :=
  ⟨name, Option Json, fun r => some (r.given name), id, get, Record.restores_given⟩

variable (r : Record) (e : ρ) (name : String) (codec : Codec α)

@[simp] theorem reads_required (get : ρ → α) (h : codec.Lawful) :
    (required name codec get h).Reads r e ↔ r.required name codec = some (get e) := .rfl

@[simp] theorem reads_optional (get : ρ → Option α) (h : codec.Lawful) (hpresent : codec.Present) :
    (optional name codec get h hpresent).Reads r e ↔ r.optional name codec = some (get e) := .rfl

@[simp] theorem reads_orNull (get : ρ → Option α) (h : codec.Lawful) (hpresent : codec.Present) :
    (orNull name codec get h hpresent).Reads r e ↔ r.optional name codec = some (get e) := .rfl

@[simp] theorem reads_orElse (default : α) (get : ρ → α) (h : codec.Lawful)
    (hdefault : codec.Restores default) :
    (orElse name codec default get h hdefault).Reads r e ↔
      r.orElse name codec default = some (get e) := .rfl

@[simp] theorem reads_unlessEmpty (get : ρ → List α) (h : codec.Lawful) :
    (unlessEmpty name codec get h).Reads r e ↔ r.orElse name codec.list [] = some (get e) := .rfl

@[simp] theorem reads_ifTrue (get : ρ → Bool) :
    (ifTrue name get).Reads r e ↔ r.orElse name .bool false = some (get e) := .rfl

@[simp] theorem reads_given (get : ρ → Option Json) :
    (given name get).Reads r e ↔ r.given name = get e := Option.some_inj

end Field

namespace Codec

variable {ρ : Type} {codec : Codec ρ} {layout : Layout} {table : List (Field ρ)}

/-- A codec reads a record if it can read each field of a table, and writes all of these fields. -/
structure KeepsTo (codec : Codec ρ) (layout : Layout) (table : List (Field ρ)) : Prop where
  unambiguous : layout.Unambiguous
  names : table.map Field.name = layout.names
  read_iff : ∀ j e, codec.read j = some e ↔
    ∃ r, layout.open? j = some r ∧ ∀ field ∈ table, field.Reads r e
  write_eq : ∀ e, codec.write e =
    Record.write (table.map fun field => (field.name, field.write (field.get e)))

/-- **A record is read back as it is, if each of its fields is.** -/
theorem KeepsTo.lawful (h : codec.KeepsTo layout table) : codec.Lawful := by
  intro j e hread
  obtain ⟨r, -, hfields⟩ := (h.read_iff j e).mp hread
  have hnames : (table.map fun field => (field.name, field.write (field.get e))).map (·.1) =
      layout.names := by
    rw [List.map_map]
    exact h.names
  obtain ⟨r', hopen, hfind⟩ := Layout.exists_open?_write layout _ h.unambiguous hnames
  rw [h.write_eq, h.read_iff]
  refine ⟨r', hopen, fun field hfield => ?_⟩
  exact field.restores r _ (hfields field hfield) r' (hfind _ (List.mem_map_of_mem hfield))

end Codec
end FeatureFlags
