/-
# The service as a map

The service keeps documents under one text each: the name of an attribute, two bars, and the value.
Two attribute values can come to the same text, if one name is the other one with a bar behind it,
or with two bars and something more behind it, and the values make up for it
(`Identity.confused_iff`). Then the document of one of them is stored where that of the other one
would be, and takes its place.

So the service has for an attribute value what was saved last for it, exactly unless a document of
another one has been put in its place since (`StickyDocuments.documentOf?_ofList_eq_iff`). The same
goes for several documents at once (`StickyDocuments.loadsLast_iff`). No harm is done where names
have no bars, whatever the values are.

Key definitions: `Identity.Confused`, `StickyDocuments.lastFor?`, `StickyDocuments.Shadowed`,
`StickyDocuments.LoadsLast`.
Key theorems: `Identity.confused_iff`, `StickyDocuments.faithful_iff`.
-/
import FeatureFlags.Proofs.Loaded
import Mathlib.Data.List.Induction

namespace FeatureFlags

/-! ### Texts that can be read in two ways -/

namespace Identity

variable {who other : Identity}

/-- The name of `other` takes in what stands behind that of `who` in the text that both are kept
under: the first bar, or both bars and the beginning of a value that goes on with two more. -/
def Overruns (other who : Identity) : Prop :=
  (other.name = who.name ++ "|" ∧ who.value = "|" ++ other.value) ∨
    ∃ middle, other.name = who.name ++ "||" ++ middle ∧ who.value = middle ++ "||" ++ other.value

/-- Two attribute values that are kept under the same text. -/
def Confused (who other : Identity) : Prop := who.Overruns other ∨ other.Overruns who

theorem toList_storageKey (who : Identity) :
    who.storageKey.toList = who.name.toList ++ '|' :: '|' :: who.value.toList :=
  toList_documentKey who.name who.value

theorem Overruns.storageKey_eq (h : other.Overruns who) : other.storageKey = who.storageKey := by
  refine String.toList_inj.mp ?_
  rw [toList_storageKey, toList_storageKey]
  rcases h with ⟨hname, hvalue⟩ | ⟨middle, hname, hvalue⟩
  · rw [hname, hvalue]
    simp
  · rw [hname, hvalue]
    simp

theorem Overruns.ne (h : other.Overruns who) : other ≠ who := by
  rintro rfl
  have hone : "|".length = 1 := rfl
  have htwo : "||".length = 2 := rfl
  rcases h with ⟨hname, -⟩ | ⟨middle, hname, -⟩
  · have hlength := congrArg String.length hname
    rw [String.length_append] at hlength
    omega
  · have hlength := congrArg String.length hname
    rw [String.length_append, String.length_append] at hlength
    omega

/-- A longer name for the same text takes something from the value. -/
theorem overruns_of_append {rest : List Char} (hname : other.name.toList = who.name.toList ++ rest)
    (hvalue : '|' :: '|' :: who.value.toList = rest ++ '|' :: '|' :: other.value.toList) :
    other = who ∨ other.Overruns who := by
  match rest with
  | [] =>
    have hsame : other.name = who.name := String.toList_inj.mp (by rw [hname, List.append_nil])
    have hvalues : who.value = other.value := String.toList_inj.mp (by simpa using hvalue)
    refine Or.inl ?_
    show Identity.mk other.name other.value = Identity.mk who.name who.value
    rw [hsame, hvalues]
  | [bar] =>
    simp only [List.cons_append, List.nil_append, List.cons.injEq, true_and] at hvalue
    obtain ⟨rfl, hvalue⟩ := hvalue
    refine Or.inr (Or.inl ⟨String.toList_inj.mp ?_, String.toList_inj.mp ?_⟩)
    · simpa using hname
    · simpa using hvalue
  | bar :: bar' :: middle =>
    simp only [List.cons_append, List.cons.injEq] at hvalue
    obtain ⟨rfl, rfl, hvalue⟩ := hvalue
    refine Or.inr (Or.inr ⟨String.ofList middle, String.toList_inj.mp ?_, String.toList_inj.mp ?_⟩)
    · simpa using hname
    · simpa using hvalue

/-- **Two different attribute values are kept under the same text exactly if they are confused.** -/
theorem confused_iff : who.Confused other ↔ who.storageKey = other.storageKey ∧ who ≠ other := by
  constructor
  · rintro (h | h)
    · exact ⟨h.storageKey_eq, h.ne⟩
    · exact ⟨h.storageKey_eq.symm, h.ne.symm⟩
  · rintro ⟨hkey, hne⟩
    have hlists := congrArg String.toList hkey
    rw [toList_storageKey, toList_storageKey] at hlists
    rcases List.append_eq_append_iff.mp hlists with ⟨rest, hname, hvalue⟩ | ⟨rest, hname, hvalue⟩
    · exact Or.inr ((overruns_of_append hname hvalue).resolve_left hne.symm)
    · exact Or.inl ((overruns_of_append hname hvalue).resolve_left hne)

end Identity

/-- Whom the assignments of the document are for. -/
def StickyDocument.owner (doc : StickyDocument) : Identity := ⟨doc.attributeName, doc.attributeValue⟩

namespace StickyDocuments

/-! ### One document -/

/-- The document that was saved last for exactly this name and value. -/
def lastFor? (saved : List StickyDocument) (who : Identity) : Option StickyDocument :=
  (saved.filter (·.owner = who)).getLast?

/-- A document has been put in the place of what is saved for `who`, and none has been saved for
`who` since. -/
def Shadowed (saved : List StickyDocument) (who : Identity) : Prop :=
  ∃ before doc after, saved = before ++ doc :: after ∧ doc.owner.Confused who ∧
    ∀ later ∈ after, later.owner ≠ who

variable {saved : List StickyDocument} {who : Identity} {doc : StickyDocument}

/-- The last one of some documents is followed by no other of them. -/
theorem getLast?_filter_eq_some_iff {p : StickyDocument → Bool} :
    (saved.filter p).getLast? = some doc ↔
      p doc = true ∧ ∃ before after, saved = before ++ doc :: after ∧
        ∀ later ∈ after, p later = false := by
  rw [List.getLast?_filter, List.find?_eq_some_iff_append]
  refine and_congr_right fun _ => ?_
  constructor
  · rintro ⟨after, before, hsaved, hafter⟩
    refine ⟨before.reverse, after.reverse, ?_, fun later hlater => ?_⟩
    · rw [← List.reverse_reverse saved, hsaved]
      simp
    · simpa using hafter later (List.mem_reverse.mp hlater)
  · rintro ⟨before, after, rfl, hafter⟩
    refine ⟨after.reverse, before.reverse, by simp, fun later hlater => ?_⟩
    simpa using hafter later (List.mem_reverse.mp hlater)

/-- What is stored under a key is what was saved last under it. -/
theorem find?_ofList (saved : List StickyDocument) (key : String) :
    (ofList saved).find? key = (saved.filter (·.storageKey = key)).getLast? := by
  induction saved using List.reverseRecOn with
  | nil => rfl
  | append_singleton saved doc ih =>
    have hsave : ofList (saved ++ [doc]) = (ofList saved).save doc := by
      rw [ofList, List.foldl_append]
      rfl
    rw [hsave, find?_save, ih, List.filter_append]
    by_cases hkey : doc.storageKey = key
    · simp [hkey]
    · simp [hkey]

theorem documentOf?_ofList (saved : List StickyDocument) (who : Identity) :
    (ofList saved).documentOf? who.name who.value =
      (saved.filter (·.owner.storageKey = who.storageKey)).getLast? :=
  find?_ofList saved who.storageKey

theorem lastFor?_eq_some_iff :
    lastFor? saved who = some doc ↔
      doc.owner = who ∧ ∃ before after, saved = before ++ doc :: after ∧
        ∀ later ∈ after, later.owner ≠ who := by
  rw [lastFor?, getLast?_filter_eq_some_iff]
  simp only [decide_eq_true_eq, decide_eq_false_iff_not]

/-- In the place of a document that is shadowed there is another one. -/
theorem Shadowed.stored (h : Shadowed saved who) :
    ∃ doc, (ofList saved).documentOf? who.name who.value = some doc ∧ doc.owner.Confused who := by
  obtain ⟨before, first, after, rfl, hconfused, hafter⟩ := h
  have hfirst := (Identity.confused_iff.mp hconfused).1
  -- the last one under the key is this one, or one that comes later
  let rest := first :: after.filter (·.owner.storageKey = who.storageKey)
  have hrest : rest ≠ [] := List.cons_ne_nil _ _
  have hcons : (first :: after).filter (·.owner.storageKey = who.storageKey) = rest :=
    List.filter_cons_of_pos (decide_eq_true hfirst)
  have hstored : (ofList (before ++ first :: after)).documentOf? who.name who.value =
      some (rest.getLast hrest) := by
    rw [documentOf?_ofList, List.filter_append, hcons, List.getLast?_append,
      List.getLast?_eq_some_getLast hrest, Option.some_or]
  refine ⟨_, hstored, ?_⟩
  rcases List.mem_cons.mp (List.getLast_mem hrest) with hlast | hlast
  · rw [hlast]
    exact hconfused
  · obtain ⟨hmem, hkey⟩ := List.mem_filter.mp hlast
    exact Identity.confused_iff.mpr ⟨of_decide_eq_true hkey, hafter _ hmem⟩

/-- **The service has what was saved last for a name and a value**, exactly unless another document
has been put in its place since. -/
theorem documentOf?_ofList_eq_iff (saved : List StickyDocument) (who : Identity) :
    (ofList saved).documentOf? who.name who.value = lastFor? saved who ↔ ¬ Shadowed saved who := by
  constructor
  · intro hsame hshadowed
    obtain ⟨doc, hstored, hconfused⟩ := hshadowed.stored
    obtain ⟨howner, -⟩ := lastFor?_eq_some_iff.mp (hsame.symm.trans hstored)
    exact (Identity.confused_iff.mp hconfused).2 howner
  · intro hclear
    have howners : ∀ other : StickyDocument, other.owner = who →
        other.owner.storageKey = who.storageKey := fun _ => congrArg Identity.storageKey
    rw [documentOf?_ofList]
    cases hstored : (saved.filter (·.owner.storageKey = who.storageKey)).getLast? with
    | none =>
      rw [List.getLast?_eq_none_iff, List.filter_eq_nil_iff] at hstored
      rw [eq_comm, lastFor?, List.getLast?_eq_none_iff, List.filter_eq_nil_iff]
      intro other hmem howner
      exact hstored other hmem (decide_eq_true (howners other (of_decide_eq_true howner)))
    | some doc =>
      obtain ⟨hkey, before, after, hsaved, hafter⟩ := getLast?_filter_eq_some_iff.mp hstored
      have hlater : ∀ later ∈ after, later.owner ≠ who := fun later hmem howner =>
        of_decide_eq_false (hafter later hmem) (howners later howner)
      have howner : doc.owner = who := Classical.byContradiction fun hne =>
        hclear ⟨before, doc, after, hsaved,
          Identity.confused_iff.mpr ⟨of_decide_eq_true hkey, hne⟩, hlater⟩
      exact (lastFor?_eq_some_iff.mpr ⟨howner, before, after, hsaved, hlater⟩).symm

/-- Attribute values that are told apart by their names are not in each other's place. -/
theorem not_shadowed_of_plain (hwho : '|' ∉ who.name.toList)
    (hsaved : ∀ doc ∈ saved, '|' ∉ doc.attributeName.toList) : ¬ Shadowed saved who := by
  rintro ⟨before, doc, after, rfl, hconfused, -⟩
  obtain ⟨hkey, hne⟩ := Identity.confused_iff.mp hconfused
  have hdoc := hsaved doc (List.mem_append_right _ List.mem_cons_self)
  obtain ⟨hname, hvalue⟩ := documentKey_inj hdoc hwho hkey
  exact hne (congrArg₂ Identity.mk hname hvalue)

/-! ### Several documents -/

/-- What is loaded for some attribute values is what was saved last for those that are not empty,
and nothing else. -/
def LoadsLast (saved : List StickyDocument) (values : List (String × String)) : Prop :=
  ∀ key doc, ((ofList saved).loadAll values).find? key = some doc ↔
    key = doc.storageKey ∧
      ∃ entry ∈ values, entry.2 ≠ "" ∧ lastFor? saved ⟨entry.1, entry.2⟩ = some doc

/-- A document that is shadowed is missed: one has been saved, or the one in its place is that of
an attribute value that is not asked for. -/
def Missed (saved : List StickyDocument) (values : List (String × String)) (who : Identity) :
    Prop :=
  Shadowed saved who ∧ ((lastFor? saved who).isSome ∨
    ∀ entry ∈ values, entry.2 ≠ "" → Identity.Confused ⟨entry.1, entry.2⟩ who →
      Shadowed saved ⟨entry.1, entry.2⟩)

theorem find?_loadAll_iff {service : StickyDocuments} (h : service.WellKept)
    {values : List (String × String)} {key : String} :
    (service.loadAll values).find? key = some doc ↔
      key = doc.storageKey ∧
        ∃ entry ∈ values, entry.2 ≠ "" ∧ service.documentOf? entry.1 entry.2 = some doc := by
  constructor
  · intro hfind
    obtain ⟨entry, hentry, hvalue, hstored, hkey⟩ := find?_loadAll hfind
    exact ⟨hkey.symm, entry, hentry, hvalue, hstored⟩
  · rintro ⟨rfl, ⟨name, value⟩, hentry, hvalue, hstored⟩
    have hkey : doc.storageKey = documentKey name value := h _ doc hstored
    rw [hkey, find?_loadAll_of_mem h hentry hvalue]
    exact hstored

/-- Confused attribute values have the same document. -/
theorem documentOf?_of_confused {other : Identity} (service : StickyDocuments)
    (h : other.Confused who) :
    service.documentOf? other.name other.value = service.documentOf? who.name who.value :=
  congrArg service.find? (Identity.confused_iff.mp h).1

/-- **Exactly what was saved last is loaded**, unless something that is shadowed is missed. -/
theorem loadsLast_iff (saved : List StickyDocument) (values : List (String × String)) :
    LoadsLast saved values ↔
      ∀ entry ∈ values, entry.2 ≠ "" → ¬ Missed saved values ⟨entry.1, entry.2⟩ := by
  have hkept := wellKept_ofList saved
  constructor
  · rintro hloads entry hentry hvalue ⟨hshadowed, hmissed⟩
    obtain ⟨doc, hstored, hconfused⟩ := hshadowed.stored
    obtain ⟨hkey, hne⟩ := Identity.confused_iff.mp hconfused
    have hloaded := (find?_loadAll_iff hkept).mpr ⟨rfl, entry, hentry, hvalue, hstored⟩
    rcases hmissed with hsome | hother
    · -- both would have to be loaded under one key
      obtain ⟨last, hlast⟩ := Option.isSome_iff_exists.mp hsome
      obtain ⟨howner, -⟩ := lastFor?_eq_some_iff.mp hlast
      have hboth := (hloads _ _).mpr ⟨rfl, entry, hentry, hvalue, hlast⟩
      have hsame : last.storageKey = doc.storageKey :=
        (congrArg Identity.storageKey howner).trans hkey.symm
      rw [hsame, hloaded] at hboth
      cases hboth
      exact hne howner
    · -- the one that is loaded is not asked for
      obtain ⟨-, other, hmem, hvalue', hlast⟩ := (hloads _ _).mp hloaded
      obtain ⟨howner, -⟩ := lastFor?_eq_some_iff.mp hlast
      rw [howner] at hconfused
      refine (documentOf?_ofList_eq_iff saved ⟨other.1, other.2⟩).mp ?_
        (hother other hmem hvalue' hconfused)
      rw [hlast, documentOf?_of_confused _ hconfused]
      exact hstored
  · intro hclear key doc
    rw [find?_loadAll_iff hkept]
    refine and_congr_right fun _ => ⟨?_, ?_⟩
    · rintro ⟨entry, hentry, hvalue, hstored⟩
      by_cases hshadowed : Shadowed saved ⟨entry.1, entry.2⟩
      · -- the one in its place is asked for as well
        have hother := hclear entry hentry hvalue
        simp only [Missed, hshadowed, true_and, not_or, not_forall] at hother
        obtain ⟨-, other, hmem, hvalue', hconfused, hother⟩ := hother
        refine ⟨other, hmem, hvalue', ?_⟩
        rw [← (documentOf?_ofList_eq_iff saved ⟨other.1, other.2⟩).mpr hother,
          documentOf?_of_confused _ hconfused]
        exact hstored
      · refine ⟨entry, hentry, hvalue, ?_⟩
        rw [← (documentOf?_ofList_eq_iff saved ⟨entry.1, entry.2⟩).mpr hshadowed]
        exact hstored
    · rintro ⟨entry, hentry, hvalue, hlast⟩
      have hshadowed : ¬ Shadowed saved ⟨entry.1, entry.2⟩ := fun hshadowed =>
        hclear entry hentry hvalue ⟨hshadowed, Or.inl (Option.isSome_of_eq_some hlast)⟩
      have hsame := (documentOf?_ofList_eq_iff saved ⟨entry.1, entry.2⟩).mpr hshadowed
      exact ⟨entry, hentry, hvalue, hsame.trans hlast⟩

/-- **The service is a map from attribute values to what was saved last for them**, as far as none is
in the place of another one. Asked for an attribute value, it has the document that was saved last
for exactly this name and value, or none if none was saved, exactly unless the document is
shadowed. Asked for several, it gives exactly those documents, each under its own key, exactly
unless one is missed. Nothing is shadowed if names have no bars, whatever the values are. -/
theorem faithful_iff (saved : List StickyDocument) :
    (∀ who : Identity, (ofList saved).documentOf? who.name who.value = lastFor? saved who ↔
      ¬ Shadowed saved who) ∧
    (∀ values, LoadsLast saved values ↔
      ∀ entry ∈ values, entry.2 ≠ "" → ¬ Missed saved values ⟨entry.1, entry.2⟩) ∧
    ∀ who : Identity, '|' ∉ who.name.toList →
      (∀ doc ∈ saved, '|' ∉ doc.attributeName.toList) → ¬ Shadowed saved who :=
  ⟨documentOf?_ofList_eq_iff saved, loadsLast_iff saved,
    fun _ hwho hsaved => not_shadowed_of_plain hwho hsaved⟩

/-- What is saved for two roommates, for the second one twice. The value of the second
one begins with a bar. -/
def roommates : List StickyDocument :=
  [⟨"id", "1", .ofList [("trial__0", "a")]⟩, ⟨"id", "|1", .empty⟩,
    ⟨"id", "|1", .ofList [("trial__0", "b")]⟩]

/-- Both have what was saved last for them. -/
theorem roommates_stored :
    (∀ who : Identity, '|' ∉ who.name.toList →
      (ofList roommates).documentOf? who.name who.value = lastFor? roommates who) ∧
    lastFor? roommates ⟨"id", "1"⟩ = some ⟨"id", "1", .ofList [("trial__0", "a")]⟩ ∧
    lastFor? roommates ⟨"id", "|1"⟩ = some ⟨"id", "|1", .ofList [("trial__0", "b")]⟩ := by
  obtain ⟨hstored, -, hplain⟩ := faithful_iff roommates
  have hnames : ∀ doc ∈ roommates, '|' ∉ doc.attributeName.toList := by decide
  exact ⟨fun who hwho => (hstored who).mpr (hplain who hwho hnames), by decide, by decide⟩

/-- A document for the value `b` of an attribute whose name ends in a bar. -/
def barred : StickyDocument := ⟨"a|", "b", .ofList [("trial__0", "x")]⟩

/-- It is found for another value of another attribute, for which nothing has been saved. -/
theorem exists_unfaithful :
    ¬ ∀ saved : List StickyDocument,
      (∀ who : Identity, (ofList saved).documentOf? who.name who.value = lastFor? saved who) ∧
        ∀ values, LoadsLast saved values := by
  intro hfaithful
  have hfound : (ofList [barred]).documentOf? "a" "|b" = some barred := by decide
  have hnone : lastFor? [barred] ⟨"a", "|b"⟩ = none := by decide
  have hsame := (hfaithful [barred]).1 ⟨"a", "|b"⟩
  rw [hnone, hfound] at hsame
  cases hsame

end StickyDocuments
end FeatureFlags
