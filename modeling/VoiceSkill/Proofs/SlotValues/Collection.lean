import VoiceSkill.Proofs.Document
import VoiceSkill.Proofs.KeepFirst
import VoiceSkill.Proofs.SlotValues.Forms

/-!
# Collections of slot values

A collection that was read, or an empty one, holds what was given to it and pushed onto it, each
value at its first occurrence (`SlotValues.collection_keeps_first`). Its synonyms are those of the
entries that were kept, and none of the values is lost in their document.
-/

namespace VoiceSkill.SlotValues

/-! ## Pushing -/

/-- The values that are pushed one after the other onto a collection. -/
def pushAll (values : SlotValues) (pushed : List SlotValue) : SlotValues := pushed.foldl push values

theorem entries_push (values : SlotValues) (entry : SlotValue) :
    (values.push entry).entries =
      if entry.value ∈ values.names then values.entries else values.entries ++ [entry] := by
  by_cases h : entry.value ∈ values.names
  · rw [push_of_mem h, if_pos h]
  · rw [entries_push_of_not_mem h, if_neg h]

/-- Of the entries of a list the first ones with their values are kept. -/
theorem entries_ofList_eq (given : List SlotValue) :
    (ofList given).entries = keepFirst SlotValue.value given := by
  induction given using List.reverseRecOn with
  | nil => rfl
  | append_singleton given entry ih =>
      have hnames : entry.value ∈ (ofList given).names ↔
          entry.value ∈ given.map SlotValue.value := by
        rw [names, ih]
        exact mem_map_keepFirst
      calc (ofList (given ++ [entry])).entries
          = ((ofList given).push entry).entries := by
            rw [ofList, List.foldl_append]
            rfl
        _ = keepFirst SlotValue.value (given ++ [entry]) := by
            rw [entries_push, keepFirst_concat, ih]
            simp only [hnames]

theorem pushAll_ofList (given pushed : List SlotValue) :
    (ofList given).pushAll pushed = ofList (given ++ pushed) := by
  rw [ofList, ofList, pushAll, List.foldl_append]

/-! ## Synonyms -/

theorem hasSynonyms_iff {values : SlotValues} :
    values.hasSynonyms = true ↔ ∃ entry ∈ values.entries, ∃ s ∈ entry.synonyms, s ≠ "" := by
  simp only [hasSynonyms, List.any_eq_true, bne_iff_ne]

/-- Every value has its own synonyms in the document, and there is nothing else in it. -/
theorem exists_synonymDocument_eq (values : SlotValues) :
    ∃ members, values.synonymDocument = .object members ∧
      members.Perm (values.entries.map fun entry => (entry.value, .texts entry.synonyms)) := by
  have hkeys : ((values.entries.map fun entry => (entry.value, entry.synonyms)).map
      Prod.fst).Nodup := by
    rw [List.map_map]
    exact values.distinct
  refine ⟨_, rfl, ?_⟩
  have hperm := (Dict.perm_entries_ofList hkeys).map fun e => (e.1, Document.texts e.2)
  rwa [List.map_map] at hperm

/-! ## What a collection holds -/

/-- What a collection begins with: nothing, or the entries that are listed by the value it was read
from. -/
inductive BeginsWith : SlotValues → List SlotValue → Prop
  | nothing : BeginsWith .empty []
  | read {context : Context} {json : Json} {values : SlotValues} {given : List SlotValue}
      (hread : decoder context json = .ok values) (hlists : Lists json given) :
      BeginsWith values given

theorem BeginsWith.eq_ofList {values : SlotValues} {given : List SlotValue}
    (h : values.BeginsWith given) : values = ofList given := by
  cases h with
  | nothing => rfl
  | read hread hlists =>
      obtain ⟨-, entries, hentries, rfl⟩ := decoder_eq_ok_iff.1 hread
      have hsame : some entries = some given :=
        (entries?_eq_some_iff.2 hentries).symm.trans (entries?_eq_some_iff.2 hlists)
      rw [Option.some.inj hsame]

/-- **A collection keeps the first entry of each value.** Of what it was read from and what was
pushed after that it holds the first occurrence of each value, in order. Pushing a value again
changes nothing. It has synonyms exactly if an entry that was kept has one that is not empty, and
the document of synonyms has one member for each value, with the synonyms that were kept. -/
theorem collection_keeps_first {start : SlotValues} {given : List SlotValue}
    (h : start.BeginsWith given) (pushed : List SlotValue) :
    let values := start.pushAll pushed
    values.entries = firstOccurrences SlotValue.value (given ++ pushed) ∧
      values.names.Nodup ∧
      (∀ entry : SlotValue, entry.value ∈ values.names → values.push entry = values) ∧
      (values.hasSynonyms = true ↔
        ∃ entry ∈ values.entries, ∃ s ∈ entry.synonyms, s ≠ "") ∧
      ∃ members, values.synonymDocument = .object members ∧
        members.length = values.entries.length ∧
        ∀ entry ∈ values.entries, (entry.value, .texts entry.synonyms) ∈ members := by
  intro values
  have hvalues : values = ofList (given ++ pushed) := by
    rw [← pushAll_ofList, ← h.eq_ofList]
  obtain ⟨members, hdocument, hperm⟩ := values.exists_synonymDocument_eq
  refine ⟨?_, values.distinct, fun _ => push_of_mem, hasSynonyms_iff, members, hdocument, ?_, ?_⟩
  · rw [hvalues, entries_ofList_eq, keepFirst_eq_firstOccurrences]
  · rw [hperm.length_eq, List.length_map]
  · intro entry hentry
    exact hperm.mem_iff.2 (List.mem_map.2 ⟨entry, hentry, rfl⟩)

/-- A value that was read twice and one that is pushed again: the synonyms that come later are
lost. -/
theorem collection_keeps_first_cities :
    (ofList cities).BeginsWith cities ∧
      ((ofList cities).pushAll [⟨"oslo", ["christiania"]⟩, ⟨"kyiv", [""]⟩]).entries =
        [⟨"paris", ["city of light"]⟩, ⟨"oslo", []⟩, ⟨"rome", []⟩, ⟨"bern", []⟩,
          ⟨"kyiv", [""]⟩] ∧
      ∃ members, ((ofList cities).pushAll
          [⟨"oslo", ["christiania"]⟩, ⟨"kyiv", [""]⟩]).synonymDocument = .object members ∧
        members.length = 5 := by
  have hreadable : citiesInObject.IsReadable Context.text.room :=
    Json.exists_document_iff.1 ⟨_, rfl⟩
  have hbegins : (ofList cities).BeginsWith cities :=
    .read (decoder_eq_ok_iff.2 ⟨hreadable, cities, lists_citiesInObject, rfl⟩) lists_citiesInObject
  obtain ⟨hentries, -, -, -, members, hdocument, hlength, -⟩ :=
    collection_keeps_first hbegins [⟨"oslo", ["christiania"]⟩, ⟨"kyiv", [""]⟩]
  refine ⟨hbegins, hentries.trans (by decide), members, hdocument, ?_⟩
  rw [hlength, hentries]
  decide

end VoiceSkill.SlotValues
