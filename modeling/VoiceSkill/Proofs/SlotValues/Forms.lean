import VoiceSkill.SlotValues
import VoiceSkill.Proofs.Json.Values

/-!
# How slot values may be written

Slot values are listed as texts, as records with synonyms or without, as such records in the form of
a list, or as the members of an object (`SlotValues.Lists`). These forms and no others are read, and
the collection depends on the listed entries alone (`SlotValues.forms_agree`).
-/

namespace VoiceSkill

/-- A list of texts. -/
def Json.ofTexts (texts : List String) : Json := .list (texts.map .string)

/-- No member of an object has the key. -/
def LacksKey (key : String) (members : List (Except Malformed String × Json)) : Prop :=
  ∀ member ∈ members, member.1 ≠ .ok key

/-- Exactly one member of an object has the key, and this is its value. -/
def HasOnce (key : String) (json : Json) (members : List (Except Malformed String × Json)) : Prop :=
  ∃ front back, members = front ++ (.ok key, json) :: back ∧ LacksKey key front ∧
    LacksKey key back

namespace SlotValues

/-! ## Forms -/

/-- How an entry may be written in a list. -/
inductive IsItem : Json → SlotValue → Prop
  | text (value : String) : IsItem (.string value) ⟨value, []⟩
  | record {members : List (Except Malformed String × Json)} {value : String}
      {synonyms : List String} (hvalue : HasOnce "value" (.string value) members)
      (hsynonyms : HasOnce "synonyms" (.ofTexts synonyms) members) :
      IsItem (.object members) ⟨value, synonyms⟩
  | bareRecord {members : List (Except Malformed String × Json)} {value : String}
      (hvalue : HasOnce "value" (.string value) members) (hnone : LacksKey "synonyms" members) :
      IsItem (.object members) ⟨value, []⟩
  | row (value : String) (synonyms : List String) :
      IsItem (.list [.string value, .ofTexts synonyms]) ⟨value, synonyms⟩
  | bareRow (value : String) : IsItem (.list [.string value]) ⟨value, []⟩

/-- How an entry may be written as a member of an object. -/
inductive IsMember : Except Malformed String × Json → SlotValue → Prop
  | texts (value : String) (synonyms : List String) :
      IsMember (.ok value, .ofTexts synonyms) ⟨value, synonyms⟩
  | null (value : String) : IsMember (.ok value, .null) ⟨value, []⟩

/-- A value lists entries, each in one of the forms. -/
inductive Lists : Json → List SlotValue → Prop
  | list {items : List Json} {entries : List SlotValue} (h : List.Forall₂ IsItem items entries) :
      Lists (.list items) entries
  | object {members : List (Except Malformed String × Json)} {entries : List SlotValue}
      (h : List.Forall₂ IsMember members entries) : Lists (.object members) entries

/-! ## What is read -/

theorem mapM_eq_some_iff {α β : Type} {f : α → Option β} {as : List α} {bs : List β} :
    as.mapM f = some bs ↔ List.Forall₂ (fun a b => f a = some b) as bs := by
  induction as generalizing bs with
  | nil => simp [eq_comm]
  | cons a as ih =>
      rw [List.mapM_cons, List.forall₂_cons_left_iff]
      cases ha : f a with
      | none => simp
      | some b =>
          simp only [← ih]
          cases as.mapM f <;> simp [eq_comm]

theorem string?_eq_some_iff {json : Json} {s : String} :
    string? json = some s ↔ json = .string s := by
  cases json <;> simp [string?]

theorem strings?_eq_some_iff {json : Json} {texts : List String} :
    strings? json = some texts ↔ json = .ofTexts texts := by
  cases json with
  | list items =>
      rw [strings?, mapM_eq_some_iff, Json.ofTexts, Json.list.injEq, ← List.forall₂_eq_eq_eq,
        List.forall₂_map_right_iff]
      simp only [string?_eq_some_iff]
  | _ => simp [strings?, Json.ofTexts]

theorem valuesOf_cons_self (key : String) (json : Json)
    (members : List (Except Malformed String × Json)) :
    valuesOf key ((.ok key, json) :: members) = json :: valuesOf key members := by
  simp [valuesOf]

theorem valuesOf_cons_of_ne {key : String} {member : Except Malformed String × Json}
    (h : member.1 ≠ .ok key) (members : List (Except Malformed String × Json)) :
    valuesOf key (member :: members) = valuesOf key members := by
  obtain ⟨k, json⟩ := member
  cases k with
  | error cause => simp [valuesOf]
  | ok k =>
      have hne : k ≠ key := fun heq => h (congrArg Except.ok heq)
      simp [valuesOf, hne]

theorem valuesOf_eq_nil_iff {key : String} {members : List (Except Malformed String × Json)} :
    valuesOf key members = [] ↔ LacksKey key members := by
  induction members with
  | nil => exact iff_of_true rfl (List.forall_mem_nil _)
  | cons member members ih =>
      rw [LacksKey, List.forall_mem_cons, ← LacksKey, ← ih]
      by_cases h : member.1 = .ok key
      · obtain ⟨k, json⟩ := member
        obtain rfl : k = .ok key := h
        simp [valuesOf_cons_self]
      · rw [valuesOf_cons_of_ne h, and_iff_right h]

theorem hasOnce_cons_self {key : String} {json other : Json}
    {members : List (Except Malformed String × Json)} :
    HasOnce key json ((.ok key, other) :: members) ↔ other = json ∧ LacksKey key members := by
  constructor
  · rintro ⟨front, back, hmembers, hfront, hback⟩
    cases front with
    | nil =>
        cases hmembers
        exact ⟨rfl, hback⟩
    | cons first front =>
        cases hmembers
        exact absurd rfl (hfront _ List.mem_cons_self)
  · rintro ⟨rfl, hlacks⟩
    exact ⟨[], members, rfl, List.forall_mem_nil _, hlacks⟩

theorem hasOnce_cons_of_ne {key : String} {json : Json}
    {member : Except Malformed String × Json} {members : List (Except Malformed String × Json)}
    (h : member.1 ≠ .ok key) : HasOnce key json (member :: members) ↔ HasOnce key json members := by
  constructor
  · rintro ⟨front, back, hmembers, hfront, hback⟩
    cases front with
    | nil =>
        cases hmembers
        exact absurd rfl h
    | cons first front =>
        cases hmembers
        exact ⟨front, back, rfl, (List.forall_mem_cons.1 hfront).2, hback⟩
  · rintro ⟨front, back, rfl, hfront, hback⟩
    exact ⟨member :: front, back, rfl, List.forall_mem_cons.2 ⟨h, hfront⟩, hback⟩

theorem valuesOf_eq_singleton_iff {key : String} {json : Json}
    {members : List (Except Malformed String × Json)} :
    valuesOf key members = [json] ↔ HasOnce key json members := by
  induction members with
  | nil => exact iff_of_false nofun fun ⟨front, _, h, _⟩ => by simp at h
  | cons member members ih =>
      by_cases h : member.1 = .ok key
      · obtain ⟨k, other⟩ := member
        obtain rfl : k = .ok key := h
        rw [valuesOf_cons_self, List.cons.injEq, valuesOf_eq_nil_iff, hasOnce_cons_self]
      · rw [valuesOf_cons_of_ne h, ih, hasOnce_cons_of_ne h]

/-- An entry is read in the forms that it may have in a list, and in no other. -/
theorem entry?_eq_some_iff {json : Json} {entry : SlotValue} :
    entry? json = some entry ↔ IsItem json entry := by
  constructor
  · intro h
    unfold entry? at h
    split at h
    · cases h
      exact .text _
    · split at h
      · rename_i hvalue hsynonyms
        cases h
        exact .bareRecord (valuesOf_eq_singleton_iff.1 hvalue) (valuesOf_eq_nil_iff.1 hsynonyms)
      · rename_i hvalue hsynonyms
        obtain ⟨texts, htexts, rfl⟩ := Option.map_eq_some_iff.1 h
        rw [strings?_eq_some_iff.1 htexts] at hsynonyms
        exact .record (valuesOf_eq_singleton_iff.1 hvalue) (valuesOf_eq_singleton_iff.1 hsynonyms)
      · cases h
    · cases h
      exact .bareRow _
    · obtain ⟨texts, htexts, rfl⟩ := Option.map_eq_some_iff.1 h
      rw [strings?_eq_some_iff.1 htexts]
      exact .row _ _
    · cases h
  · intro h
    have hread (texts : List String) : strings? (.ofTexts texts) = some texts :=
      strings?_eq_some_iff.2 rfl
    cases h with
    | text value => rfl
    | record hvalue hsynonyms =>
        simp [valuesOf_eq_singleton_iff.2 hvalue, valuesOf_eq_singleton_iff.2 hsynonyms, entry?,
          hread]
    | bareRecord hvalue hnone =>
        simp [valuesOf_eq_singleton_iff.2 hvalue, valuesOf_eq_nil_iff.2 hnone, entry?]
    | row value synonyms => simp [hread, entry?]
    | bareRow value => rfl

theorem pair?_eq_some_iff {member : Except Malformed String × Json} {entry : SlotValue} :
    pair? member = some entry ↔ IsMember member entry := by
  constructor
  · intro h
    unfold pair? at h
    split at h
    · cases h
      exact .null _
    · obtain ⟨texts, htexts, rfl⟩ := Option.map_eq_some_iff.1 h
      rw [strings?_eq_some_iff.1 htexts]
      exact .texts _ _
    · cases h
  · intro h
    cases h with
    | texts value synonyms =>
        have hread : strings? (.ofTexts synonyms) = some synonyms := strings?_eq_some_iff.2 rfl
        exact congrArg (Option.map _) hread
    | null value => rfl

/-- **The forms in which entries are read.** -/
theorem entries?_eq_some_iff {json : Json} {entries : List SlotValue} :
    entries? json = some entries ↔ Lists json entries := by
  constructor
  · intro h
    cases json with
    | list items => exact .list ((mapM_eq_some_iff.1 h).imp fun _ _ => entry?_eq_some_iff.1)
    | object members => exact .object ((mapM_eq_some_iff.1 h).imp fun _ _ => pair?_eq_some_iff.1)
    | _ => cases h
  · intro h
    cases h with
    | list hitems => exact mapM_eq_some_iff.2 (hitems.imp fun _ _ => entry?_eq_some_iff.2)
    | object hmembers => exact mapM_eq_some_iff.2 (hmembers.imp fun _ _ => pair?_eq_some_iff.2)

theorem ofJson?_eq_some_iff {json : Json} {values : SlotValues} :
    ofJson? json = some values ↔ ∃ entries, Lists json entries ∧ values = ofList entries := by
  rw [ofJson?, Option.map_eq_some_iff]
  exact exists_congr fun entries => and_congr entries?_eq_some_iff eq_comm

/-- Slot values are read from a value that lists them, if it can be read at all. -/
theorem decoder_eq_ok_iff {context : Context} {json : Json} {values : SlotValues} :
    decoder context json = .ok values ↔
      json.IsReadable context.room ∧ ∃ entries, Lists json entries ∧ values = ofList entries := by
  rw [decoder, Decoder.oneOf_eq_ok_iff, ofJson?_eq_some_iff]

/-! ## Written in one form throughout -/

/-- An entry as a record. -/
def asRecord (entry : SlotValue) : Json :=
  .object [(.ok "value", .string entry.value), (.ok "synonyms", .ofTexts entry.synonyms)]

/-- An entry as a list. -/
def asRow (entry : SlotValue) : Json := .list [.string entry.value, .ofTexts entry.synonyms]

/-- An entry as a member of an object. -/
def asMember (entry : SlotValue) : Except Malformed String × Json :=
  (.ok entry.value, .ofTexts entry.synonyms)

/-- An entry without its synonyms as a text. -/
def asText (entry : SlotValue) : Json := .string entry.value

theorem isItem_asRecord (entry : SlotValue) : IsItem (asRecord entry) entry := by
  refine .record ⟨[], _, rfl, List.forall_mem_nil _, ?_⟩ ⟨[_], [], rfl, ?_, List.forall_mem_nil _⟩
  · simp [LacksKey]
  · simp [LacksKey]

theorem isItem_asText {entry : SlotValue} (h : entry.synonyms = []) :
    IsItem (asText entry) entry := by
  obtain ⟨value, synonyms⟩ := entry
  obtain rfl : synonyms = [] := h
  exact .text value

theorem lists_map {write : SlotValue → Json} {entries : List SlotValue}
    (h : ∀ entry ∈ entries, IsItem (write entry) entry) :
    Lists (.list (entries.map write)) entries := by
  refine .list ?_
  rw [List.forall₂_map_left_iff, List.forall₂_same]
  exact h

theorem lists_map_asMember (entries : List SlotValue) :
    Lists (.object (entries.map asMember)) entries := by
  refine .object ?_
  rw [List.forall₂_map_left_iff, List.forall₂_same]
  exact fun entry _ => .texts entry.value entry.synonyms

variable {room : Option Nat}

theorem isReadable_string (s : String) : (Json.string s).IsReadable room :=
  Json.isReadable_of_leaf rfl rfl rfl

theorem isReadable_ofTexts (texts : List String) (h : HasRoom room 1) :
    (Json.ofTexts texts).IsReadable room :=
  Json.isReadable_list_iff.2 ⟨h, List.forall_mem_map.2 fun s _ => isReadable_string s⟩

theorem isReadable_asRecord (entry : SlotValue) (h : HasRoom room 2) :
    (asRecord entry).IsReadable room := by
  have hinner : HasRoom (roomInside room) 1 := hasRoom_roomInside_iff.2 h
  refine Json.isReadable_object_iff.2 ⟨h.mono (by decide), ?_⟩
  simp only [List.forall_mem_cons]
  exact ⟨⟨⟨_, rfl⟩, isReadable_string _⟩, ⟨⟨_, rfl⟩, isReadable_ofTexts _ hinner⟩,
    List.forall_mem_nil _⟩

theorem isReadable_asRow (entry : SlotValue) (h : HasRoom room 2) :
    (asRow entry).IsReadable room := by
  have hinner : HasRoom (roomInside room) 1 := hasRoom_roomInside_iff.2 h
  refine Json.isReadable_list_iff.2 ⟨h.mono (by decide), ?_⟩
  simp only [List.forall_mem_cons]
  exact ⟨isReadable_string _, isReadable_ofTexts _ hinner, List.forall_mem_nil _⟩

/-- **The forms of slot values.** Slot values are read exactly from a JSON value that lists entries,
each in one of its forms, and the collection depends on the entries alone. So it is the same whether
they are written as records, as lists, as an object or, where they have no synonyms, as texts. -/
theorem forms_agree :
    (∀ (context : Context) (json : Json) (values : SlotValues),
      decoder context json = .ok values ↔
        json.IsReadable context.room ∧ ∃ entries, Lists json entries ∧ values = ofList entries) ∧
    (∀ (context : Context) (json other : Json) (entries : List SlotValue),
      Lists json entries → Lists other entries →
        json.IsReadable context.room → other.IsReadable context.room →
          decoder context json = decoder context other) ∧
    ∀ (context : Context) (entries : List SlotValue), HasRoom context.room 3 →
      decoder context (.list (entries.map asRecord)) = .ok (ofList entries) ∧
      decoder context (.list (entries.map asRow)) = .ok (ofList entries) ∧
      decoder context (.object (entries.map asMember)) = .ok (ofList entries) ∧
      ((∀ entry ∈ entries, entry.synonyms = []) →
        decoder context (.list (entries.map asText)) = .ok (ofList entries)) := by
  have hread {context : Context} {json : Json} {entries : List SlotValue}
      (hreadable : json.IsReadable context.room) (hlists : Lists json entries) :
      decoder context json = .ok (ofList entries) :=
    decoder_eq_ok_iff.2 ⟨hreadable, entries, hlists, rfl⟩
  refine ⟨fun _ _ _ => decoder_eq_ok_iff, ?_, ?_⟩
  · intro context json other entries hlists hlists' hreadable hreadable'
    rw [hread hreadable hlists, hread hreadable' hlists']
  · intro context entries hroom
    have hlist : HasRoom context.room 1 := hroom.mono (by decide)
    have hitem : HasRoom (roomInside context.room) 2 := hasRoom_roomInside_iff.2 hroom
    refine ⟨hread ?_ (lists_map fun entry _ => isItem_asRecord entry),
      hread ?_ (lists_map fun entry _ => .row entry.value entry.synonyms),
      hread ?_ (lists_map_asMember entries),
      fun hnone => hread ?_ (lists_map fun entry hentry => isItem_asText (hnone entry hentry))⟩
    · exact Json.isReadable_list_iff.2
        ⟨hlist, List.forall_mem_map.2 fun entry _ => isReadable_asRecord entry hitem⟩
    · exact Json.isReadable_list_iff.2
        ⟨hlist, List.forall_mem_map.2 fun entry _ => isReadable_asRow entry hitem⟩
    · exact Json.isReadable_object_iff.2 ⟨hlist, List.forall_mem_map.2 fun entry _ =>
        ⟨⟨_, rfl⟩, isReadable_ofTexts _ (hitem.mono (by decide))⟩⟩
    · exact Json.isReadable_list_iff.2
        ⟨hlist, List.forall_mem_map.2 fun entry _ => isReadable_string entry.value⟩

/-- Cities in a list of all forms, with a member that is no field and a value that stands twice. -/
def citiesInList : Json :=
  .list [
    .object [(.ok "synonyms", .ofTexts ["city of light"]), (.ok "note", .bool true),
      (.ok "value", .string "paris")],
    .object [(.ok "value", .string "oslo")],
    .string "rome",
    .list [.string "paris", .ofTexts ["lutetia"]],
    .list [.string "bern"]]

/-- The same cities in an object. -/
def citiesInObject : Json :=
  .object [(.ok "paris", .ofTexts ["city of light"]), (.ok "oslo", .ofTexts []),
    (.ok "rome", .null), (.ok "paris", .ofTexts ["lutetia"]), (.ok "bern", .null)]

/-- The entries that both list. -/
def cities : List SlotValue :=
  [⟨"paris", ["city of light"]⟩, ⟨"oslo", []⟩, ⟨"rome", []⟩, ⟨"paris", ["lutetia"]⟩, ⟨"bern", []⟩]

theorem lists_citiesInList : Lists citiesInList cities := entries?_eq_some_iff.1 (by decide)

theorem lists_citiesInObject : Lists citiesInObject cities := entries?_eq_some_iff.1 (by decide)

theorem forms_agree_cities :
    Lists citiesInList cities ∧ Lists citiesInObject cities ∧
      citiesInList.IsReadable Context.text.room ∧ citiesInObject.IsReadable Context.text.room ∧
      HasRoom Context.text.room 3 ∧
      decoder .text citiesInList = decoder .text citiesInObject ∧
      decoder .text (.object (cities.map asMember)) = .ok (ofList cities) ∧
      decoder .text (.list [.string "oslo", .string "rome"]) =
        .ok (ofList [⟨"oslo", []⟩, ⟨"rome", []⟩]) := by
  obtain ⟨-, hagree, hwritten⟩ := forms_agree
  have hlist : citiesInList.IsReadable Context.text.room := Json.exists_document_iff.1 ⟨_, rfl⟩
  have hobject : citiesInObject.IsReadable Context.text.room := Json.exists_document_iff.1 ⟨_, rfl⟩
  have hroom : HasRoom Context.text.room 3 := by simp [Context.text, HasRoom]
  exact ⟨lists_citiesInList, lists_citiesInObject, hlist, hobject, hroom,
    hagree .text _ _ cities lists_citiesInList lists_citiesInObject hlist hobject,
    (hwritten .text cities hroom).2.2.1,
    (hwritten .text [⟨"oslo", []⟩, ⟨"rome", []⟩] hroom).2.2.2 (by decide)⟩

end SlotValues

end VoiceSkill
