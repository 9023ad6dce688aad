import VoiceSkill.Proofs.Json.Records
import VoiceSkill.Proofs.SlotValues.Forms
import VoiceSkill.Proofs.Uuid
import VoiceSkill.Utterance

/-!
# Reading utterances again

An object is read as a token exactly if it says what a token has to say; it is read as a reference
to a slot if it also names an entity and a slot, and as a literal text otherwise
(`Token.decoder_eq_ok_iff`). So a token is read again from its members in any order, and so is an
utterance (`Utterance.comes_back`).
-/

namespace VoiceSkill

/-! ## Members of objects -/

section Members

variable {key : String} {document : Document} {members : List (String × Document)}

theorem jsonMembers_eq_map (members : List (String × Document)) :
    Document.jsonMembers members = members.map fun member => (.ok member.1, member.2.json) := by
  induction members with
  | nil => rfl
  | cons member members ih => rw [Document.jsonMembers, ih, List.map_cons]

theorem lacksKey_jsonMembers (h : key ∉ members.map Prod.fst) :
    LacksKey key (Document.jsonMembers members) := by
  induction members with
  | nil => exact List.forall_mem_nil _
  | cons member members ih =>
      rw [List.map_cons, List.mem_cons, not_or] at h
      exact List.forall_mem_cons.2 ⟨fun heq => h.1 (Except.ok.inj heq).symm, ih h.2⟩

/-- Where no key stands twice, every member stands once. -/
theorem hasOnce_jsonMembers (hkeys : (members.map Prod.fst).Nodup)
    (h : (key, document) ∈ members) :
    HasOnce key document.json (Document.jsonMembers members) := by
  induction members with
  | nil => cases h
  | cons member members ih =>
      obtain ⟨hkey, hkeys⟩ := List.nodup_cons.1 hkeys
      rcases List.mem_cons.1 h with rfl | h
      · exact SlotValues.hasOnce_cons_self.2 ⟨rfl, lacksKey_jsonMembers hkey⟩
      · have hne : member.1 ≠ key := fun heq => hkey (heq ▸ List.mem_map_of_mem h)
        refine (SlotValues.hasOnce_cons_of_ne ?_).2 (ih hkeys h)
        exact fun heq => hne (Except.ok.inj heq)

/-- A document is an object with the given members, in any order. -/
def Document.HasMembers (members : List (String × Document)) (document : Document) : Prop :=
  ∃ written, document = .object written ∧ written.Perm members

theorem Document.hasMembers_record (hkeys : (members.map Prod.fst).Nodup) :
    (Document.record members).HasMembers members :=
  ⟨_, rfl, Dict.perm_entries_ofList hkeys⟩

theorem Fields.get_of_mem {α : Type} {context : Context} {values : List (String × Json)}
    {json : Json} {decoder : Decoder α} {a : α} (hkeys : (values.map Prod.fst).Nodup)
    (h : (key, json) ∈ values) (hread : decoder context json = .ok a) :
    Fields.get ⟨context, values⟩ key decoder = .ok a := by
  obtain ⟨front, back, rfl⟩ := List.append_of_mem h
  have hfront : key ∉ front.map Prod.fst := by
    intro hmem
    rw [List.map_append, List.map_cons, List.nodup_middle] at hkeys
    exact (List.nodup_cons.1 hkeys).1 (List.mem_append_left _ hmem)
  rw [Fields.get, Fields.get?_put_self hfront, hread]
  rfl

end Members

namespace Token

/-! ## What an object says -/

variable {members : List (Except Malformed String × Json)}

/-- The members of an object give what every token has, each of them once. -/
structure Carries (members : List (Except Malformed String × Json)) (text : String) (id : Uuid)
    (userDefined : Bool) : Prop where
  text : HasOnce "text" (.string text) members
  id : ∃ spelling, HasOnce "id" (.string spelling) members ∧ Uuid.ofText? spelling = some id
  userDefined : HasOnce "userDefined" (.bool userDefined) members

/-- The members of an object name an entity and a slot, each of them once. -/
def NamesSlot (members : List (Except Malformed String × Json)) : Prop :=
  ∃ entityType slotName, HasOnce "meta" (.string entityType) members ∧
    HasOnce "alias" (.string slotName) members

/-- What token the members of an object denote. -/
inductive Denotes (members : List (Except Malformed String × Json)) : Token Uuid → Prop
  | slotRef {entityType slotName text : String} {id : Uuid} {userDefined : Bool}
      (hmeta : HasOnce "meta" (.string entityType) members)
      (halias : HasOnce "alias" (.string slotName) members)
      (h : Carries members text id userDefined) :
      Denotes members (.slotRef entityType slotName text id userDefined)
  | literal {text : String} {id : Uuid} {userDefined : Bool} (hnot : ¬ NamesSlot members)
      (h : Carries members text id userDefined) : Denotes members (.literal text id userDefined)

theorem onlyValue?_eq_some_iff {key : String} {json : Json} :
    onlyValue? key members = some json ↔ HasOnce key json members := by
  rw [← SlotValues.valuesOf_eq_singleton_iff, onlyValue?]
  split
  · rename_i value hvalue
    rw [hvalue, Option.some_inj, List.singleton_inj]
  · rename_i hnone
    exact iff_of_false nofun (hnone json)

theorem bool?_eq_some_iff {json : Json} {b : Bool} : bool? json = some b ↔ json = .bool b := by
  cases json <;> simp [bool?]

theorem uuid?_eq_some_iff {json : Json} {id : Uuid} :
    uuid? json = some id ↔
      ∃ spelling, json = .string spelling ∧ Uuid.ofText? spelling = some id := by
  cases json <;> simp [uuid?]

theorem literalOf?_eq_some_iff {token : Token Uuid} :
    literalOf? members = some token ↔
      ∃ text id userDefined, Carries members text id userDefined ∧
        token = .literal text id userDefined := by
  simp only [literalOf?, Option.bind_eq_bind, Option.bind_eq_some_iff, onlyValue?_eq_some_iff,
    SlotValues.string?_eq_some_iff, uuid?_eq_some_iff, bool?_eq_some_iff]
  constructor
  · rintro ⟨_, htext, text, rfl, _, hid, id, ⟨spelling, rfl, hspelling⟩, _, hflag, flag, rfl, h⟩
    cases h
    exact ⟨text, id, flag, ⟨htext, ⟨spelling, hid, hspelling⟩, hflag⟩, rfl⟩
  · rintro ⟨text, id, flag, ⟨htext, ⟨spelling, hid, hspelling⟩, hflag⟩, rfl⟩
    exact ⟨_, htext, text, rfl, _, hid, id, ⟨spelling, rfl, hspelling⟩, _, hflag, flag, rfl, rfl⟩

theorem slotRefOf?_eq_some_iff {token : Token Uuid} :
    slotRefOf? members = some token ↔
      ∃ entityType slotName text id userDefined,
        HasOnce "meta" (.string entityType) members ∧ HasOnce "alias" (.string slotName) members ∧
          Carries members text id userDefined ∧
          token = .slotRef entityType slotName text id userDefined := by
  simp only [slotRefOf?, Option.bind_eq_bind, Option.bind_eq_some_iff, onlyValue?_eq_some_iff,
    SlotValues.string?_eq_some_iff, uuid?_eq_some_iff, bool?_eq_some_iff]
  constructor
  · rintro ⟨_, hmeta, entityType, rfl, _, halias, slotName, rfl, _, htext, text, rfl, _, hid, id,
      ⟨spelling, rfl, hspelling⟩, _, hflag, flag, rfl, h⟩
    cases h
    exact ⟨entityType, slotName, text, id, flag, hmeta, halias,
      ⟨htext, ⟨spelling, hid, hspelling⟩, hflag⟩, rfl⟩
  · rintro ⟨entityType, slotName, text, id, flag, hmeta, halias,
      ⟨htext, ⟨spelling, hid, hspelling⟩, hflag⟩, rfl⟩
    exact ⟨_, hmeta, entityType, rfl, _, halias, slotName, rfl, _, htext, text, rfl, _, hid, id,
      ⟨spelling, rfl, hspelling⟩, _, hflag, flag, rfl, rfl⟩

theorem ofJson?_object_eq_some_iff {token : Token Uuid} :
    ofJson? (.object members) = some token ↔ Denotes members token := by
  constructor
  · intro h
    rw [ofJson?] at h
    split at h
    · rename_i found hfound
      cases h
      obtain ⟨entityType, slotName, text, id, flag, hmeta, halias, hcarries, rfl⟩ :=
        slotRefOf?_eq_some_iff.1 hfound
      exact .slotRef hmeta halias hcarries
    · rename_i hnone
      obtain ⟨text, id, flag, hcarries, rfl⟩ := literalOf?_eq_some_iff.1 h
      refine .literal (fun ⟨entityType, slotName, hmeta, halias⟩ => ?_) hcarries
      rw [slotRefOf?_eq_some_iff.2
        ⟨entityType, slotName, text, id, flag, hmeta, halias, hcarries, rfl⟩] at hnone
      cases hnone
  · intro h
    rw [ofJson?]
    cases h with
    | slotRef hmeta halias h =>
        rw [slotRefOf?_eq_some_iff.2 ⟨_, _, _, _, _, hmeta, halias, h, rfl⟩]
    | literal hnot h =>
        have hnone : slotRefOf? members = none := by
          refine Option.eq_none_iff_forall_ne_some.2 fun token htoken => ?_
          obtain ⟨entityType, slotName, _, _, _, hmeta, halias, -, -⟩ :=
            slotRefOf?_eq_some_iff.1 htoken
          exact hnot ⟨entityType, slotName, hmeta, halias⟩
        rw [hnone]
        exact literalOf?_eq_some_iff.2 ⟨_, _, _, h, rfl⟩

/-- **The token that a value is read as.** -/
theorem decoder_eq_ok_iff {context : Context} {json : Json} {token : Token Uuid} :
    decoder context json = .ok token ↔
      json.IsReadable context.room ∧ ∃ members, json = .object members ∧ Denotes members token := by
  rw [decoder, Decoder.oneOf_eq_ok_iff]
  cases json with
  | object members => simp [ofJson?_object_eq_some_iff]
  | _ => simp [ofJson?]

theorem isSlotRef_iff_of_denotes {token : Token Uuid} (h : Denotes members token) :
    token.isSlotRef = true ↔ NamesSlot members := by
  cases h with
  | slotRef hmeta halias _ => exact iff_of_true rfl ⟨_, _, hmeta, halias⟩
  | literal hnot _ => exact iff_of_false nofun hnot

/-- Whatever carries what every token has is read, as a reference if it names a slot. -/
theorem exists_denotes {text : String} {id : Uuid} {userDefined : Bool}
    (h : Carries members text id userDefined) :
    ∃ token, Denotes members token ∧ token.text = text ∧ token.id = id ∧
      token.userDefined = userDefined := by
  by_cases hslot : NamesSlot members
  · obtain ⟨entityType, slotName, hmeta, halias⟩ := hslot
    exact ⟨_, .slotRef hmeta halias h, rfl, rfl, rfl⟩
  · exact ⟨_, .literal hslot h, rfl, rfl, rfl⟩

/-- A token carries what it is read with. -/
theorem carries_of_denotes {token : Token Uuid} (h : Denotes members token) :
    Carries members token.text token.id token.userDefined := by
  cases h with
  | slotRef _ _ h => exact h
  | literal _ h => exact h

/-! ## Written tokens -/

/-- The members that a token is written with. -/
def writtenMembers : Token Uuid → List (String × Document)
  | literal text id userDefined =>
    [("text", .string text), ("id", .string id.text), ("userDefined", .bool userDefined)]
  | slotRef entityType slotName text id userDefined =>
    [("meta", .string entityType), ("alias", .string slotName), ("text", .string text),
      ("id", .string id.text), ("userDefined", .bool userDefined)]

theorem document_eq (token : Token Uuid) : token.document = .record token.writtenMembers := by
  cases token <;> rfl

theorem nodup_writtenMembers (token : Token Uuid) :
    (token.writtenMembers.map Prod.fst).Nodup := by
  cases token <;> simp [writtenMembers]

theorem string_or_bool_of_mem {token : Token Uuid} {member : String × Document}
    (h : member ∈ token.writtenMembers) :
    (∃ s, member.2 = .string s) ∨ ∃ b, member.2 = .bool b := by
  have hvalues : ∀ member ∈ token.writtenMembers,
      (∃ s, member.2 = .string s) ∨ ∃ b, member.2 = .bool b := by
    cases token <;> simp [writtenMembers]
  exact hvalues member h

variable {token : Token Uuid}

/-- The members of a token denote it, in whatever order they stand. -/
theorem denotes_of_perm {written : List (String × Document)}
    (h : written.Perm token.writtenMembers) : Denotes (Document.jsonMembers written) token := by
  have hkeys : (written.map Prod.fst).Nodup :=
    (h.map Prod.fst).nodup_iff.2 token.nodup_writtenMembers
  have honce (key : String) (document : Document)
      (hmem : (key, document) ∈ token.writtenMembers) :
      HasOnce key document.json (Document.jsonMembers written) :=
    hasOnce_jsonMembers hkeys (h.mem_iff.2 hmem)
  cases token with
  | literal text id userDefined =>
      refine .literal ?_ ⟨honce _ (.string text) (by simp [writtenMembers]),
        ⟨id.text, honce _ (.string id.text) (by simp [writtenMembers]), id.ofText?_text⟩,
        honce _ (.bool userDefined) (by simp [writtenMembers])⟩
      have hlacks : LacksKey "meta" (Document.jsonMembers written) := by
        refine lacksKey_jsonMembers fun hmeta => ?_
        rw [(h.map Prod.fst).mem_iff] at hmeta
        simp [writtenMembers] at hmeta
      rintro ⟨entityType, -, ⟨front, back, hmembers, -, -⟩, -⟩
      exact hlacks (.ok "meta", .string entityType) (by simp [hmembers]) rfl
  | slotRef entityType slotName text id userDefined =>
      exact .slotRef (honce _ (.string entityType) (by simp [writtenMembers]))
        (honce _ (.string slotName) (by simp [writtenMembers]))
        ⟨honce _ (.string text) (by simp [writtenMembers]),
          ⟨id.text, honce _ (.string id.text) (by simp [writtenMembers]), id.ofText?_text⟩,
          honce _ (.bool userDefined) (by simp [writtenMembers])⟩

/-- A token is read again from its members in any order. -/
theorem decoder_of_hasMembers {context : Context} {document : Document}
    (h : document.HasMembers token.writtenMembers) (hroom : HasRoom context.room 1) :
    decoder context document.json = .ok token := by
  obtain ⟨written, rfl, hperm⟩ := h
  refine decoder_eq_ok_iff.2 ⟨?_, Document.jsonMembers written, rfl, denotes_of_perm hperm⟩
  rw [Document.json, Json.isReadable_object_iff, jsonMembers_eq_map]
  refine ⟨hroom, List.forall_mem_map.2 fun member hmember => ⟨⟨member.1, rfl⟩, ?_⟩⟩
  rcases string_or_bool_of_mem (hperm.mem_iff.1 hmember) with ⟨s, hs⟩ | ⟨b, hb⟩
  · rw [hs]
    exact Json.isReadable_of_leaf rfl rfl rfl
  · rw [hb]
    exact Json.isReadable_of_leaf rfl rfl rfl

theorem numbersReadBack_of_hasMembers {document : Document}
    (h : document.HasMembers token.writtenMembers) : document.NumbersReadBack := by
  obtain ⟨written, rfl, hperm⟩ := h
  intro n hn
  obtain ⟨member, hmember, hn⟩ := Document.mem_numbers_object_iff.1 hn
  rcases string_or_bool_of_mem (hperm.mem_iff.1 hmember) with ⟨s, hs⟩ | ⟨b, hb⟩
  · rw [hs] at hn
    cases hn
  · rw [hb] at hn
    cases hn

end Token

namespace Utterance

open RecordType (admits_of_decoder)

variable {utterance : Utterance Uuid} {document : Document} {context : Context}

/-! ## Written utterances -/

/-- The members that an utterance is written with, given the documents of its tokens. -/
def writtenMembers (utterance : Utterance Uuid) (data : List Document) :
    List (String × Document) :=
  [("data", .list data), ("isTemplate", .bool utterance.isTemplate),
    ("count", .natural utterance.count.toNat), ("updated", .natural utterance.updated.toNat)]

/-- The utterance is written as a document: as an object with its members, in any order, and with
its tokens as objects that have theirs. -/
def IsWrittenAs (utterance : Utterance Uuid) (document : Document) : Prop :=
  ∃ data, List.Forall₂ (fun token d => d.HasMembers token.writtenMembers) utterance.tokens data ∧
    document.HasMembers (utterance.writtenMembers data)

theorem nodup_writtenMembers (utterance : Utterance Uuid) (data : List Document) :
    ((utterance.writtenMembers data).map Prod.fst).Nodup := by
  simp [writtenMembers]

/-- An utterance is written as its document. -/
theorem isWrittenAs_document (utterance : Utterance Uuid) :
    utterance.IsWrittenAs utterance.document := by
  refine ⟨utterance.tokens.map Token.document, ?_,
    Document.hasMembers_record (utterance.nodup_writtenMembers _)⟩
  rw [List.forall₂_map_right_iff, List.forall₂_same]
  intro token _
  rw [token.document_eq]
  exact Document.hasMembers_record token.nodup_writtenMembers

theorem count32_natural (n : UInt32) (context : Context) :
    count32 context (Document.natural n.toNat).json = .ok n := by
  rw [count32, Decoder.below_natural n.toNat_lt]
  exact congrArg Except.ok (UInt32.ofNat_toNat (x := n))

theorem count64_natural (n : UInt64) (context : Context) :
    count64 context (Document.natural n.toNat).json = .ok n := by
  rw [count64, Decoder.below_natural n.toNat_lt]
  exact congrArg Except.ok (UInt64.ofNat_toNat (x := n))

theorem items_of_hasMembers {tokens : List (Token Uuid)} {data : List Document}
    (h : List.Forall₂ (fun token d => d.HasMembers token.writtenMembers) tokens data)
    (hroom : HasRoom context.room 1) :
    Decoder.items Token.decoder context (Document.jsonItems data) = .ok tokens := by
  induction h with
  | nil => rfl
  | cons hfirst _ ih =>
      rw [Document.jsonItems, Decoder.items, Token.decoder_of_hasMembers hfirst hroom, ih]
      rfl

/-- An utterance is read again from what it is written as. -/
theorem decoder_of_isWrittenAs (h : utterance.IsWrittenAs document)
    (hroom : HasRoom context.room 3) : decoder context document.json = .ok utterance := by
  obtain ⟨data, htokens, written, rfl, hperm⟩ := h
  have hinside : HasRoom context.inside.room 2 := hasRoom_roomInside_iff.2 hroom
  have hitem : HasRoom context.inside.inside.room 1 := hasRoom_roomInside_iff.2 hinside
  have hdata : Decoder.list Token.decoder context.inside (Document.list data).json =
      .ok utterance.tokens := by
    rw [Document.json, Decoder.list, Context.enter_of_hasRoom (hinside.mono (by decide))]
    exact items_of_hasMembers htokens hitem
  have hflag : Decoder.bool context.inside (Document.bool utterance.isTemplate).json =
      .ok utterance.isTemplate := rfl
  have hcount := count32_natural utterance.count context.inside
  have hupdated := count64_natural utterance.updated context.inside
  have hkeys : (written.map Prod.fst).Nodup :=
    (hperm.map Prod.fst).nodup_iff.2 (utterance.nodup_writtenMembers data)
  have hadmits : ∀ member ∈ utterance.writtenMembers data,
      recordType.Admits context.inside member.1 member.2 := by
    simp only [writtenMembers, List.forall_mem_cons]
    exact ⟨admits_of_decoder hdata rfl, admits_of_decoder hflag rfl,
      admits_of_decoder hcount rfl, admits_of_decoder hupdated rfl, List.forall_mem_nil _⟩
  have hfields := recordType.fieldsOf_object hkeys (hroom.mono (by decide))
    fun member hmember => hadmits member (hperm.mem_iff.1 hmember)
  have hget {α : Type} {decode : Decoder α} {a : α} (key : String) (d : Document)
      (hmem : (key, d) ∈ utterance.writtenMembers data)
      (hread : decode context.inside d.json = .ok a) :
      Fields.get ⟨context.inside, written.map fun member => (member.1, member.2.json)⟩ key decode =
        .ok a := by
    have hjson : (key, d.json) ∈ written.map fun member => (member.1, member.2.json) :=
      List.mem_map.2 ⟨(key, d), hperm.mem_iff.2 hmem, rfl⟩
    exact Fields.get_of_mem (by rwa [List.map_map]) hjson hread
  rw [decoder, hfields]
  show (Fields.get _ "data" _ >>= _) = _
  simp only [hget "data" (.list data) (by simp [writtenMembers]) hdata,
    hget "isTemplate" (.bool _) (by simp [writtenMembers]) hflag,
    hget "count" (.natural _) (by simp [writtenMembers]) hcount,
    hget "updated" (.natural _) (by simp [writtenMembers]) hupdated]
  rfl

theorem numbersReadBack_items {tokens : List (Token Uuid)} {data : List Document}
    (h : List.Forall₂ (fun token d => d.HasMembers token.writtenMembers) tokens data) :
    ∀ d ∈ data, d.NumbersReadBack := by
  induction h with
  | nil => exact List.forall_mem_nil _
  | cons hfirst _ ih =>
      exact List.forall_mem_cons.2 ⟨Token.numbersReadBack_of_hasMembers hfirst, ih⟩

theorem numbersReadBack_natural {n : Nat} (h : n < UInt64.size) :
    (Document.natural n).NumbersReadBack := by
  intro number hnumber
  rw [List.mem_singleton.1 hnumber]
  exact Number.readsBack_integer (by omega) (by exact_mod_cast h)

/-- The numbers in what an utterance is written as are read back from their texts. -/
theorem numbersReadBack_of_isWrittenAs (h : utterance.IsWrittenAs document) :
    document.NumbersReadBack := by
  obtain ⟨data, htokens, written, rfl, hperm⟩ := h
  have hdata : (Document.list data).NumbersReadBack := by
    intro n hn
    obtain ⟨d, hd, hn⟩ := Document.mem_numbers_list_iff.1 hn
    exact numbersReadBack_items htokens d hd n hn
  have hmembers : ∀ member ∈ utterance.writtenMembers data, member.2.NumbersReadBack := by
    simp only [writtenMembers, List.forall_mem_cons]
    exact ⟨hdata, List.forall_mem_nil _,
      numbersReadBack_natural (utterance.count.toNat_lt.trans (by decide)),
      numbersReadBack_natural utterance.updated.toNat_lt, List.forall_mem_nil _⟩
  intro n hn
  obtain ⟨member, hmember, hn⟩ := Document.mem_numbers_object_iff.1 hn
  exact hmembers member (hperm.mem_iff.1 hmember) n hn

/-- **Utterances come back from what they are written as**, each token as what it was: from the
value and from its texts, spread out or compact, in whatever order the members of objects stand
there. An object that can be read at all is read as a reference to a slot exactly if it has what
every token has and names an entity and a slot, each of them once. If it has what every token has,
it is read with that in any case, and names of an entity and a slot alone decide what it is read
as. -/
theorem comes_back :
    (∀ utterance : Utterance Uuid, utterance.IsWrittenAs utterance.document) ∧
    (∀ (utterance : Utterance Uuid) (document : Document), utterance.IsWrittenAs document →
      decoder.ofDocument document = .ok utterance ∧
      decoder.ofText document.pretty = .ok utterance ∧
      decoder.ofText document.compact = .ok utterance) ∧
    (∀ (context : Context) (members : List (Except Malformed String × Json)),
      (Json.object members).IsReadable context.room →
      ((∃ token, Token.decoder context (.object members) = .ok token ∧ token.isSlotRef = true) ↔
        (∃ text id userDefined, Token.Carries members text id userDefined) ∧
          Token.NamesSlot members)) ∧
    (∀ (context : Context) (members : List (Except Malformed String × Json)) (text : String)
      (id : Uuid) (userDefined : Bool), (Json.object members).IsReadable context.room →
      Token.Carries members text id userDefined →
      ∃ token, Token.decoder context (.object members) = .ok token ∧
        token.text = text ∧ token.id = id ∧ token.userDefined = userDefined ∧
        (token.isSlotRef = true ↔ Token.NamesSlot members)) := by
  refine ⟨isWrittenAs_document, ?written, ?reference, ?told⟩
  case written =>
    intro utterance document h
    have hnumbers := numbersReadBack_of_isWrittenAs h
    have htext : decoder .text document.json = .ok utterance :=
      decoder_of_isWrittenAs h (by simp [Context.text, HasRoom])
    exact ⟨decoder_of_isWrittenAs h (hasRoom_none 3),
      (decoder.ofText_pretty hnumbers).trans htext, (decoder.ofText_compact hnumbers).trans htext⟩
  case reference =>
    intro context members hreadable
    constructor
    · rintro ⟨token, htoken, hslot⟩
      obtain ⟨-, _, hobject, hdenotes⟩ := Token.decoder_eq_ok_iff.1 htoken
      cases hobject
      exact ⟨⟨_, _, _, Token.carries_of_denotes hdenotes⟩,
        (Token.isSlotRef_iff_of_denotes hdenotes).1 hslot⟩
    · rintro ⟨⟨text, id, userDefined, hcarries⟩, hnames⟩
      obtain ⟨token, hdenotes, -⟩ := Token.exists_denotes hcarries
      exact ⟨token, Token.decoder_eq_ok_iff.2 ⟨hreadable, members, rfl, hdenotes⟩,
        (Token.isSlotRef_iff_of_denotes hdenotes).2 hnames⟩
  case told =>
    intro context members text id userDefined hreadable hcarries
    obtain ⟨token, hdenotes, htext, hid, hflag⟩ := Token.exists_denotes hcarries
    exact ⟨token, Token.decoder_eq_ok_iff.2 ⟨hreadable, members, rfl, hdenotes⟩, htext, hid, hflag,
      Token.isSlotRef_iff_of_denotes hdenotes⟩

/-- A sample with a reference to a city between two literal texts. -/
def flightSample : Utterance Uuid where
  tokens := [.literal "fly to " ⟨1⟩ false, .slotRef "@city" "city" "\x7bcity\x7d" ⟨2⟩ true,
    .literal "" ⟨3⟩ true]
  isTemplate := true
  count := 4294967295
  updated := 18446744073709551615

/-- The sample with all members in the opposite order. -/
def turnedDocument : Document :=
  .object (flightSample.writtenMembers
    (flightSample.tokens.map fun token => .object token.writtenMembers.reverse)).reverse

theorem isWrittenAs_turnedDocument : flightSample.IsWrittenAs turnedDocument := by
  refine ⟨_, ?_, _, rfl, List.reverse_perm _⟩
  rw [List.forall₂_map_right_iff, List.forall₂_same]
  exact fun token _ => ⟨_, rfl, List.reverse_perm _⟩

/-- The members of a token that names a slot, with an entity that may be a text or not. -/
def cityMembers (entityType : Json) : List (Except Malformed String × Json) :=
  [(.ok "alias", .string "city"), (.ok "id", .string (Uuid.text ⟨2⟩)), (.ok "meta", entityType),
    (.ok "note", .null), (.ok "text", .string "\x7bcity\x7d"), (.ok "userDefined", .bool true)]

theorem carries_cityMembers (entityType : Json) :
    Token.Carries (cityMembers entityType) "\x7bcity\x7d" ⟨2⟩ true := by
  refine ⟨?_, ⟨Uuid.text ⟨2⟩, ?_, Uuid.ofText?_text ⟨2⟩⟩, ?_⟩
  all_goals exact SlotValues.valuesOf_eq_singleton_iff.1 rfl

/-- The sample comes back, and a token that names an entity by a text is a reference, while one with
a truth value there is a literal text. -/
theorem comes_back_flightSample :
    decoder.ofDocument turnedDocument = .ok flightSample ∧
      decoder.ofText flightSample.document.pretty = .ok flightSample ∧
      (∃ token, Token.decoder .text (.object (cityMembers (.string "@city"))) = .ok token ∧
        token.isSlotRef = true) ∧
      ∃ token, Token.decoder .text (.object (cityMembers (.bool true))) = .ok token ∧
        token.text = "\x7bcity\x7d" ∧ token.isSlotRef = false := by
  obtain ⟨hdocument, hwritten, hreference, htold⟩ := comes_back
  have hnamed : (Json.object (cityMembers (.string "@city"))).IsReadable Context.text.room :=
    Json.exists_document_iff.1 ⟨_, rfl⟩
  have hother : (Json.object (cityMembers (.bool true))).IsReadable Context.text.room :=
    Json.exists_document_iff.1 ⟨_, rfl⟩
  have hnames : Token.NamesSlot (cityMembers (.string "@city")) :=
    ⟨"@city", "city", SlotValues.valuesOf_eq_singleton_iff.1 rfl,
      SlotValues.valuesOf_eq_singleton_iff.1 rfl⟩
  have hnot : ¬ Token.NamesSlot (cityMembers (.bool true)) := by
    rintro ⟨entityType, -, hmeta, -⟩
    have hvalue : SlotValues.valuesOf "meta" (cityMembers (.bool true)) = [.bool true] := rfl
    rw [SlotValues.valuesOf_eq_singleton_iff.2 hmeta] at hvalue
    cases hvalue
  refine ⟨(hwritten _ _ isWrittenAs_turnedDocument).1, (hwritten _ _ (hdocument _)).2.1,
    (hreference .text _ hnamed).2 ⟨⟨_, _, _, carries_cityMembers _⟩, hnames⟩, ?_⟩
  obtain ⟨token, htoken, htext, -, -, hslot⟩ :=
    htold .text _ _ _ _ hother (carries_cityMembers (.bool true))
  exact ⟨token, htoken, htext, Bool.eq_false_iff.2 (mt hslot.1 hnot)⟩

end Utterance

end VoiceSkill
