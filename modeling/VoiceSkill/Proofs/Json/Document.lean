import VoiceSkill.Json
import VoiceSkill.Proofs.Document
import VoiceSkill.Proofs.Document.Structure
import VoiceSkill.Proofs.Outcome

/-!
# Documents of JSON values

A document that has been read is canonical and nests no deeper than there is room for
(`fits_of_document`), and such a document is read from its own JSON value (`document_json`). So
these are the documents that reading gives.
-/

namespace VoiceSkill

/-! ## Room -/

/-- There is room for a number of levels; without a bound there always is. -/
def HasRoom (room : Option Nat) (levels : Nat) : Prop := ∀ r ∈ room, levels < r

/-- The room inside of a list or an object. -/
def roomInside (room : Option Nat) : Option Nat := room.map (· - 1)

theorem hasRoom_none (levels : Nat) : HasRoom none levels := by
  simp [HasRoom]

theorem HasRoom.mono {room : Option Nat} {levels fewer : Nat} (h : HasRoom room levels)
    (hle : fewer ≤ levels) : HasRoom room fewer :=
  fun r hr => Nat.lt_of_le_of_lt hle (h r hr)

theorem hasRoom_roomInside_iff {room : Option Nat} {levels : Nat} :
    HasRoom (roomInside room) levels ↔ HasRoom room (levels + 1) := by
  cases room with
  | none => simp [HasRoom, roomInside]
  | some room =>
      simp only [HasRoom, roomInside, Option.map_some, Option.mem_some_iff, forall_eq']
      omega

/-- What is entered has room for one level at least. -/
theorem enter_eq_ok_iff {room inner : Option Nat} :
    Json.enter room = .ok inner ↔ HasRoom room 1 ∧ inner = roomInside room := by
  cases room with
  | none => simp [Json.enter, HasRoom, roomInside, eq_comm]
  | some room =>
      by_cases hroom : 1 < room
      · simp [Json.enter, HasRoom, roomInside, hroom, Nat.not_le.2 hroom, eq_comm]
      · simp [Json.enter, HasRoom, hroom, Nat.not_lt.1 hroom]

namespace Document

/-! ## Documents that fit -/

/-- A canonical document that nests no deeper than there is room for. -/
structure Fits (room : Option Nat) (document : Document) : Prop where
  canonical : document.Canonical
  depth : HasRoom room document.depth

theorem hasRoom_list_iff {room : Option Nat} {items : List Document} :
    HasRoom room (list items).depth ↔
      HasRoom room 1 ∧ ∀ item ∈ items, HasRoom (roomInside room) item.depth := by
  match room with
  | none => simp [HasRoom, roomInside]
  | some 0 => simp [HasRoom]
  | some (room + 1) => simpa [HasRoom, roomInside] using depth_list_lt_iff

theorem hasRoom_object_iff {room : Option Nat} {members : List (String × Document)} :
    HasRoom room (object members).depth ↔
      HasRoom room 1 ∧ ∀ member ∈ members, HasRoom (roomInside room) member.2.depth := by
  match room with
  | none => simp [HasRoom, roomInside]
  | some 0 => simp [HasRoom]
  | some (room + 1) => simpa [HasRoom, roomInside] using depth_object_lt_iff

theorem fits_list_iff {room : Option Nat} {items : List Document} :
    (list items).Fits room ↔
      HasRoom room 1 ∧ ∀ item ∈ items, item.Fits (roomInside room) := by
  constructor
  · rintro ⟨hcanonical, hdepth⟩
    obtain ⟨hroom, hitems⟩ := hasRoom_list_iff.1 hdepth
    exact ⟨hroom, fun item h => ⟨canonical_list_iff.1 hcanonical item h, hitems item h⟩⟩
  · rintro ⟨hroom, hitems⟩
    exact ⟨canonical_list_iff.2 fun item h => (hitems item h).canonical,
      hasRoom_list_iff.2 ⟨hroom, fun item h => (hitems item h).depth⟩⟩

theorem fits_object_iff {room : Option Nat} {members : List (String × Document)} :
    (object members).Fits room ↔ HasRoom room 1 ∧ KeysIncrease members ∧
      ∀ member ∈ members, member.2.Fits (roomInside room) := by
  constructor
  · rintro ⟨hcanonical, hdepth⟩
    obtain ⟨hroom, hmembers⟩ := hasRoom_object_iff.1 hdepth
    obtain ⟨hkeys, hvalues⟩ := canonical_object_iff.1 hcanonical
    exact ⟨hroom, hkeys, fun member h => ⟨hvalues member h, hmembers member h⟩⟩
  · rintro ⟨hroom, hkeys, hmembers⟩
    exact ⟨canonical_object_iff.2 ⟨hkeys, fun member h => (hmembers member h).canonical⟩,
      hasRoom_object_iff.2 ⟨hroom, fun member h => (hmembers member h).depth⟩⟩

variable {α : Type} {room : Option Nat} {write : α → Document}

theorem fits_list_map {as : List α} (hroom : HasRoom room 1)
    (h : ∀ a ∈ as, (write a).Fits (roomInside room)) : (list (as.map write)).Fits room :=
  fits_list_iff.2 ⟨hroom, List.forall_mem_map.2 h⟩

theorem fits_texts (texts : List String) (hroom : HasRoom room 1) :
    (Document.texts texts).Fits room :=
  fits_list_map hroom fun _ _ => ⟨trivial, hasRoom_roomInside_iff.2 hroom⟩

theorem fits_optional {a : Option α} (hroom : HasRoom room 0) (h : ∀ a, (write a).Fits room) :
    (optional write a).Fits room := by
  cases a with
  | none => exact ⟨trivial, hroom⟩
  | some a => exact h a

theorem fits_record {members : List (String × Document)} (hroom : HasRoom room 1)
    (h : ∀ member ∈ members, member.2.Fits (roomInside room)) : (record members).Fits room :=
  fits_object_iff.2 ⟨hroom, (Dict.ofList members).keysIncrease,
    fun member hmember => h member (Dict.mem_of_mem_ofList hmember)⟩

theorem fits_dict {d : Dict α} (hroom : HasRoom room 1)
    (h : ∀ e ∈ d.entries, (write e.2).Fits (roomInside room)) :
    (object (d.map write).entries).Fits room :=
  fits_object_iff.2 ⟨hroom, (d.map write).keysIncrease, List.forall_mem_map.2 h⟩

/-! ## Reading a document's own value -/

theorem documentItems_jsonItems {room : Option Nat} {items : List Document}
    (h : ∀ item ∈ items, item.json.document room = .ok item) :
    Json.documentItems room (jsonItems items) = .ok items := by
  induction items with
  | nil => rfl
  | cons item items ih =>
      obtain ⟨hitem, hitems⟩ := List.forall_mem_cons.1 h
      rw [jsonItems, Json.documentItems, hitem, ih hitems]
      rfl

theorem documentMembers_jsonMembers {room : Option Nat} {members : List (String × Document)}
    (h : ∀ member ∈ members, member.2.json.document room = .ok member.2) (read : Dict Document) :
    Json.documentMembers room read (jsonMembers members) =
      .ok (members.foldl (fun d e => d.insert e.1 e.2) read) := by
  induction members generalizing read with
  | nil => rfl
  | cons member members ih =>
      obtain ⟨hmember, hmembers⟩ := List.forall_mem_cons.1 h
      rw [jsonMembers, Json.documentMembers, hmember]
      exact ih hmembers _

/-- **A document that fits is read from its own value.** -/
theorem document_json {document : Document} {room : Option Nat} (h : document.Fits room) :
    document.json.document room = .ok document := by
  induction document using Document.induction generalizing room with
  | null => rfl
  | bool b => rfl
  | number n => rfl
  | string s => rfl
  | list items ih =>
      obtain ⟨hroom, hitems⟩ := fits_list_iff.1 h
      have hread := documentItems_jsonItems fun item hitem => ih item hitem (hitems item hitem)
      rw [json, Json.document, enter_eq_ok_iff.2 ⟨hroom, rfl⟩]
      simp only [hread]
      rfl
  | object members ih =>
      obtain ⟨hroom, hkeys, hmembers⟩ := fits_object_iff.1 h
      have hread := documentMembers_jsonMembers
        (fun member hmember => ih member hmember (hmembers member hmember)) .empty
      rw [json, Json.document, enter_eq_ok_iff.2 ⟨hroom, rfl⟩]
      simp only [hread]
      exact congrArg (fun members => Except.ok (object members)) (Dict.entries_ofList hkeys)

end Document

namespace Json

/-! ## What reading gives -/

theorem forall_mem_insert {α : Type} {p : α → Prop} {d : Dict α} (h : ∀ e ∈ d.entries, p e.2)
    (key : String) {value : α} (hvalue : p value) : ∀ e ∈ (d.insert key value).entries, p e.2 := by
  intro e he
  rcases mem_insertEntry he with rfl | he
  · exact hvalue
  · exact h e he

mutual

/-- **A document that has been read fits.** -/
theorem fits_of_document {room : Option Nat} (hroom : HasRoom room 0) {d : Document} :
    ∀ {json : Json}, json.document room = .ok d → d.Fits room
  | .null, h | .bool _, h | .number _, h | .string _, h => by
      cases h
      exact ⟨trivial, hroom⟩
  | .list items, h => by
      rw [document] at h
      split at h
      · cases h
      · rename_i inner henter
        obtain ⟨hlevel, rfl⟩ := enter_eq_ok_iff.1 henter
        obtain ⟨ds, hds, rfl⟩ := except_map_eq_ok_iff.1 h
        have hitems := fits_of_documentItems (hasRoom_roomInside_iff.2 hlevel) hds
        exact Document.fits_list_iff.2 ⟨hlevel, hitems⟩
  | .object members, h => by
      rw [document] at h
      split at h
      · cases h
      · rename_i inner henter
        obtain ⟨hlevel, rfl⟩ := enter_eq_ok_iff.1 henter
        obtain ⟨read, hread, rfl⟩ := except_map_eq_ok_iff.1 h
        have hmembers := fits_of_documentMembers (hasRoom_roomInside_iff.2 hlevel)
          (List.forall_mem_nil _) hread
        exact Document.fits_object_iff.2 ⟨hlevel, read.keysIncrease, hmembers⟩
  | .flawed _, h | .missing _, h => by cases h

theorem fits_of_documentItems {room : Option Nat} (hroom : HasRoom room 0) {ds : List Document} :
    ∀ {items : List Json}, documentItems room items = .ok ds → ∀ d ∈ ds, d.Fits room
  | [], h => by
      cases h
      exact List.forall_mem_nil _
  | item :: items, h => by
      rw [documentItems] at h
      split at h
      · cases h
      · rename_i d hd
        obtain ⟨rest, hrest, rfl⟩ := except_map_eq_ok_iff.1 h
        exact List.forall_mem_cons.2
          ⟨fits_of_document hroom hd, fits_of_documentItems hroom hrest⟩

theorem fits_of_documentMembers {room : Option Nat} (hroom : HasRoom room 0)
    {read result : Dict Document} (hread : ∀ e ∈ read.entries, e.2.Fits room) :
    ∀ {members : List (Except Malformed String × Json)},
      documentMembers room read members = .ok result → ∀ e ∈ result.entries, e.2.Fits room
  | [], h => by
      cases h
      exact hread
  | (.error _, _) :: _, h => by cases h
  | (.ok key, value) :: members, h => by
      rw [documentMembers] at h
      split at h
      · cases h
      · rename_i d hd
        have hinsert := forall_mem_insert hread key (fits_of_document hroom hd)
        exact fits_of_documentMembers hroom hinsert h

end

end Json

/-- What a text of a document with some room gives is the document, or nothing. -/
theorem Document.document_json_eq_ok_iff {document : Document} {room : Option Nat}
    (hroom : HasRoom room 0) :
    document.json.document room = .ok document ↔ document.Fits room :=
  ⟨Json.fits_of_document hroom, document_json⟩

end VoiceSkill
