import VoiceSkill.Proofs.Json.Decoding

/-!
# What stands in a JSON value

The values in a value are listed from left to right (`Json.values`). A value can be read as a whole
exactly if none of these is a flaw and it nests no deeper than there is room for
(`exists_document_iff`). A value of a type with several forms is read exactly if this is so and one
of the forms fits (`Decoder.oneOf_eq_ok_iff`); a dictionary, if its values are read one by one
(`Decoder.dict_eq_ok_iff`).
-/

namespace VoiceSkill

namespace Json

theorem sizeOf_member_lt {members : List (Except Malformed String × Json)}
    {member : Except Malformed String × Json} (h : member ∈ members) :
    sizeOf member.2 < 1 + sizeOf members := by
  have hmember := List.sizeOf_lt_of_mem h
  rw [Prod.mk.sizeOf_spec] at hmember
  omega

/-- A property of all JSON values is proved for a list from its items and for an object from the
values of its members. -/
@[elab_as_elim]
theorem induction {motive : Json → Prop} (null : motive .null) (bool : ∀ b, motive (.bool b))
    (number : ∀ n, motive (.number n)) (string : ∀ s, motive (.string s))
    (list : ∀ items, (∀ item ∈ items, motive item) → motive (.list items))
    (object : ∀ members, (∀ member ∈ members, motive member.2) → motive (.object members))
    (flawed : ∀ flaw, motive (.flawed flaw)) (missing : ∀ cause, motive (.missing cause)) :
    ∀ json, motive json
  | .null => null
  | .bool b => bool b
  | .number n => number n
  | .string s => string s
  | .list items => list items fun item _ =>
      induction null bool number string list object flawed missing item
  | .object members => object members fun member h =>
      have := sizeOf_member_lt h
      induction null bool number string list object flawed missing member.2
  | .flawed flaw => flawed flaw
  | .missing cause => missing cause

/-! ## The values in a value -/

mutual

/-- The values in a value from left to right: the value itself, and those in its items or
members. -/
def values : Json → List Json
  | .list items => .list items :: valuesOfItems items
  | .object members => .object members :: valuesOfMembers members
  | json => [json]

def valuesOfItems : List Json → List Json
  | [] => []
  | item :: items => values item ++ valuesOfItems items

def valuesOfMembers : List (Except Malformed String × Json) → List Json
  | [] => []
  | (_, value) :: members => values value ++ valuesOfMembers members

end

theorem values_list (items : List Json) :
    (list items).values = list items :: items.flatMap values := by
  have hitems : valuesOfItems items = items.flatMap values := by
    induction items with
    | nil => rfl
    | cons item items ih => rw [valuesOfItems, ih, List.flatMap_cons]
  rw [values, hitems]

theorem values_object (members : List (Except Malformed String × Json)) :
    (object members).values = object members :: members.flatMap fun member => member.2.values := by
  have hmembers : valuesOfMembers members = members.flatMap fun member => member.2.values := by
    induction members with
    | nil => rfl
    | cons member members ih => rw [valuesOfMembers, ih, List.flatMap_cons]
  rw [values, hmembers]

mutual

/-- How deep lists and objects nest. -/
def depth : Json → Nat
  | .list items => depthItems items + 1
  | .object members => depthMembers members + 1
  | _ => 0

def depthItems : List Json → Nat
  | [] => 0
  | item :: items => max (depth item) (depthItems items)

def depthMembers : List (Except Malformed String × Json) → Nat
  | [] => 0
  | (_, value) :: members => max (depth value) (depthMembers members)

end

/-- Lists and objects nest no deeper than levels may be entered. -/
def NestsWithin (room : Option Nat) (json : Json) : Prop := ∀ r ∈ room, json.depth ≤ r - 1

theorem nestsWithin_none (json : Json) : json.NestsWithin none := by
  simp [NestsWithin]

theorem depth_list_le_iff {items : List Json} {bound : Nat} :
    (list items).depth ≤ bound ↔ 1 ≤ bound ∧ ∀ item ∈ items, item.depth ≤ bound - 1 := by
  rw [depth]
  induction items with
  | nil => simp [depthItems]
  | cons item items ih =>
      have hfirst : max item.depth (depthItems items) + 1 ≤ bound ↔
          item.depth ≤ bound - 1 ∧ depthItems items + 1 ≤ bound := by omega
      rw [depthItems, List.forall_mem_cons, hfirst, ih, and_left_comm]

theorem depth_object_le_iff {members : List (Except Malformed String × Json)} {bound : Nat} :
    (object members).depth ≤ bound ↔
      1 ≤ bound ∧ ∀ member ∈ members, member.2.depth ≤ bound - 1 := by
  rw [depth]
  induction members with
  | nil => simp [depthMembers]
  | cons member members ih =>
      have hfirst : max member.2.depth (depthMembers members) + 1 ≤ bound ↔
          member.2.depth ≤ bound - 1 ∧ depthMembers members + 1 ≤ bound := by omega
      rw [depthMembers, List.forall_mem_cons, hfirst, ih, and_left_comm]

theorem hasRoom_one_iff {room : Option Nat} : HasRoom room 1 ↔ ∀ r ∈ room, 1 ≤ r - 1 :=
  forall₂_congr fun r _ => by omega

theorem nestsWithin_list_iff {room : Option Nat} {items : List Json} :
    (list items).NestsWithin room ↔
      HasRoom room 1 ∧ ∀ item ∈ items, item.NestsWithin (roomInside room) := by
  cases room with
  | none => simp [NestsWithin, HasRoom, roomInside]
  | some room => simp [NestsWithin, hasRoom_one_iff, roomInside, depth_list_le_iff]

theorem nestsWithin_object_iff {room : Option Nat}
    {members : List (Except Malformed String × Json)} :
    (object members).NestsWithin room ↔
      HasRoom room 1 ∧ ∀ member ∈ members, member.2.NestsWithin (roomInside room) := by
  cases room with
  | none => simp [NestsWithin, HasRoom, roomInside]
  | some room => simp [NestsWithin, hasRoom_one_iff, roomInside, depth_object_le_iff]

/-! ## Values that can be read -/

/-- The value is there, and so are the keys of its members. -/
def isWhole : Json → Bool
  | .flawed _ => false
  | .missing _ => false
  | .object members => members.all fun member => member.1.isOk
  | _ => true

/-- A JSON value proper: there is no flaw in it, and it nests no deeper than levels may be
entered. -/
structure IsReadable (room : Option Nat) (json : Json) : Prop where
  whole : ∀ value ∈ json.values, value.isWhole = true
  nests : json.NestsWithin room

variable {room : Option Nat}

theorem isReadable_of_leaf {json : Json} (hvalues : json.values = [json])
    (hwhole : json.isWhole = true) (hdepth : json.depth = 0) : json.IsReadable room := by
  refine ⟨fun value hvalue => ?_, fun r _ => by omega⟩
  rw [hvalues, List.mem_singleton] at hvalue
  rw [hvalue, hwhole]

theorem isReadable_list_iff {items : List Json} :
    (list items).IsReadable room ↔
      HasRoom room 1 ∧ ∀ item ∈ items, item.IsReadable (roomInside room) := by
  constructor
  · rintro ⟨hwhole, hnests⟩
    obtain ⟨hroom, hitems⟩ := nestsWithin_list_iff.1 hnests
    rw [values_list, List.forall_mem_cons] at hwhole
    refine ⟨hroom, fun item hitem => ⟨fun value hvalue => ?_, hitems item hitem⟩⟩
    exact hwhole.2 value (List.mem_flatMap.2 ⟨item, hitem, hvalue⟩)
  · rintro ⟨hroom, hitems⟩
    refine ⟨?_, nestsWithin_list_iff.2 ⟨hroom, fun item hitem => (hitems item hitem).nests⟩⟩
    rw [values_list, List.forall_mem_cons]
    refine ⟨rfl, fun value hvalue => ?_⟩
    obtain ⟨item, hitem, hvalue⟩ := List.mem_flatMap.1 hvalue
    exact (hitems item hitem).whole value hvalue

theorem isReadable_object_iff {members : List (Except Malformed String × Json)} :
    (object members).IsReadable room ↔
      HasRoom room 1 ∧ ∀ member ∈ members,
        (∃ key, member.1 = .ok key) ∧ member.2.IsReadable (roomInside room) := by
  have hkey {member : Except Malformed String × Json} :
      member.1.isOk = true ↔ ∃ key, member.1 = .ok key := by
    cases member.1 <;> simp [Except.isOk, Except.toBool]
  have hwhole : (object members).isWhole = true ↔
      ∀ member ∈ members, ∃ key, member.1 = .ok key := by
    simp only [isWhole, List.all_eq_true, hkey]
  constructor
  · rintro ⟨hvalues, hnests⟩
    obtain ⟨hroom, hmembers⟩ := nestsWithin_object_iff.1 hnests
    rw [values_object, List.forall_mem_cons, hwhole] at hvalues
    refine ⟨hroom, fun member hmember => ⟨hvalues.1 member hmember, fun value hvalue => ?_,
      hmembers member hmember⟩⟩
    exact hvalues.2 value (List.mem_flatMap.2 ⟨member, hmember, hvalue⟩)
  · rintro ⟨hroom, hmembers⟩
    refine ⟨?_, nestsWithin_object_iff.2
      ⟨hroom, fun member hmember => (hmembers member hmember).2.nests⟩⟩
    rw [values_object, List.forall_mem_cons, hwhole]
    refine ⟨fun member hmember => (hmembers member hmember).1, fun value hvalue => ?_⟩
    obtain ⟨member, hmember, hvalue⟩ := List.mem_flatMap.1 hvalue
    exact (hmembers member hmember).2.whole value hvalue

theorem not_hasRoom_of_enter {cause : Malformed} (h : enter room = .error cause) :
    ¬ HasRoom room 1 := by
  intro hroom
  rw [enter_eq_ok_iff.2 ⟨hroom, rfl⟩] at h
  cases h

theorem exists_documentItems_iff {items : List Json} :
    (∃ ds, documentItems room items = .ok ds) ↔
      ∀ item ∈ items, ∃ d, item.document room = .ok d := by
  induction items with
  | nil => simp [documentItems]
  | cons item items ih =>
      rw [documentItems, List.forall_mem_cons, ← ih]
      cases item.document room with
      | error cause => simp
      | ok d => simp [except_map_eq_ok_iff]

theorem exists_documentMembers_iff {members : List (Except Malformed String × Json)}
    (read : Dict Document) :
    (∃ d, documentMembers room read members = .ok d) ↔
      ∀ member ∈ members, (∃ key, member.1 = .ok key) ∧ ∃ d, member.2.document room = .ok d := by
  induction members generalizing read with
  | nil => simp [documentMembers]
  | cons member members ih =>
      obtain ⟨key, value⟩ := member
      rw [List.forall_mem_cons]
      cases key with
      | error cause => simp [documentMembers]
      | ok key =>
          rw [documentMembers]
          cases value.document room with
          | error cause => simp
          | ok d => simp [ih]

/-- **A value can be read as a whole exactly if nothing in it is flawed and there is room.** -/
theorem exists_document_iff {json : Json} :
    (∃ d, json.document room = .ok d) ↔ json.IsReadable room := by
  induction json using Json.induction generalizing room with
  | null => exact iff_of_true ⟨_, rfl⟩ (isReadable_of_leaf rfl rfl rfl)
  | bool b => exact iff_of_true ⟨_, rfl⟩ (isReadable_of_leaf rfl rfl rfl)
  | number n => exact iff_of_true ⟨_, rfl⟩ (isReadable_of_leaf rfl rfl rfl)
  | string s => exact iff_of_true ⟨_, rfl⟩ (isReadable_of_leaf rfl rfl rfl)
  | list items ih =>
      rw [document, isReadable_list_iff]
      cases henter : enter room with
      | error cause => simp [not_hasRoom_of_enter henter]
      | ok inner =>
          obtain ⟨hroom, rfl⟩ := enter_eq_ok_iff.1 henter
          have hitems : (∀ item ∈ items, ∃ d, item.document (roomInside room) = .ok d) ↔
              ∀ item ∈ items, item.IsReadable (roomInside room) :=
            forall₂_congr fun item hitem => ih item hitem
          rw [and_iff_right hroom, ← hitems, ← exists_documentItems_iff]
          simp [except_map_eq_ok_iff]
  | object members ih =>
      rw [document, isReadable_object_iff]
      cases henter : enter room with
      | error cause => simp [not_hasRoom_of_enter henter]
      | ok inner =>
          obtain ⟨hroom, rfl⟩ := enter_eq_ok_iff.1 henter
          have hmembers : (∀ member ∈ members, (∃ key, member.1 = .ok key) ∧
                ∃ d, member.2.document (roomInside room) = .ok d) ↔
              ∀ member ∈ members,
                (∃ key, member.1 = .ok key) ∧ member.2.IsReadable (roomInside room) :=
            forall₂_congr fun member hmember => and_congr_right' (ih member hmember)
          rw [and_iff_right hroom, ← hmembers, ← exists_documentMembers_iff .empty]
          simp [except_map_eq_ok_iff]
  | flawed flaw =>
      refine iff_of_false (fun ⟨d, hd⟩ => by cases hd) fun h => ?_
      cases h.whole (flawed flaw) List.mem_cons_self
  | missing cause =>
      refine iff_of_false (fun ⟨d, hd⟩ => by cases hd) fun h => ?_
      cases h.whole (missing cause) List.mem_cons_self

end Json

/-! ## Decoders -/

namespace Decoder

variable {α : Type} {decoder : Decoder α} {context : Context} {json : Json}

/-- A value of a type with several forms is read exactly if it can be read at all and a form
fits. -/
theorem oneOf_eq_ok_iff {type : String} {form : Json → Option α} {a : α} :
    oneOf type form context json = .ok a ↔
      json.IsReadable context.room ∧ form json = some a := by
  rw [oneOf, except_bind_eq_ok_iff, ← Json.exists_document_iff]
  simp only [document_eq_ok_iff, ← exists_and_right]
  refine exists_congr fun d => and_congr_right' ?_
  cases form json <;> simp

/-- The members of an object are read one by one, and each is put in place of earlier ones with its
key. -/
theorem members_eq_ok_iff {members : List (Except Malformed String × Json)} {read d : Dict α} :
    Decoder.members decoder context read members = .ok d ↔
      ∃ entries : List (String × α),
        List.Forall₂ (fun member entry => member.1 = .ok entry.1 ∧
          decoder context member.2 = .ok entry.2) members entries ∧
        d = entries.foldl (fun d e => d.insert e.1 e.2) read := by
  induction members generalizing read with
  | nil => simp [Decoder.members, eq_comm]
  | cons member members ih =>
      obtain ⟨key, value⟩ := member
      cases key with
      | error cause => simp [Decoder.members, List.forall₂_cons_left_iff]
      | ok key =>
          rw [Decoder.members, except_bind_eq_ok_iff]
          constructor
          · rintro ⟨a, ha, h⟩
            obtain ⟨entries, hentries, rfl⟩ := ih.1 h
            exact ⟨(key, a) :: entries, .cons ⟨rfl, ha⟩ hentries, rfl⟩
          · rintro ⟨entries, hentries, rfl⟩
            obtain ⟨entry, rest, ⟨hkey, ha⟩, hrest, rfl⟩ := List.forall₂_cons_left_iff.1 hentries
            obtain ⟨rfl⟩ : key = entry.1 := by simpa using hkey
            exact ⟨entry.2, ha, ih.2 ⟨rest, hrest, rfl⟩⟩

/-- A dictionary is read from an object exactly if the values of all members are. -/
theorem dict_eq_ok_iff {d : Dict α} :
    dict decoder context json = .ok d ↔
      ∃ members, json = .object members ∧ HasRoom context.room 1 ∧
        ∃ entries : List (String × α),
          List.Forall₂ (fun member entry => member.1 = .ok entry.1 ∧
            decoder context.inside member.2 = .ok entry.2) members entries ∧
          d = Dict.ofList entries := by
  cases json with
  | object members =>
      simp only [dict, except_bind_eq_ok_iff, Context.enter_eq_ok_iff, members_eq_ok_iff,
        Json.object.injEq, exists_eq_left', Dict.ofList]
      constructor
      · rintro ⟨inner, ⟨hroom, rfl⟩, h⟩
        exact ⟨hroom, h⟩
      · rintro ⟨hroom, h⟩
        exact ⟨context.inside, ⟨hroom, rfl⟩, h⟩
  | _ =>
      constructor
      · intro h
        cases h
      · rintro ⟨_, hobject, _⟩
        cases hobject

end Decoder

end VoiceSkill
