import VoiceSkill.Proofs.Document

/-!
# Identifiers in documents

An identifier stands under a key of its own, wherever that is in a document. A document can be asked
for its identifiers (`Document.identifiers`) and can be read without them
(`Document.withoutIdentifiers`): what two documents have in common apart from identifiers is what
they then are.
-/

namespace VoiceSkill

/-! ## Changing the values of a dictionary -/

theorem insertEntry_map {α β : Type} (f : String → α → β) (key : String) (value : α)
    (entries : List (String × α)) :
    insertEntry key (f key value) (entries.map fun e => (e.1, f e.1 e.2)) =
      (insertEntry key value entries).map fun e => (e.1, f e.1 e.2) := by
  induction entries with
  | nil => rfl
  | cons entry rest ih =>
      rw [List.map_cons, insertEntry, insertEntry]
      split
      · rfl
      · split
        · rw [ih, List.map_cons]
        · rfl

/-- Values can be changed before or after they are put into a dictionary. -/
theorem Dict.entries_ofList_map {α β : Type} (f : String → α → β) (entries : List (String × α)) :
    (Dict.ofList (entries.map fun e => (e.1, f e.1 e.2))).entries =
      (Dict.ofList entries).entries.map fun e => (e.1, f e.1 e.2) := by
  induction entries using List.reverseRecOn with
  | nil => rfl
  | append_singleton entries entry ih =>
      rw [List.map_append, List.map_singleton, ofList_concat, ofList_concat]
      show insertEntry entry.1 (f entry.1 entry.2) _ = _
      rw [ih, insertEntry_map]
      rfl

namespace Document

/-- The key of identifiers. -/
def identifierKey : String := "id"

mutual

/-- The values under the key of identifiers, wherever they are in the document. -/
def identifiers : Document → List Document
  | .list items => identifiersOfItems items
  | .object members => identifiersOfMembers members
  | _ => []

def identifiersOfItems : List Document → List Document
  | [] => []
  | item :: items => identifiers item ++ identifiersOfItems items

def identifiersOfMembers : List (String × Document) → List Document
  | [] => []
  | (key, value) :: members =>
    (if key == identifierKey then [value] else identifiers value) ++ identifiersOfMembers members

end

mutual

/-- The document with null in the place of every identifier. -/
def withoutIdentifiers : Document → Document
  | .list items => .list (itemsWithoutIdentifiers items)
  | .object members => .object (membersWithoutIdentifiers members)
  | document => document

def itemsWithoutIdentifiers : List Document → List Document
  | [] => []
  | item :: items => withoutIdentifiers item :: itemsWithoutIdentifiers items

def membersWithoutIdentifiers : List (String × Document) → List (String × Document)
  | [] => []
  | (key, value) :: members =>
    (key, if key == identifierKey then .null else withoutIdentifiers value) ::
      membersWithoutIdentifiers members

end

/-- The identifiers in the value of a key. -/
def identifiersUnder (key : String) (value : Document) : List Document :=
  if key == identifierKey then [value] else value.identifiers

/-- The value of a key without identifiers. -/
def maskedUnder (key : String) (value : Document) : Document :=
  if key == identifierKey then .null else value.withoutIdentifiers

/-! ## Lists and objects -/

@[simp] theorem identifiers_string (s : String) : (string s).identifiers = [] := rfl

@[simp] theorem identifiers_bool (b : Bool) : (bool b).identifiers = [] := rfl

@[simp] theorem identifiers_number (n : Number) : (number n).identifiers = [] := rfl

@[simp] theorem identifiers_list (items : List Document) :
    (list items).identifiers = items.flatMap identifiers := by
  rw [identifiers]
  induction items with
  | nil => rfl
  | cons item items ih => rw [identifiersOfItems, ih, List.flatMap_cons]

@[simp] theorem identifiers_object (members : List (String × Document)) :
    (object members).identifiers = members.flatMap fun m => identifiersUnder m.1 m.2 := by
  rw [identifiers]
  induction members with
  | nil => rfl
  | cons member members ih => rw [identifiersOfMembers, ih, List.flatMap_cons, identifiersUnder]

theorem withoutIdentifiers_list (items : List Document) :
    (list items).withoutIdentifiers = list (items.map withoutIdentifiers) := by
  rw [withoutIdentifiers]
  congr 1
  induction items with
  | nil => rfl
  | cons item items ih => rw [itemsWithoutIdentifiers, ih, List.map_cons]

theorem withoutIdentifiers_object (members : List (String × Document)) :
    (object members).withoutIdentifiers =
      object (members.map fun m => (m.1, maskedUnder m.1 m.2)) := by
  rw [withoutIdentifiers]
  congr 1
  induction members with
  | nil => rfl
  | cons member members ih => rw [membersWithoutIdentifiers, ih, List.map_cons, maskedUnder]

/-! ## Records -/

variable {members : List (String × Document)}

/-- A record has no identifiers if none of its members has. -/
theorem identifiers_record_eq_nil (h : ∀ m ∈ members, identifiersUnder m.1 m.2 = []) :
    (record members).identifiers = [] := by
  rw [record, identifiers_object, List.flatMap_eq_nil_iff]
  exact fun m hm => h m (Dict.mem_of_mem_ofList hm)

/-- A record has the identifiers of one member if no other has any. -/
theorem identifiers_record_of_mem {member : String × Document} (hmember : member ∈ members)
    (hkeys : (members.map Prod.fst).Nodup)
    (h : ∀ m ∈ members, m.1 ≠ member.1 → identifiersUnder m.1 m.2 = []) :
    (record members).identifiers = identifiersUnder member.1 member.2 := by
  have hfound : member ∈ (Dict.ofList members).entries :=
    List.mem_of_find?_eq_some (Dict.find?_ofList_of_mem hkeys hmember)
  obtain ⟨front, back, hentries⟩ := List.append_of_mem hfound
  have hapart := (Dict.ofList members).keysIncrease
  rw [hentries, KeysIncrease, List.pairwise_append, List.pairwise_cons] at hapart
  obtain ⟨_, ⟨hback, _⟩, hfront⟩ := hapart
  have hnone {m : String × Document} (hm : m ∈ (Dict.ofList members).entries)
      (hne : m.1 ≠ member.1) : identifiersUnder m.1 m.2 = [] :=
    h m (Dict.mem_of_mem_ofList hm) hne
  have hfrontNone : (front.flatMap fun m => identifiersUnder m.1 m.2) = [] := by
    rw [List.flatMap_eq_nil_iff]
    intro m hm
    refine hnone (hentries ▸ List.mem_append_left _ hm) ?_
    exact String.ne_of_lt (hfront m hm member List.mem_cons_self)
  have hbackNone : (back.flatMap fun m => identifiersUnder m.1 m.2) = [] := by
    rw [List.flatMap_eq_nil_iff]
    intro m hm
    refine hnone (hentries ▸ List.mem_append_right _ (List.mem_cons_of_mem _ hm)) ?_
    exact (String.ne_of_lt (hback m hm)).symm
  rw [record, identifiers_object, hentries, List.flatMap_append, List.flatMap_cons, hfrontNone,
    hbackNone, List.nil_append, List.append_nil]

/-- A record with an identifier has no other one if no other member has any. -/
theorem identifiers_record_of_id {id : Document} (hid : (identifierKey, id) ∈ members)
    (hkeys : (members.map Prod.fst).Nodup)
    (h : ∀ m ∈ members, m.1 ≠ identifierKey → m.2.identifiers = []) :
    (record members).identifiers = [id] := by
  rw [identifiers_record_of_mem hid hkeys, identifiersUnder, if_pos (beq_self_eq_true _)]
  intro m hm hne
  rw [identifiersUnder, beq_false_of_ne hne]
  exact h m hm hne

theorem withoutIdentifiers_record (members : List (String × Document)) :
    (record members).withoutIdentifiers =
      record (members.map fun m => (m.1, maskedUnder m.1 m.2)) := by
  rw [record, withoutIdentifiers_object, record, Dict.entries_ofList_map]

end Document

end VoiceSkill
