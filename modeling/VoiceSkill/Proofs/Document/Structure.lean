import VoiceSkill.Json

/-!
# The structure of documents

What holds of every document is proved by induction on the documents in it (`Document.induction`).
What is said of a list or an object as a whole (that it is canonical, how deep it nests, which
numbers are in it) is said here of its items or members one by one.
-/

namespace VoiceSkill.Document

theorem sizeOf_value_lt {members : List (String × Document)} {member : String × Document}
    (h : member ∈ members) : sizeOf member.2 < 1 + sizeOf members := by
  have hmember := List.sizeOf_lt_of_mem h
  rw [Prod.mk.sizeOf_spec] at hmember
  omega

/-- A property of all documents is proved for a list from its items and for an object from the
values of its members. -/
@[elab_as_elim]
theorem induction {motive : Document → Prop} (null : motive .null) (bool : ∀ b, motive (.bool b))
    (number : ∀ n, motive (.number n)) (string : ∀ s, motive (.string s))
    (list : ∀ items, (∀ item ∈ items, motive item) → motive (.list items))
    (object : ∀ members, (∀ member ∈ members, motive member.2) → motive (.object members)) :
    ∀ document, motive document
  | .null => null
  | .bool b => bool b
  | .number n => number n
  | .string s => string s
  | .list items => list items fun item _ => induction null bool number string list object item
  | .object members => object members fun member h =>
      have := sizeOf_value_lt h
      induction null bool number string list object member.2

/-! ## Items and members -/

theorem canonical_list_iff {items : List Document} :
    (list items).Canonical ↔ ∀ item ∈ items, item.Canonical := by
  rw [Canonical]
  induction items with
  | nil => simp [CanonicalItems]
  | cons item items ih => simp [CanonicalItems, ih]

theorem canonical_object_iff {members : List (String × Document)} :
    (object members).Canonical ↔
      KeysIncrease members ∧ ∀ member ∈ members, member.2.Canonical := by
  have hmembers : CanonicalMembers members ↔ ∀ member ∈ members, member.2.Canonical := by
    induction members with
    | nil => simp [CanonicalMembers]
    | cons member members ih => simp [CanonicalMembers, ih]
  rw [Canonical, hmembers]

theorem depth_list_lt_iff {items : List Document} {bound : Nat} :
    (list items).depth < bound + 1 ↔
      0 < bound ∧ ∀ item ∈ items, item.depth < bound := by
  rw [depth, Nat.add_lt_add_iff_right]
  induction items with
  | nil => simp [depthItems]
  | cons item items ih =>
      rw [depthItems, Nat.max_lt, ih, List.forall_mem_cons, and_left_comm]

theorem depth_object_lt_iff {members : List (String × Document)} {bound : Nat} :
    (object members).depth < bound + 1 ↔
      0 < bound ∧ ∀ member ∈ members, member.2.depth < bound := by
  rw [depth, Nat.add_lt_add_iff_right]
  induction members with
  | nil => simp [depthMembers]
  | cons member members ih =>
      rw [depthMembers, Nat.max_lt, ih, List.forall_mem_cons, and_left_comm]

/-! ## Numbers -/

mutual

/-- The numbers in a document. -/
def numbers : Document → List Number
  | .number n => [n]
  | .list items => numbersOfItems items
  | .object members => numbersOfMembers members
  | _ => []

def numbersOfItems : List Document → List Number
  | [] => []
  | item :: items => numbers item ++ numbersOfItems items

def numbersOfMembers : List (String × Document) → List Number
  | [] => []
  | (_, value) :: members => numbers value ++ numbersOfMembers members

end

theorem mem_numbers_list_iff {n : Number} {items : List Document} :
    n ∈ (list items).numbers ↔ ∃ item ∈ items, n ∈ item.numbers := by
  rw [numbers]
  induction items with
  | nil => simp [numbersOfItems]
  | cons item items ih => simp [numbersOfItems, ih]

theorem mem_numbers_object_iff {n : Number} {members : List (String × Document)} :
    n ∈ (object members).numbers ↔ ∃ member ∈ members, n ∈ member.2.numbers := by
  rw [numbers]
  induction members with
  | nil => simp [numbersOfMembers]
  | cons member members ih => simp [numbersOfMembers, ih]

end VoiceSkill.Document
