/-!
# Dictionaries

A dictionary keeps its entries by strictly increasing key, so that two dictionaries with the same
contents are equal and every listing comes out in the same order. Keys are compared character by
character by code point, which is also the order of their UTF-8 bytes.
-/

namespace VoiceSkill

/-- Puts an entry into a list kept by key; an entry with the same key gives way. -/
def insertEntry {α : Type} (key : String) (value : α) : List (String × α) → List (String × α)
  | [] => [(key, value)]
  | (k, v) :: rest =>
    if key < k then (key, value) :: (k, v) :: rest
    else if k < key then (k, v) :: insertEntry key value rest
    else (key, value) :: rest

/-- Entries by strictly increasing key. -/
def KeysIncrease {α : Type} (entries : List (String × α)) : Prop :=
  entries.Pairwise fun a b => a.1 < b.1

theorem eq_of_not_lt {a b : String} (h : ¬ a < b) (h' : ¬ b < a) : a = b :=
  String.le_antisymm (String.not_lt.1 h') (String.not_lt.1 h)

theorem mem_insertEntry {α : Type} {key : String} {value : α} {entry : String × α}
    {entries : List (String × α)} (h : entry ∈ insertEntry key value entries) :
    entry = (key, value) ∨ entry ∈ entries := by
  induction entries with
  | nil => simpa [insertEntry] using h
  | cons e rest ih =>
    obtain ⟨k, v⟩ := e
    rw [insertEntry] at h
    split at h
    · simpa using h
    · split at h
      · rcases List.mem_cons.1 h with h | h
        · exact Or.inr (List.mem_cons.2 (Or.inl h))
        · exact (ih h).imp id (List.mem_cons_of_mem _)
      · rcases List.mem_cons.1 h with h | h
        · exact Or.inl h
        · exact Or.inr (List.mem_cons_of_mem _ h)

theorem KeysIncrease.insertEntry {α : Type} {entries : List (String × α)}
    (h : KeysIncrease entries) (key : String) (value : α) :
    KeysIncrease (insertEntry key value entries) := by
  unfold KeysIncrease at h ⊢
  induction entries with
  | nil => simp [VoiceSkill.insertEntry]
  | cons e rest ih =>
    obtain ⟨k, v⟩ := e
    obtain ⟨hk, hrest⟩ := List.pairwise_cons.1 h
    rw [VoiceSkill.insertEntry]
    split
    · rename_i hlt
      refine List.pairwise_cons.2 ⟨fun b hb => ?_, h⟩
      rcases List.mem_cons.1 hb with rfl | hb
      · exact hlt
      · exact String.lt_trans hlt (hk b hb)
    · split
      · rename_i _ hlt
        refine List.pairwise_cons.2 ⟨fun b hb => ?_, ih hrest⟩
        rcases mem_insertEntry hb with rfl | hb
        · exact hlt
        · exact hk b hb
      · rename_i hnot hnot'
        have hkey : key = k := eq_of_not_lt hnot hnot'
        subst hkey
        exact List.pairwise_cons.2 ⟨hk, hrest⟩

/-- A dictionary from texts to values. -/
structure Dict (α : Type) where
  entries : List (String × α)
  keysIncrease : KeysIncrease entries

namespace Dict

variable {α β : Type}

@[ext] theorem ext {d e : Dict α} (h : d.entries = e.entries) : d = e := by
  cases d; cases e; cases h; rfl

instance [DecidableEq α] : DecidableEq (Dict α) := fun d e =>
  decidable_of_iff (d.entries = e.entries) ⟨Dict.ext, fun h => h ▸ rfl⟩

/-- The dictionary without entries. -/
def empty : Dict α := ⟨[], List.Pairwise.nil⟩

instance : Inhabited (Dict α) := ⟨empty⟩

/-- Adds an entry, in place of one with the same key. -/
def insert (d : Dict α) (key : String) (value : α) : Dict α :=
  ⟨insertEntry key value d.entries, d.keysIncrease.insertEntry key value⟩

/-- The dictionary of a list of entries; of two with one key the later stands. -/
def ofList (entries : List (String × α)) : Dict α :=
  entries.foldl (fun d e => d.insert e.1 e.2) empty

/-- The value of a key. -/
def get? (d : Dict α) (key : String) : Option α :=
  (d.entries.find? fun e => e.1 == key).map Prod.snd

@[simp] theorem get?_empty (key : String) : (empty : Dict α).get? key = none := rfl

theorem find?_insertEntry_self (key : String) (value : α) (entries : List (String × α)) :
    (insertEntry key value entries).find? (fun e => e.1 == key) = some (key, value) := by
  induction entries with
  | nil => simp [insertEntry]
  | cons e rest ih =>
    obtain ⟨k, v⟩ := e
    rw [insertEntry]
    split
    · simp
    · split
      · rename_i _ hlt
        have hne : k ≠ key := fun h => String.lt_irrefl key (h ▸ hlt)
        simp [hne, ih]
      · simp

theorem find?_insertEntry_of_ne {key other : String} (value : α) (h : other ≠ key)
    (entries : List (String × α)) :
    (insertEntry key value entries).find? (fun e => e.1 == other) =
      entries.find? fun e => e.1 == other := by
  have hbeq : (key == other) = false := beq_false_of_ne h.symm
  induction entries with
  | nil => simp [insertEntry, hbeq]
  | cons e rest ih =>
    obtain ⟨k, v⟩ := e
    rw [insertEntry]
    split
    · rw [List.find?_cons, hbeq]
    · split
      · rw [List.find?_cons, List.find?_cons, ih]
      · rename_i hnot hnot'
        have hkey : key = k := eq_of_not_lt hnot hnot'
        subst hkey
        rw [List.find?_cons, List.find?_cons, hbeq]

/-- After an insertion the new value is found under its key. -/
@[simp] theorem get?_insert_self (d : Dict α) (key : String) (value : α) :
    (d.insert key value).get? key = some value := by
  rw [get?, insert, find?_insertEntry_self, Option.map_some]

/-- An insertion changes nothing under other keys. -/
theorem get?_insert_of_ne (d : Dict α) {key other : String} (value : α) (h : other ≠ key) :
    (d.insert key value).get? other = d.get? other := by
  rw [get?, get?, insert, find?_insertEntry_of_ne value h]

/-- The keys, in increasing order. -/
def keys (d : Dict α) : List String := d.entries.map Prod.fst

theorem keys_pairwise (d : Dict α) : d.keys.Pairwise (· < ·) :=
  List.pairwise_map.2 d.keysIncrease

theorem nodup_keys (d : Dict α) : d.keys.Nodup := d.keys_pairwise.imp fun h => String.ne_of_lt h

/-- The dictionary with every value changed by a function. -/
def map (f : α → β) (d : Dict α) : Dict β :=
  ⟨d.entries.map fun e => (e.1, f e.2),
    List.pairwise_map.2 (d.keysIncrease.imp fun h => h)⟩

end Dict

end VoiceSkill
