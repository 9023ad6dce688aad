import VoiceSkill.Document
import Mathlib.Data.List.Induction
import Mathlib.Data.List.Nodup
import Mathlib.Data.List.Sort

/-!
# Reading documents

Under a key of a record lies what was given for the key last (`get?_record`). What a document holds
can so be read without knowing how it was put together: the items of a list, the text under a key,
the items of a list under a key.
-/

namespace VoiceSkill

/-! ## Dictionaries of lists -/

/-- The entry that is put in last is the one that counts. -/
theorem Dict.ofList_concat {α : Type} (entries : List (String × α)) (entry : String × α) :
    Dict.ofList (entries ++ [entry]) = (Dict.ofList entries).insert entry.1 entry.2 := by
  rw [ofList, List.foldl_append]
  rfl

/-- In a dictionary of a list of entries the last one under a key is found. -/
theorem Dict.get?_ofList {α : Type} (entries : List (String × α)) (key : String) :
    (Dict.ofList entries).get? key =
      (entries.reverse.find? fun entry => entry.1 == key).map Prod.snd := by
  induction entries using List.reverseRecOn with
  | nil => rfl
  | append_singleton entries entry ih =>
      rw [ofList_concat, List.reverse_concat, List.find?_cons]
      by_cases hkey : entry.1 = key
      · simp [hkey]
      · rw [get?_insert_of_ne _ _ (Ne.symm hkey), ih, beq_false_of_ne hkey]

/-- Where the keys of the list are all different, every entry is found under its key. -/
theorem Dict.get?_ofList_of_mem {α : Type} {entries : List (String × α)} {key : String} {value : α}
    (hkeys : (entries.map Prod.fst).Nodup) (h : (key, value) ∈ entries) :
    (Dict.ofList entries).get? key = some value := by
  rw [get?_ofList]
  cases hfound : entries.reverse.find? fun entry => entry.1 == key with
  | none =>
      have hnone := List.find?_eq_none.1 hfound (key, value) (List.mem_reverse.2 h)
      exact absurd (beq_self_eq_true key) hnone
  | some entry =>
      have hmem : entry ∈ entries := List.mem_reverse.1 (List.mem_of_find?_eq_some hfound)
      have hkey : entry.1 = key := by simpa using List.find?_some hfound
      have hentry : entry = (key, value) :=
        (List.nodup_map_iff_inj_on hkeys.of_map).1 hkeys entry hmem (key, value) h hkey
      rw [hentry, Option.map_some]

theorem Dict.find?_ofList_of_mem {α : Type} {entries : List (String × α)} {entry : String × α}
    (hkeys : (entries.map Prod.fst).Nodup) (h : entry ∈ entries) :
    ((Dict.ofList entries).entries.find? fun e => e.1 == entry.1) = some entry := by
  obtain ⟨found, hfound, hvalue⟩ := Option.map_eq_some_iff.1 (get?_ofList_of_mem hkeys h)
  have hkey : found.1 = entry.1 := by simpa using List.find?_some hfound
  rw [hfound, Prod.ext hkey hvalue]

/-- A dictionary has no other entries than those of the list. -/
theorem Dict.mem_of_mem_ofList {α : Type} {entries : List (String × α)} {entry : String × α}
    (h : entry ∈ (Dict.ofList entries).entries) : entry ∈ entries := by
  induction entries using List.reverseRecOn with
  | nil => cases h
  | append_singleton entries last ih =>
      rw [ofList_concat] at h
      rcases mem_insertEntry h with rfl | h
      · exact List.mem_append_right entries List.mem_cons_self
      · exact List.mem_append_left [last] (ih h)

theorem insertEntry_of_forall_lt {α : Type} {key : String} (value : α)
    {entries : List (String × α)} (h : ∀ entry ∈ entries, entry.1 < key) :
    insertEntry key value entries = entries ++ [(key, value)] := by
  induction entries with
  | nil => rfl
  | cons entry entries ih =>
      obtain ⟨hentry, hentries⟩ := List.forall_mem_cons.1 h
      have hnot : ¬ key < entry.1 := fun hlt => String.lt_irrefl _ (String.lt_trans hlt hentry)
      rw [insertEntry, if_neg hnot, if_pos hentry, ih hentries, List.cons_append]

/-- Entries by increasing key are the entries of their dictionary. -/
theorem Dict.entries_ofList {α : Type} {entries : List (String × α)} (h : KeysIncrease entries) :
    (Dict.ofList entries).entries = entries := by
  induction entries using List.reverseRecOn with
  | nil => rfl
  | append_singleton entries entry ih =>
      obtain ⟨hentries, -, hlast⟩ := List.pairwise_append.1 h
      have hlt : ∀ e ∈ entries, e.1 < entry.1 := fun e he =>
        hlast e he entry (List.mem_singleton_self entry)
      calc (Dict.ofList (entries ++ [entry])).entries
          = insertEntry entry.1 entry.2 (Dict.ofList entries).entries := by
            rw [ofList_concat]
            rfl
        _ = entries ++ [entry] := by rw [ih hentries, insertEntry_of_forall_lt entry.2 hlt]

/-- A dictionary is that of its entries. -/
theorem Dict.ofList_entries {α : Type} (d : Dict α) : Dict.ofList d.entries = d :=
  Dict.ext (Dict.entries_ofList d.keysIncrease)

theorem Dict.get?_eq_some_iff {α : Type} {d : Dict α} {key : String} {value : α} :
    d.get? key = some value ↔ (key, value) ∈ d.entries := by
  constructor
  · intro h
    obtain ⟨entry, hentry, rfl⟩ := Option.map_eq_some_iff.1 h
    have hkey : entry.1 = key := by simpa using List.find?_some hentry
    rw [← hkey]
    exact List.mem_of_find?_eq_some hentry
  · intro h
    rw [← d.ofList_entries]
    exact get?_ofList_of_mem d.nodup_keys h

/-- Entries with different keys are those of their dictionary, in some order. -/
theorem Dict.perm_entries_ofList {α : Type} {entries : List (String × α)}
    (hkeys : (entries.map Prod.fst).Nodup) : (Dict.ofList entries).entries.Perm entries := by
  have hentries : ((Dict.ofList entries).entries.map Prod.fst).Nodup :=
    (Dict.ofList entries).nodup_keys
  refine (List.perm_ext_iff_of_nodup hentries.of_map hkeys.of_map).2 fun entry => ?_
  exact ⟨mem_of_mem_ofList, fun h => get?_eq_some_iff.1 (get?_ofList_of_mem hkeys h)⟩

/-- Dictionaries in which every key has the same value are equal. -/
theorem Dict.ext_get? {α : Type} {d e : Dict α} (h : ∀ key, d.get? key = e.get? key) : d = e := by
  have hirrefl : Std.Irrefl fun a b : String × α => a.1 < b.1 :=
    ⟨fun a => String.lt_irrefl a.1⟩
  have hantisymm : Std.Antisymm fun a b : String × α => a.1 < b.1 :=
    ⟨fun a b hab hba => absurd (String.lt_trans hab hba) (String.lt_irrefl a.1)⟩
  refine Dict.ext (List.Pairwise.eq_of_mem_iff d.keysIncrease e.keysIncrease fun entry => ?_)
  rw [← get?_eq_some_iff, ← get?_eq_some_iff, h]

namespace Document

/-! ## Records -/

theorem get?_record (members : List (String × Document)) (key : String) :
    (record members).get? key =
      (members.reverse.find? fun member => member.1 == key).map Prod.snd :=
  Dict.get?_ofList members key

/-! ## Reading -/

/-- The items of a list; nothing else has items. -/
def items : Document → List Document
  | .list items => items
  | _ => []

/-- The text that a document is. -/
def text? : Document → Option String
  | .string text => some text
  | _ => none

/-- The text under a key of an object. -/
def textAt? (document : Document) (key : String) : Option String :=
  (document.get? key).bind text?

/-- The items of the list under a key of an object. -/
def itemsAt (document : Document) (key : String) : List Document :=
  (document.get? key).elim [] items

@[simp] theorem items_list (items : List Document) : (Document.list items).items = items := rfl

variable (members : List (String × Document)) (key : String)

@[simp] theorem textAt?_record :
    (record members).textAt? key =
      ((members.reverse.find? fun member => member.1 == key).map Prod.snd).bind text? := by
  rw [textAt?, get?_record]

@[simp] theorem itemsAt_record :
    (record members).itemsAt key =
      ((members.reverse.find? fun member => member.1 == key).map Prod.snd).elim [] items := by
  rw [itemsAt, get?_record]

end Document

end VoiceSkill
