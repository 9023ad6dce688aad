import VoiceSkill.Json.Decoder
import VoiceSkill.KeepFirst

/-!
# Slot values

The values that a slot type takes, each with its synonyms. A collection keeps them in the order in
which they were given, and of several with the same value only the first. In a definition a
collection is a list of values, bare or with synonyms, or an object from values to synonyms.
-/

namespace VoiceSkill

/-- A value and other words for it. -/
structure SlotValue where
  value : String
  synonyms : List String
deriving DecidableEq, Repr

/-- Values that differ from each other. -/
structure SlotValues where
  entries : List SlotValue
  distinct : (entries.map SlotValue.value).Nodup

namespace SlotValues

@[ext] theorem ext {a b : SlotValues} (h : a.entries = b.entries) : a = b := by
  cases a; cases b; cases h; rfl

instance : DecidableEq SlotValues := fun a b =>
  decidable_of_iff (a.entries = b.entries) ⟨SlotValues.ext, fun h => h ▸ rfl⟩

def empty : SlotValues := ⟨[], List.nodup_nil⟩

instance : Inhabited SlotValues := ⟨empty⟩

/-- The values, without their synonyms. -/
def names (values : SlotValues) : List String := values.entries.map SlotValue.value

/-- Appends a value unless it is there. -/
def push (values : SlotValues) (entry : SlotValue) : SlotValues :=
  if h : entry.value ∈ values.names then values
  else
    ⟨values.entries ++ [entry], by
      rw [List.map_append, List.nodup_append]
      refine ⟨values.distinct, by simp, fun a ha b hb => ?_⟩
      rw [List.map_singleton, List.mem_singleton] at hb
      exact fun hab => h (by rwa [names, ← hb, ← hab])⟩

/-- A value that is there stays as it is. -/
theorem push_of_mem {values : SlotValues} {entry : SlotValue} (h : entry.value ∈ values.names) :
    values.push entry = values := dif_pos h

theorem entries_push_of_not_mem {values : SlotValues} {entry : SlotValue}
    (h : entry.value ∉ values.names) :
    (values.push entry).entries = values.entries ++ [entry] := by
  rw [push, dif_neg h]

/-- The collection of a list of values. -/
def ofList (entries : List SlotValue) : SlotValues := entries.foldl push empty

/-- Whether some value has a synonym with a character in it. -/
def hasSynonyms (values : SlotValues) : Bool :=
  values.entries.any fun entry => entry.synonyms.any fun s => s != ""

/-- The synonyms of each value. -/
def synonymsByValue (values : SlotValues) : Dict (List String) :=
  Dict.ofList (values.entries.map fun entry => (entry.value, entry.synonyms))

/-- The synonyms of each value, as a document. -/
def synonymDocument (values : SlotValues) : Document :=
  .object (values.synonymsByValue.map Document.texts).entries

/-- The list of values with their synonyms, as a document. -/
def document (values : SlotValues) : Document :=
  .list (values.entries.map fun entry =>
    .record [("value", .string entry.value), ("synonyms", .texts entry.synonyms)])

/-! ## Reading -/

/-- A text. -/
def string? : Json → Option String
  | .string s => some s
  | _ => none

/-- A list of texts. -/
def strings? : Json → Option (List String)
  | .list items => items.mapM string?
  | _ => none

/-- The values under a key of an object, in written order. -/
def valuesOf (key : String) (members : List (Except Malformed String × Json)) : List Json :=
  members.filterMap fun member =>
    match member.1 with
    | .ok k => if k == key then some member.2 else none
    | .error _ => none

/-- A value of a list: a text, a record with synonyms or without, or such a record as a list. -/
def entry? : Json → Option SlotValue
  | .string value => some ⟨value, []⟩
  | .object members =>
    match valuesOf "value" members, valuesOf "synonyms" members with
    | [.string value], [] => some ⟨value, []⟩
    | [.string value], [synonyms] => (strings? synonyms).map (⟨value, ·⟩)
    | _, _ => none
  | .list [.string value] => some ⟨value, []⟩
  | .list [.string value, synonyms] => (strings? synonyms).map (⟨value, ·⟩)
  | _ => none

/-- A member of an object from values to synonyms; null is no synonyms. -/
def pair? (member : Except Malformed String × Json) : Option SlotValue :=
  match member with
  | (.ok value, .null) => some ⟨value, []⟩
  | (.ok value, synonyms) => (strings? synonyms).map (⟨value, ·⟩)
  | (.error _, _) => none

/-- The values that a JSON value lists, repeated ones included. -/
def entries? : Json → Option (List SlotValue)
  | .list items => items.mapM entry?
  | .object members => members.mapM pair?
  | _ => none

/-- The collection that a JSON value denotes. -/
def ofJson? (json : Json) : Option SlotValues := (entries? json).map ofList

def decoder : Decoder SlotValues := Decoder.oneOf "RawSlotValues" ofJson?

end SlotValues

end VoiceSkill
