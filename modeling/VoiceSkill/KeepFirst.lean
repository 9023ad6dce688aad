/-!
# First occurrences

Of several items with the same key only the first one counts.
-/

namespace VoiceSkill

/-- The items of a list whose key does not occur before them. -/
def keepFirst {α : Type} (key : α → String) : List α → List α
  | [] => []
  | a :: rest => a :: (keepFirst key rest).filter fun b => key b != key a

theorem keepFirst_sublist {α : Type} (key : α → String) (items : List α) :
    (keepFirst key items).Sublist items := by
  induction items with
  | nil => exact .slnil
  | cons a rest ih => exact .cons_cons a (List.filter_sublist.trans ih)

/-- No two of the items that are kept have one key. -/
theorem nodup_map_keepFirst {α : Type} (key : α → String) (items : List α) :
    ((keepFirst key items).map key).Nodup := by
  induction items with
  | nil => exact List.nodup_nil
  | cons a rest ih =>
    rw [keepFirst, List.map_cons, List.nodup_cons]
    refine ⟨fun h => ?_, ih.sublist (List.filter_sublist.map key)⟩
    obtain ⟨b, hb, hkey⟩ := List.mem_map.1 h
    simp [hkey] at hb

/-- Every key is kept. -/
theorem mem_map_keepFirst {α : Type} {key : α → String} {k : String} {items : List α} :
    k ∈ (keepFirst key items).map key ↔ k ∈ items.map key := by
  induction items with
  | nil => simp [keepFirst]
  | cons a rest ih =>
    rw [keepFirst, List.map_cons, List.map_cons, List.mem_cons, List.mem_cons, ← ih]
    by_cases hk : k = key a
    · simp [hk]
    · simp only [hk, false_or, List.mem_map, List.mem_filter]
      constructor
      · rintro ⟨b, ⟨hb, _⟩, rfl⟩
        exact ⟨b, hb, rfl⟩
      · rintro ⟨b, hb, rfl⟩
        exact ⟨b, ⟨hb, by simpa using hk⟩, rfl⟩

/-- The items of a list whose key occurs before them, or among the keys that have been seen. -/
def repeated {α : Type} (key : α → String) (seen : List String) : List α → List α
  | [] => []
  | a :: rest =>
    if seen.contains (key a) then a :: repeated key seen rest
    else repeated key (key a :: seen) rest

end VoiceSkill
