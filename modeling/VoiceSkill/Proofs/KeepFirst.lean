import VoiceSkill.KeepFirst
import Mathlib.Data.List.Induction
import Mathlib.Data.List.Nodup

/-!
# Items kept at their first occurrence

Of several items with one key the first one is kept, in its place among the others
(`keepFirst_eq_firstOccurrences`, `mem_keepFirst_iff`). Nothing is left out where all keys are
different (`keepFirst_eq_self`), and what is kept stands in the order of its first occurrences
(`pairwise_idxOf_keepFirst`). Where not all keys are different, one item is the first to repeat a
key (`exists_first_repeated`).
-/

namespace VoiceSkill

variable {α : Type} {key : α → String} {items others : List α}

/-- Where a choice depends on the key alone, it can be made before or after. -/
theorem keepFirst_filter {p : α → Bool} (hp : ∀ a b, key a = key b → p a = p b)
    (items : List α) : keepFirst key (items.filter p) = (keepFirst key items).filter p := by
  induction items with
  | nil => rfl
  | cons a rest ih =>
      rw [keepFirst, List.filter_cons]
      by_cases ha : p a = true
      · rw [if_pos ha, keepFirst, ih, List.filter_cons, if_pos ha, List.filter_filter,
          List.filter_filter]
        simp only [Bool.and_comm]
      · rw [if_neg ha, ih, List.filter_cons, if_neg ha, List.filter_filter]
        -- what passes differs from the first item in its key
        apply List.filter_congr
        intro b _
        by_cases hb : key b = key a
        · rw [hp b a hb, Bool.eq_false_iff.2 ha, Bool.false_and]
        · simp [hb]

/-- Items with different keys stay as they are, and nothing with one of these keys is added. -/
theorem keepFirst_append (hitems : (items.map key).Nodup)
    (hothers : ∀ b ∈ others, key b ∈ items.map key) : keepFirst key (items ++ others) = items := by
  induction items generalizing others with
  | nil =>
      have hnil : others = [] := List.eq_nil_iff_forall_not_mem.2 fun b hb => by
        simpa using hothers b hb
      rw [hnil]
      rfl
  | cons a rest ih =>
      obtain ⟨ha, hrest⟩ := List.nodup_cons.1 hitems
      have hkeys : ∀ b c, key b = key c → (key b != key a) = (key c != key a) := by
        intro b c hbc
        rw [hbc]
      have hself : (rest.filter fun b => key b != key a) = rest := by
        rw [List.filter_eq_self]
        intro b hb
        rw [bne_iff_ne]
        intro hsame
        exact ha (hsame ▸ List.mem_map_of_mem hb)
      have hleft : ∀ b ∈ others.filter fun b => key b != key a, key b ∈ rest.map key := by
        intro b hb
        obtain ⟨hmem, hne⟩ := List.mem_filter.1 hb
        exact (List.mem_cons.1 (hothers b hmem)).resolve_left (bne_iff_ne.1 hne)
      rw [List.cons_append, keepFirst, ← keepFirst_filter hkeys, List.filter_append, hself,
        ih hrest hleft]

theorem keepFirst_eq_self (h : (items.map key).Nodup) : keepFirst key items = items := by
  have hall : keepFirst key (items ++ []) = items := keepFirst_append h (by simp)
  rwa [List.append_nil] at hall

/-- What is kept stands in the order of its first occurrences. -/
theorem pairwise_idxOf_keepFirst (key : α → String) (items : List α) :
    (keepFirst key items).Pairwise fun a b =>
      (items.map key).idxOf (key a) < (items.map key).idxOf (key b) := by
  induction items with
  | nil => exact List.Pairwise.nil
  | cons a rest ih =>
      have hshift {b : α} (hb : key b ≠ key a) :
          ((a :: rest).map key).idxOf (key b) = (rest.map key).idxOf (key b) + 1 := by
        rw [List.map_cons, List.idxOf_cons_ne _ hb.symm]
      rw [keepFirst]
      refine List.pairwise_cons.2 ⟨?_, ?_⟩
      · intro b hb
        have hne : key b ≠ key a := by simpa using (List.mem_filter.1 hb).2
        rw [hshift hne, List.map_cons, List.idxOf_cons_self]
        omega
      · refine (ih.sublist List.filter_sublist).imp_of_mem ?_
        intro b c hb hc hlt
        have hb' : key b ≠ key a := by simpa using (List.mem_filter.1 hb).2
        have hc' : key c ≠ key a := by simpa using (List.mem_filter.1 hc).2
        rw [hshift hb', hshift hc']
        omega

/-! ## Occurrences by position -/

/-- The items of a list whose key none of the items before them has. -/
def firstOccurrences (key : α → String) (items : List α) : List α :=
  (items.zipIdx.filter fun place => key place.1 ∉ (items.take place.2).map key).map Prod.fst

/-- A further item is kept if its key is new. -/
theorem keepFirst_concat (key : α → String) (items : List α) (a : α) :
    keepFirst key (items ++ [a]) =
      if key a ∈ items.map key then keepFirst key items else keepFirst key items ++ [a] := by
  induction items with
  | nil => rfl
  | cons b rest ih =>
      have hmem : key a ∈ (b :: rest).map key ↔ key a = key b ∨ key a ∈ rest.map key := by
        rw [List.map_cons, List.mem_cons]
      rw [List.cons_append, keepFirst, keepFirst, ih]
      by_cases hrest : key a ∈ rest.map key
      · rw [if_pos hrest, if_pos (hmem.2 (Or.inr hrest))]
      · rw [if_neg hrest, List.filter_append]
        by_cases hfirst : key a = key b
        · rw [if_pos (hmem.2 (Or.inl hfirst))]
          simp [hfirst]
        · rw [if_neg (mt hmem.1 (not_or.2 ⟨hfirst, hrest⟩))]
          simp [hfirst]

/-- Where items are chosen by what stands before them, a further item changes nothing for these. -/
theorem filter_before_concat (p : α → List α → Bool) (items : List α) (a : α) :
    ((items ++ [a]).zipIdx.filter fun place =>
        p place.1 ((items ++ [a]).take place.2)).map Prod.fst =
      (items.zipIdx.filter fun place => p place.1 (items.take place.2)).map Prod.fst ++
        if p a items then [a] else [] := by
  have hbefore : (items.zipIdx.filter fun place => p place.1 ((items ++ [a]).take place.2)) =
      items.zipIdx.filter fun place => p place.1 (items.take place.2) := by
    apply List.filter_congr
    intro place hplace
    have hlt : place.2 < items.length := by simpa using List.snd_lt_of_mem_zipIdx hplace
    rw [List.take_append_of_le_length (Nat.le_of_lt hlt)]
  rw [List.zipIdx_append, List.filter_append, hbefore, List.map_append, Nat.zero_add,
    List.zipIdx_singleton, List.filter_cons, List.take_left, List.filter_nil]
  split <;> rfl

theorem firstOccurrences_concat (key : α → String) (items : List α) (a : α) :
    firstOccurrences key (items ++ [a]) =
      if key a ∈ items.map key then firstOccurrences key items
      else firstOccurrences key items ++ [a] := by
  rw [firstOccurrences, filter_before_concat fun b before => key b ∉ before.map key,
    ← firstOccurrences]
  by_cases hold : key a ∈ items.map key
  · rw [if_pos hold]
    simp [hold]
  · rw [if_neg hold]
    simp [hold]

/-- **The items that are kept are those whose key does not occur before them.** -/
theorem keepFirst_eq_firstOccurrences (key : α → String) (items : List α) :
    keepFirst key items = firstOccurrences key items := by
  induction items using List.reverseRecOn with
  | nil => rfl
  | append_singleton items a ih => rw [keepFirst_concat, firstOccurrences_concat, ih]

/-- What is kept is what has none of its key before it. -/
theorem mem_keepFirst_iff {a : α} :
    a ∈ keepFirst key items ↔
      ∃ before after, items = before ++ a :: after ∧ key a ∉ before.map key := by
  induction items using List.reverseRecOn with
  | nil => simp [keepFirst]
  | append_singleton items b ih =>
      rw [keepFirst_concat]
      constructor
      · intro h
        split at h
        · obtain ⟨before, after, rfl, hfirst⟩ := ih.1 h
          exact ⟨before, after ++ [b], by simp, hfirst⟩
        · rename_i hnew
          rcases List.mem_append.1 h with h | h
          · obtain ⟨before, after, rfl, hfirst⟩ := ih.1 h
            exact ⟨before, after ++ [b], by simp, hfirst⟩
          · obtain rfl := List.mem_singleton.1 h
            exact ⟨items, [], rfl, hnew⟩
      · rintro ⟨before, after, hitems, hfirst⟩
        -- the item is the last one, or stands in front of it
        rcases List.eq_nil_or_concat after with rfl | ⟨after, last, rfl⟩
        · obtain ⟨rfl, hlast⟩ := List.append_inj' hitems rfl
          cases hlast
          rw [if_neg hfirst]
          exact List.mem_append_right _ (List.mem_singleton_self _)
        · rw [List.concat_eq_append, ← List.cons_append, ← List.append_assoc] at hitems
          obtain ⟨rfl, _⟩ := List.append_inj' hitems rfl
          have hkept := ih.2 ⟨before, after, rfl, hfirst⟩
          split
          · exact hkept
          · exact List.mem_append_left _ hkept

/-! ## Repetitions -/

/-- A further item is a repetition if its key has been seen or stands before it. -/
theorem repeated_concat (key : α → String) (seen : List String) (items : List α) (a : α) :
    repeated key seen (items ++ [a]) =
      repeated key seen items ++ if key a ∈ seen ∨ key a ∈ items.map key then [a] else [] := by
  induction items generalizing seen with
  | nil => simp [repeated]
  | cons b rest ih =>
      rw [List.cons_append, repeated, repeated]
      split
      · rename_i hseen
        have hsame : (key a ∈ seen ∨ key a ∈ (b :: rest).map key) ↔
            (key a ∈ seen ∨ key a ∈ rest.map key) := by
          rw [List.map_cons, List.mem_cons]
          constructor
          · rintro (hold | hb | hrest)
            · exact Or.inl hold
            · exact Or.inl (hb ▸ List.contains_iff_mem.1 hseen)
            · exact Or.inr hrest
          · exact Or.imp_right Or.inr
        rw [ih, List.cons_append]
        simp only [hsame]
      · rw [ih]
        simp [or_assoc, or_left_comm]

/-- Among items whose keys are not all different there is a first one that repeats a key. -/
theorem exists_first_repeated {κ : Type} {key : α → κ} (h : ¬ (items.map key).Nodup) :
    ∃ before a after, items = before ++ a :: after ∧ (before.map key).Nodup ∧
      key a ∈ before.map key := by
  induction items using List.reverseRecOn with
  | nil => exact absurd List.nodup_nil h
  | append_singleton items b ih =>
      by_cases hitems : (items.map key).Nodup
      · refine ⟨items, b, [], rfl, hitems, ?_⟩
        by_contra hnew
        rw [List.map_append, List.map_singleton, ← List.concat_eq_append, List.nodup_concat] at h
        exact h ⟨hnew, hitems⟩
      · obtain ⟨before, a, after, rfl, hbefore, hrepeated⟩ := ih hitems
        exact ⟨before, a, after ++ [b], by simp, hbefore, hrepeated⟩

end VoiceSkill
