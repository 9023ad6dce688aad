import VoiceSkill.Intent
import VoiceSkill.Proofs.KeepFirst

/-!
# Merged samples

An intent is compiled from the samples of its author and its own. Merging them leaves out empty
texts and repetitions and nothing else, and keeps the order in which the texts occur first
(`isCompaction_mergeSamples`). Merging once more changes nothing (`mergeSamples_mergeSamples`).
-/

namespace VoiceSkill

/-! ## Merging -/

/-- A list holds the texts of another without empty ones and repetitions, in the order of their
first occurrences. -/
structure IsCompaction (given merged : List String) : Prop where
  nonempty : "" ∉ merged
  nodup : merged.Nodup
  mem_iff : ∀ s, s ∈ merged ↔ s ≠ "" ∧ s ∈ given
  order : merged.Pairwise fun a b => given.idxOf a < given.idxOf b

theorem mergeSamples_eq (intent : String) (samples : List String) :
    mergeSamples intent samples =
      (keepFirst id (samples ++ builtinSamples intent)).filter fun s => s != "" := by
  rw [mergeSamples, keepFirst_filter]
  intro a b hab
  rw [show a = b from hab]

theorem mem_mergeSamples {intent s : String} {samples : List String} :
    s ∈ mergeSamples intent samples ↔ s ≠ "" ∧ s ∈ samples ++ builtinSamples intent := by
  have hmem : s ∈ (keepFirst id (samples ++ builtinSamples intent)).map id ↔
      s ∈ (samples ++ builtinSamples intent).map id := mem_map_keepFirst
  rw [List.map_id, List.map_id] at hmem
  rw [mergeSamples_eq, List.mem_filter, hmem, bne_iff_ne, and_comm]

theorem nodup_mergeSamples (intent : String) (samples : List String) :
    (mergeSamples intent samples).Nodup := by
  simpa [mergeSamples] using nodup_map_keepFirst id
    ((samples ++ builtinSamples intent).filter fun s => s != "")

/-- **Merging compacts the samples of the author followed by those of the intent.** -/
theorem isCompaction_mergeSamples (intent : String) (samples : List String) :
    IsCompaction (samples ++ builtinSamples intent) (mergeSamples intent samples) where
  nonempty := fun h => (mem_mergeSamples.1 h).1 rfl
  nodup := nodup_mergeSamples intent samples
  mem_iff := fun _ => mem_mergeSamples
  order := by
    rw [mergeSamples_eq]
    simpa using (pairwise_idxOf_keepFirst id (samples ++ builtinSamples intent)).sublist
      List.filter_sublist

/-- One of the author's samples is empty, and one stands twice and is the intent's own besides. -/
example : mergeSamples "StopIntent" ["exit", "", "stop {what}", "exit"] =
    ["exit", "stop {what}", "stop", "quit", "goodbye", "that's all"] := by decide

/-- **What has been merged is merged into itself.** -/
theorem mergeSamples_mergeSamples (intent : String) (samples : List String) :
    mergeSamples intent (mergeSamples intent samples) = mergeSamples intent samples := by
  have hself : ((mergeSamples intent samples).filter fun s => s != "") =
      mergeSamples intent samples := by
    rw [List.filter_eq_self]
    intro s hs
    exact bne_iff_ne.2 (mem_mergeSamples.1 hs).1
  have hbuiltin : ∀ s ∈ (builtinSamples intent).filter fun s => s != "",
      s ∈ mergeSamples intent samples := by
    intro s hs
    obtain ⟨hmem, hne⟩ := List.mem_filter.1 hs
    exact mem_mergeSamples.2 ⟨bne_iff_ne.1 hne, List.mem_append_right _ hmem⟩
  rw [mergeSamples, List.filter_append, hself]
  exact keepFirst_append (by simpa using nodup_mergeSamples intent samples)
    (by simpa using hbuiltin)

end VoiceSkill
