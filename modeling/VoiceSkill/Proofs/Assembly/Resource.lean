import VoiceSkill.Assembly
import VoiceSkill.Proofs.Assembly.Placing
import VoiceSkill.Proofs.Layout

/-!
# Synonym and content files

Both kinds of files lie in the directory of the locale. A file of content is named by an identifier,
so it lies right there (`components_content`); a file of synonyms is named by the key of its slot as
it is, and lies where the key leads (`components_synonyms`). Assembling them adds one artifact for
every slot with synonyms (`result_assembleSynonyms`), and for every piece of content whose key has
usable characters (`result_assembleContent`).
-/

namespace VoiceSkill

namespace Layout

variable (layout : Layout)

theorem text_tag_ne : (Path.mk layout.locale.tag).text ≠ "" := by
  cases layout.locale <;> decide

theorem components_tag : (Path.mk layout.locale.tag).components = [.name layout.locale.tag] := by
  cases layout.locale <;> decide

/-- The directory of a locale is never that of the schemas. -/
theorem tag_ne_platformDirectory : layout.locale.tag ≠ platformDirectory := by
  cases layout.locale <;> decide

/-- Synonyms lie where the key of their slot leads from the directory of the locale. -/
theorem components_synonyms {slotKey : String} (h : Path.IsRelative (slotKey ++ ".json")) :
    (layout.synonyms slotKey).components =
      .name layout.locale.tag :: Path.steps (slotKey ++ ".json") := by
  rw [synonyms, Path.components_child layout.text_tag_ne h, components_tag]
  rfl

/-- A key that begins at the root leads there. -/
theorem isAbsolute_synonyms {slotKey : String} (h : ¬ Path.IsRelative (slotKey ++ ".json")) :
    (layout.synonyms slotKey).isAbsolute = true := by
  rw [Path.IsRelative, Bool.not_eq_false] at h
  rwa [synonyms, Path.child, Path.join, if_pos h]

/-- Content lies right in the directory of the locale. -/
theorem components_content (key : String) :
    (layout.content key).components =
      [.name layout.locale.tag, .name (kebabCase key ++ ".json")] := by
  obtain ⟨hrelative, hsteps⟩ := Path.steps_json (slash_not_mem_kebabCase key)
  rw [content, Path.components_child layout.text_tag_ne hrelative, components_tag, hsteps]
  rfl

/-- The artifact for a collection of slot values, if it has synonyms. -/
def synonymArtifact? (slot : String × SlotValues) : Option Artifact :=
  if slot.2.hasSynonyms then some ⟨layout.synonyms slot.1, slot.2.synonymDocument⟩ else none

/-- The artifact for a piece of content, if its key has usable characters. -/
def contentArtifact? (content : String × Document) : Option Artifact :=
  if kebabCase content.1 = "" then none else some ⟨layout.content content.1, content.2⟩

theorem filterMap_synonymArtifact? (slots : List (String × SlotValues)) :
    slots.filterMap layout.synonymArtifact? =
      (slots.filter fun slot => slot.2.hasSynonyms).map fun slot =>
        ⟨layout.synonyms slot.1, slot.2.synonymDocument⟩ := by
  rw [← List.filterMap_eq_map, List.filterMap_filter]
  rfl

theorem filterMap_contentArtifact? (contents : List (String × Document)) :
    contents.filterMap layout.contentArtifact? =
      (contents.filter fun content => kebabCase content.1 ≠ "").map fun content =>
        ⟨layout.content content.1, content.2⟩ := by
  rw [← List.filterMap_eq_map, List.filterMap_filter]
  congr 1
  funext content
  rw [contentArtifact?]
  by_cases h : kebabCase content.1 = "" <;> simp [h]

end Layout

theorem ArtifactSet.result_place (set : ArtifactSet) (path : Path) (document : Document) :
    (set.place path document).result = set.add (.ok ⟨path, document⟩) := rfl

/-- A run that adds an artifact for some items comes down to adding these artifacts. -/
theorem ArtifactSet.result_foldlM_add {α : Type}
    {step : ArtifactSet → α → Logged BuildError ArtifactSet} {artifact? : α → Option Artifact}
    (hstep : ∀ set a, (step set a).result = match artifact? a with
      | some artifact => set.add (.ok artifact)
      | none => .ok set)
    (items : List α) (set : ArtifactSet) :
    (items.foldlM step set).result =
      ((items.filterMap artifact?).map .ok).foldlM ArtifactSet.add set := by
  induction items generalizing set with
  | nil => rfl
  | cons a rest ih =>
      rw [List.foldlM_cons, Logged.result_bind, hstep, List.filterMap_cons]
      cases artifact? a with
      | none => exact ih set
      | some artifact =>
          rw [List.map_cons, List.foldlM_cons]
          congr 1
          funext next
          exact ih next

namespace Definition

variable (definition : Definition) (config : BuildConfig)

theorem result_assembleSynonyms :
    (definition.assembleSynonyms config).result =
      ((definition.slots.entries.filterMap config.layout.synonymArtifact?).map .ok).foldlM
        ArtifactSet.add .empty := by
  have hstep (set : ArtifactSet) (slot : String × SlotValues) :
      (set.placeSynonyms config.layout slot).result =
        match config.layout.synonymArtifact? slot with
        | some artifact => set.add (.ok artifact)
        | none => .ok set := by
    rw [ArtifactSet.placeSynonyms, Layout.synonymArtifact?]
    by_cases h : slot.2.hasSynonyms = true
    · rw [if_pos h, if_pos h]
      exact ArtifactSet.result_place set _ _
    · rw [if_neg h, if_neg h]
      rfl
  rw [assembleSynonyms, Logged.result_bind, ArtifactSet.result_foldlM_add hstep]
  exact bind_pure _

theorem result_assembleContent :
    (definition.assembleContent config).result =
      ((definition.others.entries.filterMap config.layout.contentArtifact?).map .ok).foldlM
        ArtifactSet.add .empty := by
  have hstep (set : ArtifactSet) (content : String × Document) :
      (set.placeContent config.layout content).result =
        match config.layout.contentArtifact? content with
        | some artifact => set.add (.ok artifact)
        | none => .ok set := by
    rw [ArtifactSet.placeContent, Layout.contentArtifact?]
    by_cases h : kebabCase content.1 = ""
    · rw [if_pos h, if_pos h]
      rfl
    · rw [if_neg h, if_neg h]
      exact ArtifactSet.result_place set _ _
  rw [assembleContent, Logged.result_bind, ArtifactSet.result_foldlM_add hstep]
  exact bind_pure _

variable {definition config} {set : ArtifactSet} {artifact : Artifact}

/-- **The synonyms that were assembled are those of the slots that have some.** -/
theorem mem_artifacts_of_assembleSynonyms
    (h : (definition.assembleSynonyms config).result = .ok set) :
    artifact ∈ set.artifacts ↔ ∃ slot ∈ definition.slots.entries, slot.2.hasSynonyms = true ∧
      artifact = ⟨config.layout.synonyms slot.1, slot.2.synonymDocument⟩ := by
  rw [result_assembleSynonyms] at h
  obtain rfl := ArtifactSet.eq_of_foldlM_add_map_ok h
  show artifact ∈ [] ++ _ ↔ _
  rw [List.nil_append, List.mem_filterMap]
  refine exists_congr fun slot => and_congr_right fun _ => ?_
  rw [Layout.synonymArtifact?, Option.ite_none_right_eq_some, Option.some.injEq]
  exact and_congr_right fun _ => eq_comm

/-- **The content that was assembled is that under keys with usable characters.** -/
theorem mem_artifacts_of_assembleContent
    (h : (definition.assembleContent config).result = .ok set) :
    artifact ∈ set.artifacts ↔ ∃ content ∈ definition.others.entries, kebabCase content.1 ≠ "" ∧
      artifact = ⟨config.layout.content content.1, content.2⟩ := by
  rw [result_assembleContent] at h
  obtain rfl := ArtifactSet.eq_of_foldlM_add_map_ok h
  show artifact ∈ [] ++ _ ↔ _
  rw [List.nil_append, List.mem_filterMap]
  refine exists_congr fun content => and_congr_right fun _ => ?_
  rw [Layout.contentArtifact?, Option.ite_none_left_eq_some, Option.some.injEq]
  exact and_congr_right fun _ => eq_comm

end Definition

end VoiceSkill
