import VoiceSkill.Proofs.Assembly.Containment
import VoiceSkill.Proofs.Assembly.Sound
import VoiceSkill.Proofs.Dict
import VoiceSkill.Proofs.SlotValues.Collection

/-!
# Synonym files

The file of a collection's synonyms is named by the key of the collection as it is. So it lies where
the key leads from the directory of the locale, in further directories maybe, but never outside:
synonyms with a key that leads elsewhere are not assembled, and neither are synonyms of two
collections whose keys lead to one place (`assembleSynonyms_spec`). Keys without slashes are
neither.
-/

namespace VoiceSkill

namespace Layout

variable {layout : Layout} {slotKey : String}

/-- The path of a file of synonyms, from the directory of the locale. -/
def keyPath (slotKey : String) : Path := ⟨slotKey ++ ".json"⟩

/-- Synonyms lie below the root exactly if their key leads to a place below the directory of the
locale. -/
theorem fault?_synonyms_eq_none_iff :
    (layout.synonyms slotKey).fault? = none ↔ (keyPath slotKey).fault? = none := by
  by_cases hrelative : Path.IsRelative (slotKey ++ ".json")
  · have htext : (layout.synonyms slotKey).text ≠ "" :=
      Path.text_child_ne layout.text_tag_ne hrelative
    have habsolute : (layout.synonyms slotKey).isAbsolute = false := by
      rw [← Bool.not_eq_true, ← Path.root_mem_components_iff, layout.components_synonyms hrelative]
      intro hroot
      have hsteps := (List.mem_cons.1 hroot).resolve_left nofun
      rcases Path.parent_or_name_of_mem_steps hsteps with h | ⟨_, h⟩ <;> cases h
    have hparent : .parent ∈ (layout.synonyms slotKey).components ↔
        .parent ∈ (keyPath slotKey).components := by
      rw [layout.components_synonyms hrelative, keyPath, Path.parent_mem_components_iff hrelative]
      simp
    rw [Path.fault?_eq_none_iff_relative, Path.fault?_eq_none_iff_relative, hparent, habsolute]
    have hkey : (keyPath slotKey).text ≠ "" := by simp [keyPath]
    have hkeyAbsolute : (keyPath slotKey).isAbsolute = false := hrelative
    simp [htext, hkey, hkeyAbsolute]
  · have hkey : (keyPath slotKey).isAbsolute = true := by
      rwa [Path.IsRelative, Bool.not_eq_false] at hrelative
    rw [Path.fault?_of_isAbsolute (layout.isAbsolute_synonyms hrelative),
      Path.fault?_of_isAbsolute hkey]

/-- The place of a file of synonyms whose way consists of the given names. -/
def synonymPlace (layout : Layout) (names : List String) : List Component :=
  .name layout.locale.tag :: names.map .name

theorem synonymPlace_injective : Function.Injective layout.synonymPlace := by
  intro names others h
  exact List.map_injective_iff.2 (fun _ _ => Component.name.inj) (List.cons.inj h).2

theorem components_synonyms_of_fault?_eq_none (h : (keyPath slotKey).fault? = none) :
    (layout.synonyms slotKey).components = layout.synonymPlace (keyPath slotKey).names := by
  rw [layout.components_synonyms (Path.isAbsolute_of_fault?_eq_none h), synonymPlace,
    ← Path.steps_of_fault?_eq_none h]
  rfl

theorem names_keyPath_ne_nil (h : (keyPath slotKey).fault? = none) :
    (keyPath slotKey).names ≠ [] := by
  intro hnil
  have hsteps := Path.steps_of_fault?_eq_none h
  rw [hnil] at hsteps
  exact Path.steps_json_ne_nil slotKey hsteps

/-- A key without slashes leads to a file right in the directory of the locale. -/
theorem keyPath_of_slash_not_mem (h : '/' ∉ slotKey.toList) :
    (keyPath slotKey).fault? = none ∧ (keyPath slotKey).names = [slotKey ++ ".json"] := by
  obtain ⟨hrelative, hsteps⟩ := Path.steps_json h
  have hfault : (keyPath slotKey).fault? = none := by
    refine Path.fault?_eq_none_iff_relative.2 ⟨by simp [keyPath], hrelative, ?_⟩
    rw [keyPath, Path.parent_mem_components_iff hrelative, hsteps]
    simp
  have hnames : Path.steps (slotKey ++ ".json") = (keyPath slotKey).names.map .name :=
    Path.steps_of_fault?_eq_none hfault
  rw [hsteps] at hnames
  exact ⟨hfault, by simpa using hnames.symm⟩

/-- What becomes of a collection with synonyms: a file below the directory of the locale, with one
member for each of its values that holds the synonyms of the value. -/
structure IsSynonymFile (layout : Layout) (slot : String × SlotValues) (artifact : Artifact) :
    Prop where
  components : artifact.path.components = layout.synonymPlace (keyPath slot.1).names
  below : (keyPath slot.1).names ≠ []
  document : ∃ members, artifact.document = .object members ∧ KeysIncrease members ∧
    members.Perm (slot.2.entries.map fun entry => (entry.value, .texts entry.synonyms))

/-- The places follow from the keys. -/
theorem places_of_synonymFiles {slots : List (String × SlotValues)} {artifacts : List Artifact}
    (h : List.Forall₂ layout.IsSynonymFile slots artifacts) :
    (ArtifactSet.mk artifacts).places =
      slots.map fun slot => layout.synonymPlace (keyPath slot.1).names := by
  rw [ArtifactSet.places, ← List.forall₂_eq_eq_eq, List.forall₂_map_left_iff,
    List.forall₂_map_right_iff]
  exact h.flip.imp fun _ _ hfile => hfile.components

end Layout

theorem SlotValues.exists_members_synonymDocument (values : SlotValues) :
    ∃ members, values.synonymDocument = .object members ∧ KeysIncrease members ∧
      members.Perm (values.entries.map fun entry => (entry.value, .texts entry.synonyms)) := by
  obtain ⟨members, hdocument, hperm⟩ := values.exists_synonymDocument_eq
  refine ⟨members, hdocument, ?_, hperm⟩
  rw [← Document.object.inj hdocument]
  exact (values.synonymsByValue.map Document.texts).keysIncrease

namespace Definition

variable (definition : Definition) (config : BuildConfig)

/-- The collections that have synonyms. -/
def synonymSlots : List (String × SlotValues) :=
  definition.slots.entries.filter fun slot => slot.2.hasSynonyms

/-- The file of a collection's synonyms. -/
def synonymFile (slot : String × SlotValues) : Artifact :=
  ⟨config.layout.synonyms slot.1, slot.2.synonymDocument⟩

@[simp] theorem path_synonymFile (slot : String × SlotValues) :
    (synonymFile config slot).path = config.layout.synonyms slot.1 := by
  rw [synonymFile]

variable {definition config} {set : ArtifactSet} {slots : List (String × SlotValues)}

theorem assembleSynonyms_eq_ok_iff :
    (definition.assembleSynonyms config).result = .ok set ↔
      set = ⟨definition.synonymSlots.map (synonymFile config)⟩ ∧ set.Sound := by
  rw [result_assembleSynonyms, Layout.filterMap_synonymArtifact?,
    ArtifactSet.foldlM_add_empty_eq_ok_iff]
  rfl

theorem places_synonymFiles (hplaces : ∀ slot ∈ slots, (Layout.keyPath slot.1).fault? = none) :
    (ArtifactSet.mk (slots.map (synonymFile config))).places =
      (slots.map fun slot => (Layout.keyPath slot.1).names).map config.layout.synonymPlace := by
  rw [ArtifactSet.places, List.map_map, List.map_map]
  refine List.map_congr_left fun slot hslot => ?_
  simp only [Function.comp_apply, path_synonymFile,
    Layout.components_synonyms_of_fault?_eq_none (hplaces slot hslot)]

/-- Files of synonyms make a sound set if their keys lead to different places below the directory
of the locale. -/
theorem sound_synonymFiles_iff :
    (ArtifactSet.mk (slots.map (synonymFile config))).Sound ↔
      (∀ slot ∈ slots, (Layout.keyPath slot.1).fault? = none) ∧
        (slots.map fun slot => (Layout.keyPath slot.1).names).Nodup := by
  have hplaces : (∀ artifact ∈ slots.map (synonymFile config), artifact.path.fault? = none) ↔
      ∀ slot ∈ slots, (Layout.keyPath slot.1).fault? = none := by
    simp only [List.forall_mem_map, path_synonymFile, Layout.fault?_synonyms_eq_none_iff]
  constructor
  · rintro ⟨hfaultless, hapart⟩
    have hkeys := hplaces.1 hfaultless
    rw [places_synonymFiles hkeys] at hapart
    exact ⟨hkeys, hapart.of_map⟩
  · rintro ⟨hkeys, hapart⟩
    refine ⟨hplaces.2 hkeys, ?_⟩
    rw [places_synonymFiles hkeys]
    exact (List.nodup_map_iff Layout.synonymPlace_injective).2 hapart

/-- Keys without slashes lead to different files. -/
theorem sound_synonymFiles_of_slash_not_mem
    (h : ∀ slot ∈ definition.synonymSlots, '/' ∉ slot.1.toList) :
    (ArtifactSet.mk (definition.synonymSlots.map (synonymFile config))).Sound := by
  refine sound_synonymFiles_iff.2
    ⟨fun slot hslot => (Layout.keyPath_of_slash_not_mem (h slot hslot)).1, ?_⟩
  have hnames : definition.synonymSlots.map (fun slot => (Layout.keyPath slot.1).names) =
      (definition.synonymSlots.map Prod.fst).map fun key => [key ++ ".json"] := by
    rw [List.map_map]
    exact List.map_congr_left fun slot hslot =>
      (Layout.keyPath_of_slash_not_mem (h slot hslot)).2
  have hinjective : Function.Injective fun key : String => [key ++ ".json"] := by
    intro key other hsame
    simpa using hsame
  rw [hnames, List.nodup_map_iff hinjective]
  exact definition.slots.nodup_keys.sublist (List.filter_sublist.map Prod.fst)

theorem forall₂_synonymFiles (h : (ArtifactSet.mk (slots.map (synonymFile config))).Sound) :
    List.Forall₂ config.layout.IsSynonymFile slots (slots.map (synonymFile config)) := by
  have hkeys := (sound_synonymFiles_iff.1 h).1
  rw [List.forall₂_map_right_iff, List.forall₂_same]
  intro slot hslot
  refine ⟨?_, Layout.names_keyPath_ne_nil (hkeys slot hslot), ?_⟩
  · rw [path_synonymFile, Layout.components_synonyms_of_fault?_eq_none (hkeys slot hslot)]
  · rw [synonymFile]
    exact slot.2.exists_members_synonymDocument

/-- **Synonyms are assembled for the collections that have some**, in the order of the bytes of
their keys and whatever the layout. Each file lies below the directory of the locale where the key
leads, and has one member for each value, with the synonyms of the value as they are. Nothing stands
in the way but keys that lead out of this directory, or two of them to one place; without slashes
they do neither. -/
theorem assembleSynonyms_spec (definition : Definition) (config : BuildConfig) :
    (∀ set, (definition.assembleSynonyms config).result = .ok set →
      List.Forall₂ config.layout.IsSynonymFile definition.synonymSlots set.artifacts) ∧
    (∀ slot, slot ∈ definition.synonymSlots ↔ slot ∈ definition.slots.entries ∧
      ∃ entry ∈ slot.2.entries, ∃ synonym ∈ entry.synonyms, synonym ≠ "") ∧
    (definition.synonymSlots.Pairwise fun slot other => utf8 slot.1 < utf8 other.1) ∧
    (∀ flattenLocale, definition.assembleSynonyms { config with flattenLocale } =
      definition.assembleSynonyms config) ∧
    ((∃ set, (definition.assembleSynonyms config).result = .ok set) ↔
      (∀ slot ∈ definition.synonymSlots, (Layout.keyPath slot.1).fault? = none) ∧
        (definition.synonymSlots.map fun slot => (Layout.keyPath slot.1).names).Nodup) ∧
    ((∀ slot ∈ definition.synonymSlots, '/' ∉ slot.1.toList) →
      ∃ set, (definition.assembleSynonyms config).result = .ok set) := by
  have hok (h : (ArtifactSet.mk (definition.synonymSlots.map (synonymFile config))).Sound) :
      ∃ set, (definition.assembleSynonyms config).result = .ok set :=
    ⟨_, assembleSynonyms_eq_ok_iff.2 ⟨rfl, h⟩⟩
  refine ⟨?files, ?slots, ?order, fun _ => rfl, ⟨?sound, fun h => hok (sound_synonymFiles_iff.2 h)⟩,
    fun h => hok (sound_synonymFiles_of_slash_not_mem h)⟩
  case files =>
    intro set hset
    obtain ⟨rfl, hsound⟩ := assembleSynonyms_eq_ok_iff.1 hset
    exact forall₂_synonymFiles hsound
  case slots =>
    intro slot
    rw [synonymSlots, List.mem_filter, SlotValues.hasSynonyms_iff]
  case order =>
    exact (List.pairwise_map.1 definition.slots.keys_pairwise_utf8).sublist List.filter_sublist
  case sound =>
    rintro ⟨set, hset⟩
    obtain ⟨rfl, hsound⟩ := assembleSynonyms_eq_ok_iff.1 hset
    exact sound_synonymFiles_iff.1 hsound

/-- Two cities under a key, of which one has another name, and a day that has none. -/
def cityNames (key : String) : Definition :=
  { empty with
    slots := Dict.ofList [
      (key, .ofList [⟨"paris", ["city of light"]⟩, ⟨"oslo", []⟩]),
      ("Day", .ofList [⟨"monday", [""]⟩])] }

/-- The names of the cities lie where the key leads, unless it leads up. -/
theorem assembleSynonyms_spec_cityNames :
    (∃ set, ((cityNames "City").assembleSynonyms usEnglish).result = .ok set ∧
      set.places = [[.name "en-US", .name "City.json"]]) ∧
    (∃ set, ((cityNames "./far//City").assembleSynonyms usEnglish).result = .ok set ∧
      set.places = [[.name "en-US", .name "far", .name "City.json"]]) ∧
    ¬ ∃ set, ((cityNames "../City").assembleSynonyms usEnglish).result = .ok set := by
  refine ⟨?_, ?_, ?_⟩
  · obtain ⟨hfiles, _, _, _, _, hplain⟩ := assembleSynonyms_spec (cityNames "City") usEnglish
    obtain ⟨set, hset⟩ := hplain (by decide +kernel)
    refine ⟨set, hset, (Layout.places_of_synonymFiles (hfiles set hset)).trans ?_⟩
    clear hset
    decide +kernel
  · obtain ⟨hfiles, _, _, _, hok, _⟩ := assembleSynonyms_spec (cityNames "./far//City") usEnglish
    obtain ⟨set, hset⟩ := hok.2 (by decide +kernel)
    refine ⟨set, hset, (Layout.places_of_synonymFiles (hfiles set hset)).trans ?_⟩
    clear hset
    decide +kernel
  · obtain ⟨_, _, _, _, hok, _⟩ := assembleSynonyms_spec (cityNames "../City") usEnglish
    rw [hok]
    decide +kernel

end Definition

end VoiceSkill
