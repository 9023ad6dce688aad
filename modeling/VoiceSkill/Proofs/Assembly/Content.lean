import VoiceSkill.Proofs.Assembly.Containment
import VoiceSkill.Proofs.Assembly.Sound
import VoiceSkill.Proofs.Dict

/-!
# Content files

A piece of content whose key has usable characters goes to a file right in the directory of the
locale, named by the identifier of the key. So content is assembled exactly if no two of these keys
have one identifier; the first key, by its bytes, with the identifier of an earlier one is the one
that is reported (`assembleContent_spec`).
-/

namespace VoiceSkill

namespace Layout

variable (layout : Layout)

/-- The place of a file of content. -/
def contentPlace (identifier : String) : List Component :=
  [.name layout.locale.tag, .name (identifier ++ ".json")]

theorem contentPlace_injective : Function.Injective layout.contentPlace := by
  intro identifier other h
  simpa [contentPlace] using h

theorem fault?_content (key : String) : (layout.content key).fault? = none := by
  have htag : .name layout.locale.tag ∈ (layout.content key).components := by
    rw [components_content]
    exact List.mem_cons_self
  refine Path.fault?_eq_none (Path.text_ne_of_mem_components htag) fun component hcomponent => ?_
  rw [components_content] at hcomponent
  rcases List.mem_cons.1 hcomponent with h | h
  · exact ⟨_, h⟩
  · exact ⟨_, List.mem_singleton.1 h⟩

theorem text_content (key : String) :
    (layout.content key).text = layout.locale.tag ++ "/" ++ (kebabCase key ++ ".json") := by
  have hrelative : Path.IsRelative (kebabCase key ++ ".json") :=
    Path.isRelative_of_not_mem (by simp [slash_not_mem_kebabCase])
  have hlast : layout.locale.tag.toList.getLast? ≠ some '/' := by
    cases layout.locale <;> decide
  rw [content, Path.text_child layout.text_tag_ne hrelative, if_neg hlast]

/-- What becomes of a piece of content: its value as it is, in the directory of the locale. -/
structure IsContentFile (content : String × Document) (artifact : Artifact) : Prop where
  text : artifact.path.text = layout.locale.tag ++ "/" ++ (kebabCase content.1 ++ ".json")
  components : artifact.path.components =
    [.name layout.locale.tag, .name (kebabCase content.1 ++ ".json")]
  document : artifact.document = content.2

variable {layout} in
/-- The texts of the paths follow from the keys. -/
theorem texts_of_contentFiles {contents : List (String × Document)} {artifacts : List Artifact}
    (h : List.Forall₂ layout.IsContentFile contents artifacts) :
    artifacts.map (fun artifact => artifact.path.text) =
      contents.map fun content => layout.locale.tag ++ "/" ++ (kebabCase content.1 ++ ".json") := by
  rw [← List.forall₂_eq_eq_eq, List.forall₂_map_left_iff, List.forall₂_map_right_iff]
  exact h.flip.imp fun _ _ hfile => hfile.text

end Layout

namespace Definition

variable (definition : Definition) (config : BuildConfig)

/-- The content that names a file. -/
def namedContent : List (String × Document) :=
  definition.others.entries.filter fun content => kebabCase content.1 ≠ ""

/-- The file of a piece of content. -/
def contentFile (content : String × Document) : Artifact :=
  ⟨config.layout.content content.1, content.2⟩

@[simp] theorem path_contentFile (content : String × Document) :
    (contentFile config content).path = config.layout.content content.1 := by
  rw [contentFile]

theorem result_assembleContent_eq :
    (definition.assembleContent config).result =
      ((definition.namedContent.map (contentFile config)).map .ok).foldlM ArtifactSet.add
        .empty := by
  rw [result_assembleContent, Layout.filterMap_contentArtifact?]
  rfl

variable {definition} {config}

theorem fault?_of_mem_contentFiles {contents : List (String × Document)} {artifact : Artifact}
    (h : artifact ∈ contents.map (contentFile config)) : artifact.path.fault? = none := by
  obtain ⟨content, _, rfl⟩ := List.mem_map.1 h
  rw [path_contentFile, Layout.fault?_content]

theorem places_contentFiles (contents : List (String × Document)) :
    (ArtifactSet.mk (contents.map (contentFile config))).places =
      (contents.map fun content => kebabCase content.1).map config.layout.contentPlace := by
  rw [ArtifactSet.places, List.map_map, List.map_map]
  refine List.map_congr_left fun content _ => ?_
  simp only [Function.comp_apply, path_contentFile, Layout.components_content,
    Layout.contentPlace]

/-- Files of content lie apart if their identifiers are different. -/
theorem nodup_places_contentFiles_iff {contents : List (String × Document)} :
    (ArtifactSet.mk (contents.map (contentFile config))).places.Nodup ↔
      (contents.map fun content => kebabCase content.1).Nodup := by
  rw [places_contentFiles, List.nodup_map_iff config.layout.contentPlace_injective]

theorem assembleContent_of_nodup
    (h : (definition.namedContent.map fun content => kebabCase content.1).Nodup) :
    (definition.assembleContent config).result =
      .ok ⟨definition.namedContent.map (contentFile config)⟩ := by
  rw [result_assembleContent_eq]
  exact ArtifactSet.foldlM_add_of_nodup (fun _ => fault?_of_mem_contentFiles)
    (nodup_places_contentFiles_iff.2 h)

theorem assembleContent_of_repeated {before after : List (String × Document)}
    {content : String × Document} (hsplit : definition.namedContent = before ++ content :: after)
    (hbefore : (before.map fun content => kebabCase content.1).Nodup)
    (hrepeated : kebabCase content.1 ∈ before.map fun content => kebabCase content.1) :
    (definition.assembleContent config).result =
      .error (.write (.duplicatePath (config.layout.content content.1))) := by
  have hfiles : definition.namedContent.map (contentFile config) =
      before.map (contentFile config) ++ contentFile config content ::
        after.map (contentFile config) := by
    rw [hsplit, List.map_append, List.map_cons]
  have htaken : (contentFile config content).path.components ∈
      (ArtifactSet.mk (before.map (contentFile config))).places := by
    rw [places_contentFiles, path_contentFile, Layout.components_content]
    exact List.mem_map.2 ⟨_, hrepeated, rfl⟩
  rw [result_assembleContent_eq, hfiles, ← path_contentFile]
  exact ArtifactSet.foldlM_add_of_repeated (fun _ h => fault?_of_mem_contentFiles (hfiles ▸ h))
    (nodup_places_contentFiles_iff.2 hbefore) htaken

theorem forall₂_contentFiles (contents : List (String × Document)) :
    List.Forall₂ config.layout.IsContentFile contents (contents.map (contentFile config)) := by
  rw [List.forall₂_map_right_iff, List.forall₂_same]
  intro content _
  refine ⟨?_, ?_, rfl⟩
  · rw [path_contentFile, Layout.text_content]
  · rw [path_contentFile, Layout.components_content]

/-- **Content is assembled exactly if no two of its keys have one identifier.** Then there is one
file for every key with usable characters, in the order of the bytes of the keys, with the value as
it is. Otherwise the first key that has the identifier of an earlier one is reported, and nothing
else can go wrong. -/
theorem assembleContent_spec (definition : Definition) (config : BuildConfig) :
    ((∃ set, (definition.assembleContent config).result = .ok set) ↔
      (definition.namedContent.map fun content => kebabCase content.1).Nodup) ∧
    (∀ e, (definition.assembleContent config).result = .error e ↔
      ∃ before content after, definition.namedContent = before ++ content :: after ∧
        (before.map fun content => kebabCase content.1).Nodup ∧
        kebabCase content.1 ∈ (before.map fun content => kebabCase content.1) ∧
        e = .write (.duplicatePath (config.layout.content content.1))) ∧
    (∀ set, (definition.assembleContent config).result = .ok set →
      List.Forall₂ config.layout.IsContentFile definition.namedContent set.artifacts) ∧
    definition.namedContent.Pairwise fun content other => utf8 content.1 < utf8 other.1 := by
  have hnodup {set : ArtifactSet} (hset : (definition.assembleContent config).result = .ok set) :
      (definition.namedContent.map fun content => kebabCase content.1).Nodup := by
    by_contra hnot
    obtain ⟨before, content, after, hsplit, hbefore, hrepeated⟩ := exists_first_repeated hnot
    rw [assembleContent_of_repeated hsplit hbefore hrepeated] at hset
    cases hset
  refine ⟨⟨fun ⟨_, hset⟩ => hnodup hset, fun h => ⟨_, assembleContent_of_nodup h⟩⟩, ?failure,
    ?files, ?order⟩
  case failure =>
    intro e
    constructor
    · intro he
      have hnot : ¬ (definition.namedContent.map fun content => kebabCase content.1).Nodup := by
        intro h
        rw [assembleContent_of_nodup h] at he
        cases he
      obtain ⟨before, content, after, hsplit, hbefore, hrepeated⟩ := exists_first_repeated hnot
      rw [assembleContent_of_repeated hsplit hbefore hrepeated] at he
      exact ⟨before, content, after, hsplit, hbefore, hrepeated, (Except.error.inj he).symm⟩
    · rintro ⟨before, content, after, hsplit, hbefore, hrepeated, rfl⟩
      exact assembleContent_of_repeated hsplit hbefore hrepeated
  case files =>
    intro set hset
    rw [assembleContent_of_nodup (hnodup hset)] at hset
    cases hset
    exact forall₂_contentFiles _
  case order =>
    exact (List.pairwise_map.1 definition.others.keys_pairwise_utf8).sublist List.filter_sublist

/-- A definition with content under two keys. -/
def brochure (first second : String) : Definition :=
  { empty with
    others := Dict.ofList [(first, .string "open"), (second, .list [.string "noon"])] }

/-- Hours and prices have a file each, a key without letters has none, and keys that differ in their
case alone would share one. -/
theorem assembleContent_spec_brochure :
    (∃ set, ((brochure "Opening Hours" "prices").assembleContent usEnglish).result = .ok set ∧
      set.artifacts.map (fun artifact => artifact.path.text) =
        ["en-US/opening-hours.json", "en-US/prices.json"]) ∧
    (∃ set, ((brochure "prices" "!?").assembleContent usEnglish).result = .ok set ∧
      set.artifacts.map (fun artifact => artifact.path.text) = ["en-US/prices.json"]) ∧
    ∃ path, ((brochure "prices" "Prices").assembleContent usEnglish).result =
      .error (.write (.duplicatePath path)) := by
  refine ⟨?_, ?_, ?_⟩
  · obtain ⟨hok, _, hfiles, _⟩ :=
      assembleContent_spec (brochure "Opening Hours" "prices") usEnglish
    obtain ⟨set, hset⟩ := hok.2 (by decide +kernel)
    refine ⟨set, hset, (Layout.texts_of_contentFiles (hfiles set hset)).trans ?_⟩
    clear hset
    decide +kernel
  · obtain ⟨hok, _, hfiles, _⟩ := assembleContent_spec (brochure "prices" "!?") usEnglish
    obtain ⟨set, hset⟩ := hok.2 (by decide +kernel)
    refine ⟨set, hset, (Layout.texts_of_contentFiles (hfiles set hset)).trans ?_⟩
    clear hset
    decide +kernel
  · obtain ⟨hok, hfailure, _, _⟩ := assembleContent_spec (brochure "prices" "Prices") usEnglish
    cases hresult : ((brochure "prices" "Prices").assembleContent usEnglish).result with
    | ok set => exact absurd (hok.1 ⟨set, hresult⟩) (by decide +kernel)
    | error e =>
        obtain ⟨_, content, _, _, _, _, rfl⟩ := (hfailure e).1 hresult
        exact ⟨_, rfl⟩

end Definition

end VoiceSkill
