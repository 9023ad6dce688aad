import VoiceSkill.Proofs.Assembly.Configurations
import VoiceSkill.Proofs.Assembly.Invocations

/-!
# Where operations meet

The schema, the synonyms and the content of a definition are assembled apart from each other, each
without two artifacts in one place. Content lies right in the directory of the locale and the files
of a schema lie further down, so these never meet. But synonyms are named by keys as they are: they
meet content if a key is an identifier of content, and a schema if a key leads to one of its files
(`operationsApart_iff`).
-/

namespace VoiceSkill

namespace Definition

variable {definition : Definition} {config : BuildConfig} {fresh : Nat → Uuid} {first : Nat}
  {environment : String} {set second : ArtifactSet} {place : List Component}

/-! ## The places of an operation -/

theorem mem_schemaPlaces_iff
    (h : (definition.assembleEnvironment config fresh first environment).result = .ok set) :
    place ∈ definition.schemaPlaces config environment ↔
      ∃ file ∈ definition.schemaFiles config environment,
        place = config.layout.localeSteps ++ file.way environment := by
  obtain ⟨name, hname⟩ := exists_name_of_assembleEnvironment h
  obtain ⟨_, _, hok, htext, _⟩ := exists_directory_of_assembleEnvironment h
  rw [schemaPlaces, List.mem_filterMap]
  refine exists_congr fun file => and_congr_right fun hfile => ?_
  -- the path of the file is relative, as it has become that of an artifact
  obtain ⟨artifact, hartifact, hpath⟩ := exists_artifact_of_mem_schemaFiles h hfile
  obtain ⟨hrelative, _⟩ := SchemaFile.isRelative_of_fault?_eq_none htext hok hpath
    ((sound_of_assembleEnvironment h).faultless artifact hartifact)
  obtain ⟨path, hplace, _, hcomponents⟩ :=
    SchemaFile.components_path_of_name config.layout hname hrelative
  rw [hplace, ← hcomponents]
  simp [Except.toOption, eq_comm]

theorem exists_parts_of_schema
    (h : (definition.assembleFor config fresh .schema).result = .ok set) :
    ∃ parts, definition.ArePartsOf config fresh definition.invocations parts ∧
      set = ⟨parts.flatMap ArtifactSet.artifacts⟩ := by
  obtain ⟨_, _, hassemble⟩ := Logged.result_bind_eq_ok_iff.1 h
  obtain ⟨parts, hparts, hset⟩ := exists_parts_of_assembleEach (assemble_eq_ok_iff.1 hassemble)
  exact ⟨parts, hparts, hset⟩

theorem exists_name_of_mem_invocations
    (h : (definition.assembleFor config fresh .schema).result = .ok set) {invocation : Invocation}
    (hinvocation : invocation ∈ definition.invocations) :
    ∃ name, (Path.mk invocation.environment).components = [.name name] := by
  obtain ⟨parts, hparts, _⟩ := exists_parts_of_schema h
  obtain ⟨_, _, hpart⟩ := forall_exists_of_forall₂ hparts invocation hinvocation
  exact exists_name_of_assembleEnvironment hpart

/-- The files of a schema lie where their ways lead from the directory of the locale. -/
theorem mem_places_of_schema (h : (definition.assembleFor config fresh .schema).result = .ok set) :
    place ∈ set.places ↔ ∃ invocation ∈ definition.invocations,
      ∃ file ∈ definition.schemaFiles config invocation.environment,
        place = config.layout.localeSteps ++ file.way invocation.environment := by
  obtain ⟨parts, hparts, rfl⟩ := exists_parts_of_schema h
  rw [places_of_arePartsOf hparts, List.mem_flatMap]
  refine exists_congr fun invocation => and_congr_right fun hinvocation => ?_
  obtain ⟨_, _, hpart⟩ := forall_exists_of_forall₂ hparts invocation hinvocation
  exact mem_schemaPlaces_iff hpart

/-- Synonyms lie where their keys lead from the directory of the locale. -/
theorem mem_places_of_synonyms
    (h : (definition.assembleFor config fresh .synonyms).result = .ok set) :
    place ∈ set.places ↔ ∃ slot ∈ definition.slots.entries, slot.2.hasSynonyms = true ∧
      place = .name config.layout.locale.tag :: Path.steps (slot.1 ++ ".json") := by
  have hmem (artifact : Artifact) : artifact ∈ set.artifacts ↔ _ :=
    mem_artifacts_of_assembleSynonyms h
  -- no key begins at the root, as the places lie below it
  have hcomponents {slot : String × SlotValues} (hslot : slot ∈ definition.slots.entries)
      (hsynonyms : slot.2.hasSynonyms = true) :
      (config.layout.synonyms slot.1).components =
        .name config.layout.locale.tag :: Path.steps (slot.1 ++ ".json") := by
    have hfault := (sound_of_assembleFor h).faultless _ ((hmem _).2 ⟨slot, hslot, hsynonyms, rfl⟩)
    refine config.layout.components_synonyms (by_contra fun hname => ?_)
    have habsolute := config.layout.isAbsolute_synonyms hname
    rw [Path.isAbsolute_of_fault?_eq_none hfault] at habsolute
    cases habsolute
  rw [ArtifactSet.places, List.mem_map]
  constructor
  · rintro ⟨artifact, hartifact, rfl⟩
    obtain ⟨slot, hslot, hsynonyms, rfl⟩ := (hmem artifact).1 hartifact
    exact ⟨slot, hslot, hsynonyms, hcomponents hslot hsynonyms⟩
  · rintro ⟨slot, hslot, hsynonyms, rfl⟩
    exact ⟨_, (hmem _).2 ⟨slot, hslot, hsynonyms, rfl⟩, hcomponents hslot hsynonyms⟩

/-- Content lies under its identifiers in the directory of the locale. -/
theorem mem_places_of_content
    (h : (definition.assembleFor config fresh .content).result = .ok set) :
    place ∈ set.places ↔ ∃ content ∈ definition.others.entries, kebabCase content.1 ≠ "" ∧
      place = [.name config.layout.locale.tag, .name (kebabCase content.1 ++ ".json")] := by
  have hmem (artifact : Artifact) : artifact ∈ set.artifacts ↔ _ :=
    mem_artifacts_of_assembleContent h
  rw [ArtifactSet.places, List.mem_map]
  constructor
  · rintro ⟨artifact, hartifact, rfl⟩
    obtain ⟨content, hcontent, hkey, rfl⟩ := (hmem artifact).1 hartifact
    refine ⟨content, hcontent, hkey, ?_⟩
    rw [config.layout.components_content]
  · rintro ⟨content, hcontent, hkey, rfl⟩
    refine ⟨⟨config.layout.content content.1, content.2⟩,
      (hmem _).2 ⟨content, hcontent, hkey, rfl⟩, ?_⟩
    rw [config.layout.components_content]

/-! ## Meetings -/

/-- No slot with synonyms has a key that leads from the directory of the locale to a piece of
content or, where schemas lie in this directory, to a file of a schema. -/
structure KeysApart (definition : Definition) (config : BuildConfig) : Prop where
  content : ∀ slot ∈ definition.slots.entries, slot.2.hasSynonyms = true →
    ∀ content ∈ definition.others.entries, kebabCase content.1 ≠ "" →
      Path.steps (slot.1 ++ ".json") ≠ [.name (kebabCase content.1 ++ ".json")]
  schema : config.flattenLocale = false →
    ∀ slot ∈ definition.slots.entries, slot.2.hasSynonyms = true →
      ∀ invocation ∈ definition.invocations,
        ∀ file ∈ definition.schemaFiles config invocation.environment,
          Path.steps (slot.1 ++ ".json") ≠ file.way invocation.environment

/-- A key without slashes names a file right in the directory of the locale. So only content can be
in the way of its synonyms, and is if the key is the identifier of the content. -/
theorem keysApart_iff_of_slash_not_mem
    (hslash : ∀ slot ∈ definition.slots.entries, '/' ∉ slot.1.toList) :
    definition.KeysApart config ↔
      ∀ slot ∈ definition.slots.entries, slot.2.hasSynonyms = true →
        ∀ content ∈ definition.others.entries, kebabCase content.1 ≠ "" →
          slot.1 ≠ kebabCase content.1 := by
  have hsteps {slot : String × SlotValues} (hslot : slot ∈ definition.slots.entries) :
      Path.steps (slot.1 ++ ".json") = [.name (slot.1 ++ ".json")] :=
    (Path.steps_json (hslash slot hslot)).2
  constructor
  · intro hkeys slot hslot hsynonyms content hcontent hkey hsame
    apply hkeys.content slot hslot hsynonyms content hcontent hkey
    rw [hsteps hslot, hsame]
  · intro hapart
    refine ⟨?_, ?_⟩
    · intro slot hslot hsynonyms content hcontent hkey hsame
      rw [hsteps hslot] at hsame
      exact hapart slot hslot hsynonyms content hcontent hkey (by simpa using hsame)
    · intro _ slot hslot _ invocation _ file _ hsame
      -- the way to a file of a schema is longer
      have hfile := List.length_pos_of_ne_nil file.steps_fileName_ne_nil
      have hlength := congrArg List.length hsame
      rw [hsteps hslot, SchemaFile.way] at hlength
      simp only [List.length_cons, List.length_append, List.length_nil] at hlength
      omega

/-- No two operations have artifacts in one place. -/
def OperationsApart (definition : Definition) (config : BuildConfig) (fresh : Nat → Uuid) : Prop :=
  ∀ operation other set second, operation ≠ other →
    (definition.assembleFor config fresh operation).result = .ok set →
    (definition.assembleFor config fresh other).result = .ok second →
      set.places.Disjoint second.places

/-- A schema and content never meet: the files of a schema lie further down. -/
theorem disjoint_schema_content
    (h : (definition.assembleFor config fresh .schema).result = .ok set)
    (h' : (definition.assembleFor config fresh .content).result = .ok second) :
    set.places.Disjoint second.places := by
  intro place hplace hplace'
  obtain ⟨invocation, hinvocation, file, _, rfl⟩ := (mem_places_of_schema h).1 hplace
  obtain ⟨content, _, _, hsame⟩ := (mem_places_of_content h').1 hplace'
  obtain ⟨name, hname⟩ := exists_name_of_mem_invocations h hinvocation
  have hway := SchemaFile.two_lt_length_way hname file
  have hlength := congrArg List.length hsame
  rw [List.length_append] at hlength
  have hcontent : [Component.name config.layout.locale.tag,
    .name (kebabCase content.1 ++ ".json")].length = 2 := rfl
  omega

theorem disjoint_synonyms_content_iff
    (h : (definition.assembleFor config fresh .synonyms).result = .ok set)
    (h' : (definition.assembleFor config fresh .content).result = .ok second) :
    set.places.Disjoint second.places ↔
      ∀ slot ∈ definition.slots.entries, slot.2.hasSynonyms = true →
        ∀ content ∈ definition.others.entries, kebabCase content.1 ≠ "" →
          Path.steps (slot.1 ++ ".json") ≠ [.name (kebabCase content.1 ++ ".json")] := by
  constructor
  · intro hdisjoint slot hslot hsynonyms content hcontent hkey hsame
    refine hdisjoint ((mem_places_of_synonyms h).2 ⟨slot, hslot, hsynonyms, rfl⟩) ?_
    exact (mem_places_of_content h').2 ⟨content, hcontent, hkey, congrArg _ hsame⟩
  · intro hapart place hplace hplace'
    obtain ⟨slot, hslot, hsynonyms, rfl⟩ := (mem_places_of_synonyms h).1 hplace
    obtain ⟨content, hcontent, hkey, hsame⟩ := (mem_places_of_content h').1 hplace'
    exact hapart slot hslot hsynonyms content hcontent hkey (List.cons.inj hsame).2

/-- Synonyms and a flattened schema lie in different directories. -/
theorem disjoint_schema_synonyms_iff
    (h : (definition.assembleFor config fresh .schema).result = .ok set)
    (h' : (definition.assembleFor config fresh .synonyms).result = .ok second) :
    set.places.Disjoint second.places ↔
      (config.flattenLocale = false →
        ∀ slot ∈ definition.slots.entries, slot.2.hasSynonyms = true →
          ∀ invocation ∈ definition.invocations,
            ∀ file ∈ definition.schemaFiles config invocation.environment,
              Path.steps (slot.1 ++ ".json") ≠ file.way invocation.environment) := by
  constructor
  · intro hdisjoint hnested slot hslot hsynonyms invocation hinvocation file hfile hsame
    refine hdisjoint ((mem_places_of_schema h).2 ⟨invocation, hinvocation, file, hfile, rfl⟩) ?_
    refine (mem_places_of_synonyms h').2 ⟨slot, hslot, hsynonyms, ?_⟩
    rw [hsame, Layout.localeSteps, BuildConfig.layout, hnested]
    rfl
  · intro hapart place hplace hplace'
    obtain ⟨invocation, hinvocation, file, hfile, rfl⟩ := (mem_places_of_schema h).1 hplace
    obtain ⟨slot, hslot, hsynonyms, hsame⟩ := (mem_places_of_synonyms h').1 hplace'
    cases hflatten : config.flattenLocale with
    | false =>
        rw [Layout.localeSteps, BuildConfig.layout, hflatten] at hsame
        exact hapart hflatten slot hslot hsynonyms invocation hinvocation file hfile
          (List.cons.inj hsame).2.symm
    | true =>
        have hsteps : config.layout.localeSteps = [] := by
          rw [Layout.localeSteps, BuildConfig.layout, hflatten]
          rfl
        rw [hsteps, List.nil_append, SchemaFile.way] at hsame
        have hname := Component.name.inj (List.cons.inj hsame).1
        exact config.layout.tag_ne_platformDirectory hname.symm

/-- **When no operation gets in the way of another one.** -/
theorem operationsApart_iff (hall : ∀ operation, ∃ set,
      (definition.assembleFor config fresh operation).result = .ok set) :
    definition.OperationsApart config fresh ↔ definition.KeysApart config := by
  constructor
  · intro hapart
    obtain ⟨_, hschema⟩ := hall .schema
    obtain ⟨_, hsynonyms⟩ := hall .synonyms
    obtain ⟨_, hcontent⟩ := hall .content
    exact ⟨(disjoint_synonyms_content_iff hsynonyms hcontent).1
        (hapart _ _ _ _ (by decide) hsynonyms hcontent),
      (disjoint_schema_synonyms_iff hschema hsynonyms).1
        (hapart _ _ _ _ (by decide) hschema hsynonyms)⟩
  · intro hkeys operation other set second hne h h'
    cases operation with
    | schema =>
        cases other with
        | schema => exact absurd rfl hne
        | synonyms => exact (disjoint_schema_synonyms_iff h h').2 hkeys.schema
        | content => exact disjoint_schema_content h h'
    | synonyms =>
        cases other with
        | schema =>
            exact List.disjoint_symm ((disjoint_schema_synonyms_iff h' h).2 hkeys.schema)
        | synonyms => exact absurd rfl hne
        | content => exact (disjoint_synonyms_content_iff h h').2 hkeys.content
    | content =>
        cases other with
        | schema => exact List.disjoint_symm (disjoint_schema_content h' h)
        | synonyms =>
            exact List.disjoint_symm ((disjoint_synonyms_content_iff h' h).2 hkeys.content)
        | content => exact absurd rfl hne

end Definition

end VoiceSkill
