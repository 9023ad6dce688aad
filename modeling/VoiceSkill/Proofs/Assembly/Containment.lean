import VoiceSkill.Proofs.Assembly.Environment
import VoiceSkill.Proofs.Assembly.Sound
import Mathlib.Data.Set.List

/-!
# Schemas stay in their directory

Names of intents become names of files as they are, so they may bring in slashes and dots. A schema
that was assembled nevertheless lies below the directory of its environment, each file in the place
that its kind has there (`assembleEnvironment_contained`); an intent whose file would lie elsewhere
keeps the schema from being assembled.
-/

namespace VoiceSkill

/-- The places that a schema has for its files, from the directory of the environment on: two
manifests, a directory of files for entities, and a directory for the files of intents, which may
lie in further directories there. -/
inductive IsSchemaPlace : List Component → Prop where
  | agent : IsSchemaPlace [.name "agent.json"]
  | package : IsSchemaPlace [.name "package.json"]
  | entity (file : String) : IsSchemaPlace [.name "entities", .name file]
  | intent {names : List String} (h : names ≠ []) :
    IsSchemaPlace (.name "intents" :: names.map .name)

namespace SchemaFile

variable {layout : Layout} {environment : String} {directory place : Path} {file : SchemaFile}

/-! ## Names of files -/

/-- The name of a file leads to names alone, unless it leads up. -/
theorem exists_names_steps (hparent : .parent ∉ Path.steps file.fileName) :
    ∃ names : List String, names ≠ [] ∧ Path.steps file.fileName = names.map .name := by
  obtain ⟨names, hnames⟩ := Path.exists_names_of_parent_not_mem hparent
  refine ⟨names, ?_, hnames⟩
  rintro rfl
  exact file.steps_fileName_ne_nil hnames

theorem isSchemaPlace_steps (hparent : .parent ∉ Path.steps file.fileName) :
    IsSchemaPlace (file.directory?.toList.map .name ++ Path.steps file.fileName) := by
  have hintent (hdirectory : file.directory? = some "intents") :
      IsSchemaPlace (file.directory?.toList.map .name ++ Path.steps file.fileName) := by
    obtain ⟨names, hne, hnames⟩ := exists_names_steps hparent
    rw [hdirectory, hnames]
    exact .intent hne
  have hentity (hdirectory : file.directory? = some "entities")
      (hslash : '/' ∉ file.fileName.toList) :
      IsSchemaPlace (file.directory?.toList.map .name ++ Path.steps file.fileName) := by
    rw [hdirectory, (steps_fileName hslash).2]
    exact .entity file.fileName
  cases file with
  | entity slotKey => exact hentity rfl (slash_not_mem_fileName fun _ h => nomatch h)
  | entries slotKey => exact hentity rfl (slash_not_mem_fileName fun _ h => nomatch h)
  | intent name => exact hintent rfl
  | samples name => exact hintent rfl
  | agent => exact .agent
  | package => exact .package

/-! ## Places -/

/-- A file whose path is a place below the root has a relative name that does not lead up: an
absolute one would have replaced the whole path. -/
theorem isRelative_of_fault?_eq_none (hdirectory : directory.text ≠ "")
    (h : layout.environmentDirectory environment = .ok directory)
    (hpath : file.path layout environment = .ok place) (hplace : place.fault? = none) :
    Path.IsRelative file.fileName ∧ .parent ∉ Path.steps file.fileName := by
  have hrelative : Path.IsRelative file.fileName := by
    by_contra hname
    rw [path_of_not_isRelative h hname, Except.ok.injEq] at hpath
    rw [← hpath] at hplace
    exact hname (Path.isAbsolute_of_fault?_eq_none hplace)
  refine ⟨hrelative, fun hparent => Path.parent_not_mem_of_fault?_eq_none hplace ?_⟩
  obtain ⟨_, hok, _, hcomponents⟩ := components_path_of_isRelative hdirectory h hrelative
  obtain rfl := Except.ok.inj (hpath.symm.trans hok)
  rw [hcomponents]
  exact List.mem_append_right _ (List.mem_append_right _ hparent)

/-- A file whose path is a place below the root has a place of the schema. -/
theorem exists_isSchemaPlace (hdirectory : directory.text ≠ "")
    (h : layout.environmentDirectory environment = .ok directory)
    (hpath : file.path layout environment = .ok place) (hplace : place.fault? = none) :
    ∃ rest, place.components = directory.components ++ rest ∧ IsSchemaPlace rest := by
  obtain ⟨hrelative, hparent⟩ := isRelative_of_fault?_eq_none hdirectory h hpath hplace
  obtain ⟨_, hok, _, hcomponents⟩ := components_path_of_isRelative hdirectory h hrelative
  obtain rfl := Except.ok.inj (hpath.symm.trans hok)
  exact ⟨_, hcomponents, isSchemaPlace_steps hparent⟩

end SchemaFile

namespace Definition

variable {definition : Definition} {config : BuildConfig} {fresh : Nat → Uuid} {first : Nat}
  {environment : String} {set : ArtifactSet}

/-- Every document has its artifact in a schema that was assembled. -/
theorem exists_artifact_of_mem_schemaDocuments
    (h : (definition.assembleEnvironment config fresh first environment).result = .ok set)
    {d : SchemaFile × SchemaDocument Uuid}
    (hd : d ∈ definition.schemaDocuments config fresh first environment) :
    ∃ artifact ∈ set.artifacts, d.1.path config.layout environment = .ok artifact.path ∧
      artifact.document = d.2.toDocument := by
  have hartifact : SchemaFile.artifact config.layout environment d ∈ set.artifacts.map .ok := by
    rw [artifacts_of_assembleEnvironment h]
    exact List.mem_map_of_mem hd
  obtain ⟨artifact, hmem, hok⟩ := List.mem_map.1 hartifact
  exact ⟨artifact, hmem, SchemaFile.artifact_eq_ok_iff.1 hok.symm⟩

/-- Every file of the plan has its artifact in a schema that was assembled. -/
theorem exists_artifact_of_mem_schemaFiles
    (h : (definition.assembleEnvironment config fresh first environment).result = .ok set)
    {file : SchemaFile} (hfile : file ∈ definition.schemaFiles config environment) :
    ∃ artifact ∈ set.artifacts, file.path config.layout environment = .ok artifact.path := by
  rw [← map_fst_schemaDocuments definition config fresh first, List.mem_map] at hfile
  obtain ⟨d, hd, rfl⟩ := hfile
  obtain ⟨artifact, hartifact, hpath, _⟩ := exists_artifact_of_mem_schemaDocuments h hd
  exact ⟨artifact, hartifact, hpath⟩

/-- **A schema never leaves the directory of its environment**, and each of its files has a place
there. An intent whose file is named by an absolute path, or by one that leads up, keeps the schema
from being assembled. -/
theorem assembleEnvironment_contained (definition : Definition) (config : BuildConfig)
    (fresh : Nat → Uuid) (first : Nat) (environment : String) :
    (∀ set, (definition.assembleEnvironment config fresh first environment).result = .ok set →
      ∃ directory, config.layout.environmentDirectory environment = .ok directory ∧
        ∀ artifact ∈ set.artifacts, ∃ rest,
          artifact.path.components = directory.components ++ rest ∧ IsSchemaPlace rest) ∧
    (∀ intent ∈ definition.intentsFor config.platform (some environment),
      ((Path.mk (intent.name ++ ".json")).isAbsolute = true ∨
        .parent ∈ (Path.mk (intent.name ++ ".json")).components) →
      ∃ e, (definition.assembleEnvironment config fresh first environment).result = .error e) := by
  constructor
  · intro set hset
    obtain ⟨_, directory, hok, htext, _⟩ := exists_directory_of_assembleEnvironment hset
    refine ⟨directory, hok, ?_⟩
    intro artifact hartifact
    obtain ⟨d, _, hpath, _⟩ := (mem_artifacts_of_assembleEnvironment hset).1 hartifact
    exact SchemaFile.exists_isSchemaPlace htext hok hpath
      ((sound_of_assembleEnvironment hset).faultless artifact hartifact)
  · intro intent hintent hname
    cases hresult : (definition.assembleEnvironment config fresh first environment).result with
    | error e => exact ⟨e, rfl⟩
    | ok set =>
        -- the definition of the intent would have been placed
        obtain ⟨artifact, hartifact, hpath⟩ := exists_artifact_of_mem_schemaFiles hresult
          (intent_mem_schemaFiles.2 ⟨intent, hintent, rfl⟩)
        obtain ⟨_, directory, hok, htext, _⟩ := exists_directory_of_assembleEnvironment hresult
        obtain ⟨hrelative, hparent⟩ := SchemaFile.isRelative_of_fault?_eq_none htext hok hpath
          ((sound_of_assembleEnvironment hresult).faultless artifact hartifact)
        rcases hname with habsolute | hup
        · rw [Path.IsRelative, SchemaFile.fileName, habsolute] at hrelative
          cases hrelative
        · exact absurd ((Path.parent_mem_components_iff hrelative).1 hup) hparent

/-- The usual configuration for the United States. -/
def usEnglish : BuildConfig := ⟨.enUS, none, "dialogFlow", false, false, 5⟩

/-- A definition with one intent, of the given name. -/
def tour (environments : List String) (intent : String) : Definition :=
  { empty with
    invocations := environments.map .mk
    intents := [.ofName intent] }

/-- The files of an intent may lie in a directory of their own, but not outside. -/
theorem assembleEnvironment_contained_tour :
    (∃ set, ((tour ["alpha"] "trips/Flight").assembleEnvironment usEnglish (Uuid.generated 0) 0
        "alpha").result = .ok set ∧
      ∃ directory, usEnglish.layout.environmentDirectory "alpha" = .ok directory ∧
        ∀ artifact ∈ set.artifacts, ∃ rest,
          artifact.path.components = directory.components ++ rest ∧ IsSchemaPlace rest) ∧
    (∃ e, ((tour ["alpha"] "../Flight").assembleEnvironment usEnglish (Uuid.generated 0) 0
      "alpha").result = .error e) ∧
    ∃ e, ((tour ["alpha"] "/Flight").assembleEnvironment usEnglish (Uuid.generated 0) 0
      "alpha").result = .error e := by
  refine ⟨?_, ?_, ?_⟩
  · have hok : ((tour ["alpha"] "trips/Flight").assembleEnvironment usEnglish (Uuid.generated 0) 0
        "alpha").result.isOk = true := by decide +kernel
    obtain ⟨set, hset⟩ := exists_ok_of_isOk hok
    exact ⟨set, hset, (assembleEnvironment_contained _ _ _ _ _).1 set hset⟩
  · exact (assembleEnvironment_contained _ _ _ _ _).2 (.ofName "../Flight") (by decide)
      (.inr (by decide))
  · exact (assembleEnvironment_contained _ _ _ _ _).2 (.ofName "/Flight") (by decide)
      (.inl (by decide))

end Definition

end VoiceSkill
