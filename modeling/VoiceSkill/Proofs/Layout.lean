import VoiceSkill.Layout
import VoiceSkill.Proofs.Kebab
import VoiceSkill.Proofs.Path

/-!
# The files of a schema

The schema of an environment is made of six kinds of files (`SchemaFile`). Below the directory of
the environment a file lies where its steps lead (`components_path`), as long as its name has no
slash in it. Files of different kinds never meet, with one exception: the definition of an intent
may be named like the samples of another one (`meets_of_steps_eq`).
-/

namespace VoiceSkill

/-! ## The directory of an environment -/

theorem isEnvironmentName_iff {environment : String} :
    isEnvironmentName environment = true ↔
      ∃ name, (Path.mk environment).components = [.name name] := by
  rw [isEnvironmentName]
  split
  · rename_i name h
    exact ⟨fun _ => ⟨name, h⟩, fun _ => rfl⟩
  · rename_i h
    constructor
    · intro hfalse
      cases hfalse
    · rintro ⟨name, hname⟩
      exact absurd hname (h name)

namespace Layout

variable {environment : String}

/-- The directory of the locale, where schemas have one. -/
def localeSteps (layout : Layout) : List Component :=
  if layout.flattenLocale then [] else [.name layout.locale.tag]

/-- The components of the directory that the environments share. -/
def base (layout : Layout) : List Component :=
  (if layout.flattenLocale then [] else [.name layout.locale.tag]) ++ [.name platformDirectory]

/-- The path of the directory that the environments share. -/
def basePath (layout : Layout) : Path :=
  (if layout.flattenLocale then ⟨""⟩ else (Path.mk "").child layout.locale.tag).child
    platformDirectory

theorem basePath_spec (layout : Layout) :
    layout.basePath.text ≠ "" ∧ layout.basePath.components = layout.base := by
  cases layout with
  | mk locale flatten => cases locale <;> cases flatten <;> decide

theorem names_base (layout : Layout) :
    ∀ component ∈ layout.base, ∃ name, component = .name name := by
  intro component hcomponent
  rcases List.mem_append.1 hcomponent with hcomponent | hcomponent
  · split at hcomponent
    · cases hcomponent
    · exact ⟨_, List.mem_singleton.1 hcomponent⟩
  · exact ⟨_, List.mem_singleton.1 hcomponent⟩

theorem environmentDirectory_of_not_name (layout : Layout)
    (h : ∀ name, (Path.mk environment).components ≠ [.name name]) :
    layout.environmentDirectory environment = .error (.invalidEnvironment environment) := by
  have hname : ¬ isEnvironmentName environment = true := by
    intro hname
    obtain ⟨name, hcomponents⟩ := isEnvironmentName_iff.1 hname
    exact h name hcomponents
  rw [environmentDirectory, if_neg hname]

/-- **A single name gives an environment a directory of its own.** -/
theorem environmentDirectory_of_name (layout : Layout) {name : String}
    (h : (Path.mk environment).components = [.name name]) :
    ∃ directory, layout.environmentDirectory environment = .ok directory ∧
      directory.text ≠ "" ∧ directory.components = layout.base ++ [.name name] := by
  obtain ⟨hrelative, hsteps⟩ := Path.steps_of_components_eq h
  obtain ⟨hbase, hcomponents⟩ := basePath_spec layout
  refine ⟨layout.basePath.child environment, ?_, Path.text_child_ne hbase hrelative, ?_⟩
  · rw [environmentDirectory, if_pos (isEnvironmentName_iff.2 ⟨name, h⟩)]
    rfl
  · rw [Path.components_child hbase hrelative, hcomponents, hsteps]

end Layout

/-! ## The files below it -/

/-- A file of the schema of an environment. -/
inductive SchemaFile where
  | entity (slotKey : String)
  | entries (slotKey : String)
  | intent (name : String)
  | samples (name : String)
  | agent
  | package
deriving DecidableEq, Repr

namespace SchemaFile

variable {layout : Layout} {environment : String}

/-- The path of a file. -/
def path (layout : Layout) (environment : String) : SchemaFile → Except BuildError Path
  | entity slotKey => layout.entityDefinition environment slotKey
  | entries slotKey => layout.entityEntries environment slotKey
  | intent name => layout.intentDefinition environment name
  | samples name => layout.intentSamples environment name
  | agent => layout.agent environment
  | package => layout.package environment

/-- The directory that holds a file, below that of the environment. -/
def directory? : SchemaFile → Option String
  | entity _ => some "entities"
  | entries _ => some "entities"
  | intent _ => some "intents"
  | samples _ => some "intents"
  | agent => none
  | package => none

/-- The written name of a file. -/
def fileName : SchemaFile → String
  | entity slotKey => kebabCase slotKey ++ ".json"
  | entries slotKey => kebabCase slotKey ++ "_entries_" ++ contentLanguage ++ ".json"
  | intent name => name ++ ".json"
  | samples name => name ++ "_usersays_" ++ contentLanguage ++ ".json"
  | agent => "agent.json"
  | package => "package.json"

/-- The intent that a file belongs to. -/
def intentName? : SchemaFile → Option String
  | intent name => some name
  | samples name => some name
  | _ => none

/-- The way to a file from the directory of the environment. -/
def steps (file : SchemaFile) : List Component :=
  file.directory?.toList.map .name ++ [.name file.fileName]

theorem steps_eq_iff {file other : SchemaFile} :
    file.steps = other.steps ↔
      file.directory? = other.directory? ∧ file.fileName = other.fileName := by
  rw [steps, steps]
  cases file.directory? <;> cases other.directory? <;> simp

theorem names_steps (file : SchemaFile) :
    ∀ component ∈ file.steps, ∃ name, component = .name name := by
  intro component hcomponent
  rcases List.mem_append.1 hcomponent with hcomponent | hcomponent
  · obtain ⟨name, _, rfl⟩ := List.mem_map.1 hcomponent
    exact ⟨name, rfl⟩
  · exact ⟨_, List.mem_singleton.1 hcomponent⟩

/-! ### Places -/

theorem path_of_error {e : BuildError} (h : layout.environmentDirectory environment = .error e)
    (file : SchemaFile) : file.path layout environment = .error e := by
  cases file <;>
    simp [path, Layout.entityDefinition, Layout.entityEntries, Layout.intentDefinition,
      Layout.intentSamples, Layout.agent, Layout.package, Layout.schemaFile, h, bind, Except.bind]

theorem path_of_ok {directory : Path}
    (h : layout.environmentDirectory environment = .ok directory) (file : SchemaFile) :
    file.path layout environment =
      .ok ((file.directory?.elim directory directory.child).child file.fileName) := by
  cases file <;>
    simp [path, Layout.entityDefinition, Layout.entityEntries, Layout.intentDefinition,
      Layout.intentSamples, Layout.agent, Layout.package, Layout.schemaFile, h, bind, Except.bind,
      pure, Except.pure, directory?, fileName]

/-- An absolute name stands for itself, wherever the file belongs. -/
theorem path_of_not_isRelative {directory : Path}
    (h : layout.environmentDirectory environment = .ok directory) {file : SchemaFile}
    (hname : ¬ Path.IsRelative file.fileName) :
    file.path layout environment = .ok ⟨file.fileName⟩ := by
  rw [Path.IsRelative, Bool.not_eq_false] at hname
  rw [path_of_ok h, Path.child, Path.join, if_pos hname]

/-- Slot keys bring no slash into the name of a file; only the name of an intent can. -/
theorem slash_not_mem_fileName {file : SchemaFile}
    (h : ∀ name ∈ file.intentName?, '/' ∉ name.toList) : '/' ∉ file.fileName.toList := by
  cases file with
  | entity slotKey => simp [fileName, slash_not_mem_kebabCase]
  | entries slotKey => simp [fileName, contentLanguage, slash_not_mem_kebabCase]
  | intent name =>
      have hname : '/' ∉ name.toList := h name rfl
      simp [fileName, hname]
  | samples name =>
      have hname : '/' ∉ name.toList := h name rfl
      simp [fileName, contentLanguage, hname]
  | agent => decide
  | package => decide

/-- The name of every file ends in the same five characters. -/
theorem exists_stem (file : SchemaFile) : ∃ stem, file.fileName = stem ++ ".json" := by
  cases file with
  | entity slotKey => exact ⟨_, rfl⟩
  | entries slotKey => exact ⟨_, rfl⟩
  | intent name => exact ⟨_, rfl⟩
  | samples name => exact ⟨_, rfl⟩
  | agent => exact ⟨"agent", rfl⟩
  | package => exact ⟨"package", rfl⟩

theorem steps_fileName_ne_nil (file : SchemaFile) : Path.steps file.fileName ≠ [] := by
  obtain ⟨stem, hstem⟩ := file.exists_stem
  rw [hstem]
  exact Path.steps_json_ne_nil stem

theorem steps_fileName {file : SchemaFile} (h : '/' ∉ file.fileName.toList) :
    Path.IsRelative file.fileName ∧ Path.steps file.fileName = [.name file.fileName] := by
  obtain ⟨stem, hstem⟩ := file.exists_stem
  rw [hstem] at h ⊢
  exact Path.steps_json fun hmem => h (by simp [hmem])

/-- A file with a relative name lies where the name leads, in the directory that holds the file. -/
theorem components_path_of_isRelative {directory : Path} (hdirectory : directory.text ≠ "")
    (h : layout.environmentDirectory environment = .ok directory) {file : SchemaFile}
    (hrelative : Path.IsRelative file.fileName) :
    ∃ place, file.path layout environment = .ok place ∧ place.text ≠ "" ∧
      place.components = directory.components ++
        (file.directory?.toList.map .name ++ Path.steps file.fileName) := by
  refine ⟨_, path_of_ok h file, ?_⟩
  cases hfile : file.directory? with
  | none =>
      refine ⟨Path.text_child_ne hdirectory hrelative, ?_⟩
      exact Path.components_child hdirectory hrelative
  | some sub =>
      -- the two directories are names as well, so the path goes down twice
      have hsub : Path.IsRelative sub ∧ Path.steps sub = [.name sub] := by
        cases file <;> cases hfile <;> decide
      have hne := Path.text_child_ne hdirectory hsub.1
      refine ⟨Path.text_child_ne hne hrelative, ?_⟩
      show ((directory.child sub).child file.fileName).components = _
      rw [Path.components_child hne hrelative, Path.components_child hdirectory hsub.1, hsub.2]
      simp

/-- The way to a file from the directory of the locale. -/
def way (environment : String) (file : SchemaFile) : List Component :=
  .name platformDirectory ::
    (Path.steps environment ++ (file.directory?.toList.map .name ++ Path.steps file.fileName))

theorem two_lt_length_way {name : String} (h : (Path.mk environment).components = [.name name])
    (file : SchemaFile) : 2 < (file.way environment).length := by
  have hfile := List.length_pos_of_ne_nil file.steps_fileName_ne_nil
  simp only [way, (Path.steps_of_components_eq h).2, List.length_cons, List.length_append,
    List.length_nil]
  omega

/-- The layout decides only what stands in front of the way to a file. -/
theorem components_path_of_name (layout : Layout) {name : String}
    (h : (Path.mk environment).components = [.name name]) {file : SchemaFile}
    (hrelative : Path.IsRelative file.fileName) :
    ∃ place, file.path layout environment = .ok place ∧ place.text ≠ "" ∧
      place.components = layout.localeSteps ++ file.way environment := by
  obtain ⟨directory, hok, htext, hdirectory⟩ := layout.environmentDirectory_of_name h
  obtain ⟨place, hplace, hne, hcomponents⟩ := components_path_of_isRelative htext hok hrelative
  refine ⟨place, hplace, hne, ?_⟩
  have hbase : layout.base = layout.localeSteps ++ [.name platformDirectory] := rfl
  rw [hcomponents, hdirectory, hbase, way, (Path.steps_of_components_eq h).2]
  simp

/-- **A file lies where its steps lead.** -/
theorem components_path {directory : Path} (hdirectory : directory.text ≠ "")
    (h : layout.environmentDirectory environment = .ok directory) {file : SchemaFile}
    (hname : '/' ∉ file.fileName.toList) :
    ∃ place, file.path layout environment = .ok place ∧ place.text ≠ "" ∧
      place.components = directory.components ++ file.steps := by
  obtain ⟨hrelative, hsteps⟩ := steps_fileName hname
  rw [steps, ← hsteps]
  exact components_path_of_isRelative hdirectory h hrelative

/-! ### Meetings -/

theorem steps_entity_eq_iff {slotKey other : String} :
    (entity slotKey).steps = (entity other).steps ↔ kebabCase slotKey = kebabCase other := by
  simp [steps_eq_iff, directory?, fileName]

theorem steps_entries_eq_iff {slotKey other : String} :
    (entries slotKey).steps = (entries other).steps ↔ kebabCase slotKey = kebabCase other := by
  simp [steps_eq_iff, directory?, fileName]

/-- There is no underscore in the name of an entity, so its file is never one of entries. -/
theorem steps_entity_ne_entries (slotKey other : String) :
    (entity slotKey).steps ≠ (entries other).steps := by
  intro h
  have hname := (steps_eq_iff.1 h).2
  -- the name of entries has an underscore in it whatever the key
  have hmem : '_' ∈ (entity slotKey).fileName.toList := by
    rw [hname]
    simp [fileName]
  simp [fileName, underscore_not_mem_kebabCase] at hmem

theorem steps_intent_eq_iff {name other : String} :
    (intent name).steps = (intent other).steps ↔ name = other := by
  simp [steps_eq_iff, directory?, fileName]

theorem steps_samples_eq_iff {name other : String} :
    (samples name).steps = (samples other).steps ↔ name = other := by
  simp [steps_eq_iff, directory?, fileName]

theorem steps_intent_eq_samples_iff {name other : String} :
    (intent name).steps = (samples other).steps ↔ name = other ++ "_usersays_en" := by
  have hsuffix : other ++ "_usersays_" ++ contentLanguage ++ ".json" =
      other ++ "_usersays_en" ++ ".json" := by
    rw [String.append_assoc, String.append_assoc, String.append_assoc]
    rfl
  rw [steps_eq_iff, fileName, fileName, hsuffix, String.append_left_inj]
  simp [directory?]

/-- The ways in which two files share a place. -/
inductive Meets : SchemaFile → SchemaFile → Prop where
  | same (file : SchemaFile) : Meets file file
  | entities {slotKey other : String} (h : kebabCase slotKey = kebabCase other) :
    Meets (entity slotKey) (entity other)
  | entries {slotKey other : String} (h : kebabCase slotKey = kebabCase other) :
    Meets (entries slotKey) (entries other)
  | intentSamples (name : String) : Meets (intent (name ++ "_usersays_en")) (samples name)
  | samplesIntent (name : String) : Meets (samples name) (intent (name ++ "_usersays_en"))

/-- **Two files lie in one place only if they are named alike, or if one is the definition of an
intent that is named like the samples of another.** -/
theorem meets_of_steps_eq {file other : SchemaFile} (h : file.steps = other.steps) :
    Meets file other := by
  have hdirectory := (steps_eq_iff.1 h).1
  cases file with
  | entity slotKey =>
      cases other with
      | entity key => exact .entities (steps_entity_eq_iff.1 h)
      | entries key => exact absurd h (steps_entity_ne_entries slotKey key)
      | _ => exact absurd hdirectory (by simp [directory?])
  | entries slotKey =>
      cases other with
      | entity key => exact absurd h.symm (steps_entity_ne_entries key slotKey)
      | entries key => exact .entries (steps_entries_eq_iff.1 h)
      | _ => exact absurd hdirectory (by simp [directory?])
  | intent name =>
      cases other with
      | intent second =>
          rw [steps_intent_eq_iff.1 h]
          exact .same _
      | samples second =>
          rw [steps_intent_eq_samples_iff.1 h]
          exact .intentSamples second
      | _ => exact absurd hdirectory (by simp [directory?])
  | samples name =>
      cases other with
      | intent second =>
          rw [steps_intent_eq_samples_iff.1 h.symm]
          exact .samplesIntent name
      | samples second =>
          rw [steps_samples_eq_iff.1 h]
          exact .same _
      | _ => exact absurd hdirectory (by simp [directory?])
  | agent =>
      cases other with
      | agent => exact .same _
      | package => exact absurd h (by decide)
      | _ => exact absurd hdirectory (by simp [directory?])
  | package =>
      cases other with
      | agent => exact absurd h (by decide)
      | package => exact .same _
      | _ => exact absurd hdirectory (by simp [directory?])

end SchemaFile

end VoiceSkill
