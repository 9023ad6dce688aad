import VoiceSkill.Proofs.Assembly.Files

/-!
# The schema of an environment

When a schema can be assembled, and what it consists of. An environment whose name is not that of a
single directory has no schema. Otherwise, if no intent has a slash in its name, the files of the
plan all find places below the directory of the environment, and assembling them fails only where
two of them share one (`result_assembleEnvironment_of_name`). What was assembled is the plan with
identifiers (`artifacts_of_assembleEnvironment`).
-/

namespace VoiceSkill

namespace Definition

variable {definition : Definition} {config : BuildConfig} {environment name : String}

/-! ## Places -/

/-- Documents whose files have plain names all find a place below the directory. -/
theorem exists_artifacts {layout : Layout} {directory : Path} (hdirectory : directory.text ≠ "")
    (h : layout.environmentDirectory environment = .ok directory)
    (hnames : ∀ component ∈ directory.components, ∃ name, component = .name name)
    {documents : List (SchemaFile × SchemaDocument Uuid)}
    (hfiles : ∀ d ∈ documents, '/' ∉ d.1.fileName.toList) :
    ∃ artifacts : List Artifact,
      documents.map (SchemaFile.artifact layout environment) = artifacts.map .ok ∧
      (∀ artifact ∈ artifacts, artifact.path.fault? = none) ∧
      (ArtifactSet.mk artifacts).places =
        documents.map fun d => directory.components ++ d.1.steps := by
  induction documents with
  | nil => exact ⟨[], rfl, by simp, rfl⟩
  | cons d rest ih =>
      obtain ⟨artifacts, hartifacts, hfaults, hplaces⟩ :=
        ih fun e he => hfiles e (List.mem_cons_of_mem d he)
      obtain ⟨place, hplace, htext, hcomponents⟩ :=
        SchemaFile.components_path hdirectory h (hfiles d List.mem_cons_self)
      have hfault : place.fault? = none := by
        apply Path.fault?_eq_none htext
        rw [hcomponents]
        intro component hcomponent
        rcases List.mem_append.1 hcomponent with hcomponent | hcomponent
        · exact hnames component hcomponent
        · exact d.1.names_steps component hcomponent
      have hartifact : SchemaFile.artifact layout environment d =
          .ok ⟨place, d.2.toDocument⟩ := by
        rw [SchemaFile.artifact, hplace]
        rfl
      refine ⟨⟨place, d.2.toDocument⟩ :: artifacts, ?_, ?_, ?_⟩
      · rw [List.map_cons, hartifact, hartifacts, List.map_cons]
      · intro artifact hmem
        rcases List.mem_cons.1 hmem with rfl | hmem
        · exact hfault
        · exact hfaults artifact hmem
      · rw [List.map_cons, ← hplaces, ← hcomponents]
        rfl

theorem map_fst_schemaDocuments (definition : Definition) (config : BuildConfig)
    (fresh : Nat → Uuid) (first : Nat) (environment : String) :
    (definition.schemaDocuments config fresh first environment).map Prod.fst =
      definition.schemaFiles config environment := by
  rw [← map_fst_schemaPlan,
    ← definition.map_anonymous_schemaDocuments config fresh first environment, List.map_map]
  rfl

/-- The artifacts of a plan have the paths of its files. -/
theorem map_path_of_schemaPlan {documents : List (SchemaFile × SchemaDocument Uuid)}
    {artifacts : List Artifact}
    (hplan : documents.map (fun d => (d.1, d.2.map anonymous)) =
      definition.schemaPlan config environment)
    (h : artifacts.map .ok = documents.map (SchemaFile.artifact config.layout environment)) :
    (artifacts.map Artifact.path).map .ok = (definition.schemaFiles config environment).map
      (SchemaFile.path config.layout environment) := by
  have hfiles : documents.map Prod.fst = definition.schemaFiles config environment := by
    rw [← map_fst_schemaPlan, ← hplan, List.map_map]
    rfl
  have hpaths := congrArg (List.map (Except.map Artifact.path)) h
  rw [List.map_map, List.map_map] at hpaths
  rw [List.map_map, ← hfiles, List.map_map]
  refine hpaths.trans (List.map_congr_left fun d _ => ?_)
  rw [Function.comp_apply, SchemaFile.artifact]
  cases hpath : d.1.path config.layout environment <;> simp [hpath, Except.map]

/-! ## The outcome -/

variable (fresh : Nat → Uuid) (first : Nat)

/-- An environment that is not a directory of its own has no schema, whatever the definition. -/
theorem result_assembleEnvironment_of_not_name
    (h : ∀ name, (Path.mk environment).components ≠ [.name name]) :
    (definition.assembleEnvironment config fresh first environment).result =
      .error (.invalidEnvironment environment) := by
  have hdirectory : config.layout.environmentDirectory environment =
      .error (.invalidEnvironment environment) := config.layout.environmentDirectory_of_not_name h
  have hne : definition.schemaDocuments config fresh first environment ≠ [] := by
    intro hnil
    have hfiles := definition.map_fst_schemaDocuments config fresh first environment
    rw [hnil] at hfiles
    simp [schemaFiles] at hfiles
  -- whatever comes first, it already has no path
  obtain ⟨d, rest, hdocuments⟩ := List.exists_cons_of_ne_nil hne
  have hartifact : SchemaFile.artifact config.layout environment d =
      .error (.invalidEnvironment environment) := by
    rw [SchemaFile.artifact, SchemaFile.path_of_error hdirectory]
    rfl
  rw [result_assembleEnvironment_eq, hdocuments, List.map_cons, hartifact]
  rfl

/-- Where all names are plain, the outcome depends on whether the files are apart. -/
theorem result_assembleEnvironment_of_name
    (h : (Path.mk environment).components = [.name name])
    (hintents : ∀ intent ∈ definition.intentsFor config.platform (some environment),
      '/' ∉ intent.name.toList) :
    (definition.NamesApart config.platform environment →
      ∃ set, (definition.assembleEnvironment config fresh first environment).result = .ok set) ∧
    (¬ definition.NamesApart config.platform environment →
      ∃ path, (definition.assembleEnvironment config fresh first environment).result =
        .error (.write (.duplicatePath path))) := by
  obtain ⟨directory, hok, htext, hcomponents⟩ :=
    config.layout.environmentDirectory_of_name h
  have hnames : ∀ component ∈ directory.components, ∃ name, component = .name name := by
    rw [hcomponents]
    intro component hcomponent
    rcases List.mem_append.1 hcomponent with hcomponent | hcomponent
    · exact config.layout.names_base component hcomponent
    · exact ⟨name, List.mem_singleton.1 hcomponent⟩
  have hfiles : ∀ d ∈ definition.schemaDocuments config fresh first environment,
      '/' ∉ d.1.fileName.toList := by
    intro d hd
    have hfile : d.1 ∈ definition.schemaFiles config environment := by
      rw [← map_fst_schemaDocuments definition config fresh first]
      exact List.mem_map_of_mem hd
    apply SchemaFile.slash_not_mem_fileName
    intro second hsecond
    obtain ⟨intent, hintent, rfl⟩ := exists_intent_of_mem_schemaFiles hfile hsecond
    exact hintents intent hintent
  obtain ⟨artifacts, hartifacts, hfaults, hplaces⟩ := exists_artifacts htext hok hnames hfiles
  have hapart : (ArtifactSet.mk artifacts).places.Nodup ↔
      definition.NamesApart config.platform environment := by
    -- the components of the directory in front of every place tell no two of them apart
    have hbelow := List.nodup_map_iff (List.append_right_injective directory.components)
      (l := (definition.schemaDocuments config fresh first environment).map fun d => d.1.steps)
    rw [List.map_map] at hbelow
    rw [hplaces, ← nodup_steps_iff, ← map_fst_schemaDocuments definition config fresh first,
      List.map_map]
    exact hbelow
  rw [result_assembleEnvironment_eq, hartifacts]
  constructor
  · intro hnames
    exact ⟨_, ArtifactSet.foldlM_add_of_nodup hfaults (hapart.2 hnames)⟩
  · intro hnames
    exact ArtifactSet.foldlM_add_of_not_nodup hfaults (mt hapart.1 hnames)

/-- A schema that was assembled consists of the documents of its plan, in this order. -/
theorem artifacts_of_assembleEnvironment {set : ArtifactSet} {fresh : Nat → Uuid} {first : Nat}
    (h : (definition.assembleEnvironment config fresh first environment).result = .ok set) :
    set.artifacts.map .ok = (definition.schemaDocuments config fresh first environment).map
      (SchemaFile.artifact config.layout environment) := by
  rw [result_assembleEnvironment_eq] at h
  obtain ⟨artifacts, hartifacts, rfl⟩ := ArtifactSet.artifacts_of_foldlM_add h
  rw [hartifacts]
  rfl

theorem mem_artifacts_of_assembleEnvironment {set : ArtifactSet} {fresh : Nat → Uuid} {first : Nat}
    (h : (definition.assembleEnvironment config fresh first environment).result = .ok set)
    {artifact : Artifact} :
    artifact ∈ set.artifacts ↔
      ∃ d ∈ definition.schemaDocuments config fresh first environment,
        d.1.path config.layout environment = .ok artifact.path ∧
          artifact.document = d.2.toDocument := by
  have hmem : artifact ∈ set.artifacts ↔
      (.ok artifact : Except BuildError Artifact) ∈ set.artifacts.map .ok := by simp
  rw [hmem, artifacts_of_assembleEnvironment h, List.mem_map]
  simp only [SchemaFile.artifact_eq_ok_iff]

/-- An environment that has a schema has the name of a single directory. -/
theorem exists_name_of_assembleEnvironment {set : ArtifactSet} {fresh : Nat → Uuid} {first : Nat}
    (h : (definition.assembleEnvironment config fresh first environment).result = .ok set) :
    ∃ name, (Path.mk environment).components = [.name name] := by
  by_contra hnone
  rw [result_assembleEnvironment_of_not_name fresh first (not_exists.1 hnone)] at h
  cases h

/-- It has this directory. -/
theorem exists_directory_of_assembleEnvironment {set : ArtifactSet} {fresh : Nat → Uuid}
    {first : Nat}
    (h : (definition.assembleEnvironment config fresh first environment).result = .ok set) :
    ∃ name directory, config.layout.environmentDirectory environment = .ok directory ∧
      directory.text ≠ "" ∧ directory.components = config.layout.base ++ [.name name] := by
  obtain ⟨name, hname⟩ := exists_name_of_assembleEnvironment h
  exact ⟨name, config.layout.environmentDirectory_of_name hname⟩

/-- **When the schema of an environment can be assembled, and what it is.** The name of the
environment has to be that of a single directory; no two files may share a place; and then there is
one artifact for each file of the plan, slots by increasing key and intents as they are declared. -/
theorem assembleEnvironment_spec (definition : Definition) (config : BuildConfig)
    (fresh : Nat → Uuid) (first : Nat) (environment : String) :
    ((∀ name, (Path.mk environment).components ≠ [.name name]) →
      (definition.assembleEnvironment config fresh first environment).result =
        .error (.invalidEnvironment environment)) ∧
    (∀ name, (Path.mk environment).components = [.name name] →
      (∀ intent ∈ definition.intentsFor config.platform (some environment),
        '/' ∉ intent.name.toList) →
      ((∃ set, (definition.assembleEnvironment config fresh first environment).result = .ok set) ↔
        definition.NamesApart config.platform environment) ∧
      (¬ definition.NamesApart config.platform environment →
        ∃ path, (definition.assembleEnvironment config fresh first environment).result =
          .error (.write (.duplicatePath path)))) ∧
    (∀ set, (definition.assembleEnvironment config fresh first environment).result = .ok set →
      (∃ documents : List (SchemaFile × SchemaDocument Uuid),
        documents.map (fun d => (d.1, d.2.map anonymous)) =
          definition.schemaPlan config environment ∧
        set.artifacts.map .ok = documents.map (SchemaFile.artifact config.layout environment)) ∧
      (definition.entitySlots.map Prod.fst).Pairwise (· < ·) ∧
      (definition.intentsFor config.platform (some environment)).Sublist definition.intents) := by
  refine ⟨result_assembleEnvironment_of_not_name fresh first, ?_, ?_⟩
  · intro name hname hintents
    obtain ⟨hok, herror⟩ := result_assembleEnvironment_of_name fresh first hname hintents
    refine ⟨⟨?_, hok⟩, herror⟩
    rintro ⟨set, hset⟩
    by_contra hapart
    obtain ⟨path, hpath⟩ := herror hapart
    rw [hset] at hpath
    cases hpath
  · intro set hset
    refine ⟨⟨definition.schemaDocuments config fresh first environment,
      definition.map_anonymous_schemaDocuments config fresh first environment,
      artifacts_of_assembleEnvironment hset⟩, ?_, ?_⟩
    · exact definition.slots.keys_pairwise.sublist (List.filter_sublist.map Prod.fst)
    · exact (keepFirst_sublist Intent.name _).trans List.filter_sublist

/-- Flights with one slot type, one intent that has a sample, and a second intent. -/
def flights (second : String) : Definition :=
  { empty with
    intents := [.ofName "BookFlight", .ofName second]
    slots := Dict.ofList [("City", .ofList [⟨"paris", []⟩])]
    utterances := Dict.ofList [("BookFlight", ["fly to Paris"])] }

/-- The schema of flights has two files for the slot type, two for each intent, the agent and the
package, unless the second intent is named like the samples of the first. -/
theorem assembleEnvironment_flights :
    (∃ set, ((flights "HelpIntent").assembleEnvironment
      ⟨.enUS, none, "dialogFlow", false, false, 5⟩ (Uuid.generated 0) 0 "alpha").result =
        .ok set ∧
      set.paths = [
        ⟨"en-US/dialog-flow/alpha/entities/city.json"⟩,
        ⟨"en-US/dialog-flow/alpha/entities/city_entries_en.json"⟩,
        ⟨"en-US/dialog-flow/alpha/intents/BookFlight.json"⟩,
        ⟨"en-US/dialog-flow/alpha/intents/BookFlight_usersays_en.json"⟩,
        ⟨"en-US/dialog-flow/alpha/intents/HelpIntent.json"⟩,
        ⟨"en-US/dialog-flow/alpha/intents/HelpIntent_usersays_en.json"⟩,
        ⟨"en-US/dialog-flow/alpha/agent.json"⟩,
        ⟨"en-US/dialog-flow/alpha/package.json"⟩]) ∧
    (∃ path, ((flights "BookFlight_usersays_en").assembleEnvironment
      ⟨.enUS, none, "dialogFlow", false, false, 5⟩ (Uuid.generated 0) 0 "alpha").result =
        .error (.write (.duplicatePath path))) := by
  constructor
  · obtain ⟨-, houtcome, hcontents⟩ := assembleEnvironment_spec (flights "HelpIntent")
      ⟨.enUS, none, "dialogFlow", false, false, 5⟩ (Uuid.generated 0) 0 "alpha"
    obtain ⟨set, hset⟩ := (houtcome "alpha" (by decide) (by decide)).1.2
      ⟨by decide +kernel, by decide⟩
    obtain ⟨⟨documents, hplan, hartifacts⟩, -, -⟩ := hcontents set hset
    have hpaths := map_path_of_schemaPlan hplan hartifacts
    refine ⟨set, hset, (List.map_inj_right fun _ _ => Except.ok.inj).1 (hpaths.trans ?_)⟩
    decide +kernel
  · refine ((assembleEnvironment_spec _ _ _ _ _).2.1 "alpha" (by decide) ?_).2 ?_
    · decide
    · intro hapart
      exact hapart.samples (by decide)

end Definition

end VoiceSkill
