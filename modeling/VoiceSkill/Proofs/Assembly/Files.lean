import VoiceSkill.Proofs.Assembly.Plan

/-!
# The files of a schema and the names they come from

The plan of a schema never asks for one file twice (`nodup_schemaFiles`), but two files may share a
place. That is so exactly if two entities are named alike or an intent is named like the samples of
another one (`nodup_steps_iff`).
-/

namespace VoiceSkill

namespace Definition

/-! ## The files of a plan -/

/-- The files for an intent. -/
def intentSchemaFiles (definition : Definition) (intent : Intent) : List SchemaFile :=
  .intent intent.name ::
    if mergeSamples intent.name (definition.samplesOf intent.name) = [] then []
    else [.samples intent.name]

/-- The files of the schema of an environment. -/
def schemaFiles (definition : Definition) (config : BuildConfig) (environment : String) :
    List SchemaFile :=
  (definition.entitySlots.flatMap fun slot => [.entity slot.1, .entries slot.1]) ++
    (definition.intentsFor config.platform (some environment)).flatMap
      definition.intentSchemaFiles ++
    [.agent, .package]

theorem map_fst_schemaPlan (definition : Definition) (config : BuildConfig)
    (environment : String) :
    (definition.schemaPlan config environment).map Prod.fst =
      definition.schemaFiles config environment := by
  have hintent (intent : Intent) :
      (intentFiles config intent (definition.samplesOf intent.name)).map Prod.fst =
        definition.intentSchemaFiles intent := by
    rw [intentFiles, intentSchemaFiles, List.map_cons, apply_ite (List.map Prod.fst)]
    rfl
  rw [schemaPlan, schemaFiles, List.map_append, List.map_append, List.map_flatMap,
    List.map_flatMap]
  simp only [hintent]
  rfl

variable {definition : Definition} {config : BuildConfig} {environment name slotKey : String}

theorem mem_intentSchemaFiles {file : SchemaFile} {intent : Intent} :
    file ∈ definition.intentSchemaFiles intent ↔
      file = .intent intent.name ∨ file = .samples intent.name ∧
        mergeSamples intent.name (definition.samplesOf intent.name) ≠ [] := by
  rw [intentSchemaFiles]
  split
  · rename_i hsamples
    simp [hsamples]
  · rename_i hsamples
    simp [hsamples]

theorem entity_mem_schemaFiles :
    .entity slotKey ∈ definition.schemaFiles config environment ↔
      slotKey ∈ definition.entitySlots.map Prod.fst := by
  simp [schemaFiles, mem_intentSchemaFiles]

theorem entries_mem_schemaFiles :
    .entries slotKey ∈ definition.schemaFiles config environment ↔
      slotKey ∈ definition.entitySlots.map Prod.fst := by
  simp [schemaFiles, mem_intentSchemaFiles]

theorem intent_mem_schemaFiles :
    .intent name ∈ definition.schemaFiles config environment ↔
      ∃ intent ∈ definition.intentsFor config.platform (some environment), intent.name = name := by
  simp [schemaFiles, mem_intentSchemaFiles, eq_comm (a := name)]

theorem samples_mem_schemaFiles :
    .samples name ∈ definition.schemaFiles config environment ↔
      ∃ intent ∈ definition.intentsFor config.platform (some environment),
        intent.name = name ∧ mergeSamples intent.name (definition.samplesOf intent.name) ≠ [] := by
  simp [schemaFiles, mem_intentSchemaFiles, eq_comm (a := name)]

/-- Files of intents are planned only for the intents of the environment. -/
theorem exists_intent_of_mem_schemaFiles {file : SchemaFile}
    (h : file ∈ definition.schemaFiles config environment) (hname : name ∈ file.intentName?) :
    ∃ intent ∈ definition.intentsFor config.platform (some environment), intent.name = name := by
  cases file with
  | intent other =>
      obtain rfl : other = name := Option.some.inj hname
      exact intent_mem_schemaFiles.1 h
  | samples other =>
      obtain rfl : other = name := Option.some.inj hname
      obtain ⟨intent, hintent, hsame, _⟩ := samples_mem_schemaFiles.1 h
      exact ⟨intent, hintent, hsame⟩
  | _ => cases hname

theorem nodup_names_intentsFor (definition : Definition) (platform : String)
    (environment : Option String) :
    ((definition.intentsFor platform environment).map Intent.name).Nodup :=
  nodup_map_keepFirst Intent.name _

theorem nodup_keys_entitySlots (definition : Definition) :
    (definition.entitySlots.map Prod.fst).Nodup :=
  definition.slots.nodup_keys.sublist (List.filter_sublist.map Prod.fst)

theorem nodup_intentSchemaFiles (definition : Definition) (intent : Intent) :
    (definition.intentSchemaFiles intent).Nodup := by
  rw [intentSchemaFiles]
  split <;> simp

/-- The files of the slots are planned once each. -/
theorem nodup_slotFiles (definition : Definition) :
    (definition.entitySlots.flatMap fun slot =>
      [SchemaFile.entity slot.1, .entries slot.1]).Nodup := by
  rw [List.Nodup, List.pairwise_flatMap]
  refine ⟨fun slot _ => by simp, ?_⟩
  have hkeys := List.pairwise_map.1 definition.nodup_keys_entitySlots
  refine hkeys.imp ?_
  intro slot other hne
  simp [hne]

/-- The files of the intents are planned once each. -/
theorem nodup_intentFiles (definition : Definition) (platform : String)
    (environment : Option String) :
    ((definition.intentsFor platform environment).flatMap
      definition.intentSchemaFiles).Nodup := by
  rw [List.Nodup, List.pairwise_flatMap]
  refine ⟨fun intent _ => definition.nodup_intentSchemaFiles intent, ?_⟩
  have hnames := List.pairwise_map.1 (definition.nodup_names_intentsFor platform environment)
  refine hnames.imp ?_
  intro intent other hne file hfile second hsecond
  rw [mem_intentSchemaFiles] at hfile hsecond
  rcases hfile with rfl | ⟨rfl, _⟩ <;> rcases hsecond with rfl | ⟨rfl, _⟩ <;> simp [hne]

/-- No file is planned twice. -/
theorem nodup_schemaFiles (definition : Definition) (config : BuildConfig)
    (environment : String) : (definition.schemaFiles config environment).Nodup := by
  -- the three parts of the plan lie in directories of their own
  have hslots : ∀ file ∈ definition.entitySlots.flatMap fun slot =>
      [SchemaFile.entity slot.1, .entries slot.1], file.directory? = some "entities" := by
    intro file hfile
    obtain ⟨slot, _, hfile⟩ := List.mem_flatMap.1 hfile
    rcases List.mem_pair.1 hfile with rfl | rfl <;> rfl
  have hintents : ∀ file ∈ (definition.intentsFor config.platform (some environment)).flatMap
      definition.intentSchemaFiles, file.directory? = some "intents" := by
    intro file hfile
    obtain ⟨intent, _, hfile⟩ := List.mem_flatMap.1 hfile
    rcases mem_intentSchemaFiles.1 hfile with rfl | ⟨rfl, _⟩ <;> rfl
  have hlast : ∀ file ∈ [SchemaFile.agent, .package], file.directory? = none := by
    simp [SchemaFile.directory?]
  rw [schemaFiles, List.nodup_append, List.nodup_append]
  refine ⟨⟨definition.nodup_slotFiles, definition.nodup_intentFiles _ _, ?_⟩, by simp, ?_⟩
  · intro file hfile second hsecond heq
    have hdirectory := hslots file hfile
    rw [heq, hintents second hsecond] at hdirectory
    exact absurd hdirectory (by decide)
  · intro file hfile second hsecond heq
    have hdirectory := hlast second hsecond
    rw [← heq] at hdirectory
    rcases List.mem_append.1 hfile with hfile | hfile
    · rw [hslots file hfile] at hdirectory
      cases hdirectory
    · rw [hintents file hfile] at hdirectory
      cases hdirectory

/-! ## Names -/

/-- No two entities are named alike, and no intent is named like the samples of another. -/
structure NamesApart (definition : Definition) (platform environment : String) : Prop where
  entities : ((definition.slots.keys.filter fun key => kebabCase key != "").map kebabCase).Nodup
  samples : ¬ ∃ intent ∈ definition.intentsFor platform (some environment),
    ∃ other ∈ definition.intentsFor platform (some environment),
      other.name = intent.name ++ "_usersays_en" ∧
        mergeSamples intent.name (definition.samplesOf intent.name) ≠ []

theorem map_fst_entitySlots (definition : Definition) :
    definition.entitySlots.map Prod.fst =
      definition.slots.keys.filter fun key => kebabCase key != "" := by
  rw [entitySlots, Dict.keys, List.filter_map]
  rfl

/-- **Names that are apart are what keeps the files of a plan apart.** -/
theorem nodup_steps_iff :
    ((definition.schemaFiles config environment).map SchemaFile.steps).Nodup ↔
      definition.NamesApart config.platform environment := by
  have hfiles := definition.nodup_schemaFiles config environment
  rw [List.nodup_map_iff_inj_on hfiles]
  constructor
  · -- two files in one place would be one file, whose name tells the slot or the intent
    intro hinj
    refine ⟨?_, ?_⟩
    · rw [← map_fst_entitySlots]
      apply definition.nodup_keys_entitySlots.map_on
      intro key hkey other hother hkebab
      have hfile := hinj (.entity key) (entity_mem_schemaFiles.2 hkey) (.entity other)
        (entity_mem_schemaFiles.2 hother) (SchemaFile.steps_entity_eq_iff.2 hkebab)
      exact SchemaFile.entity.inj hfile
    · rintro ⟨intent, hintent, other, hother, hname, hsamples⟩
      have hfile := hinj (.intent other.name) (intent_mem_schemaFiles.2 ⟨other, hother, rfl⟩)
        (.samples intent.name) (samples_mem_schemaFiles.2 ⟨intent, hintent, rfl, hsamples⟩)
        (SchemaFile.steps_intent_eq_samples_iff.2 hname)
      cases hfile
  · rintro ⟨hentities, hapart⟩ file hfile other hother hsteps
    rw [← map_fst_entitySlots] at hentities
    have hkeys {key second : String} (hkey : key ∈ definition.entitySlots.map Prod.fst)
        (hsecond : second ∈ definition.entitySlots.map Prod.fst)
        (hkebab : kebabCase key = kebabCase second) : key = second :=
      List.inj_on_of_nodup_map hentities hkey hsecond hkebab
    have hclash {name : String}
        (hintent : .intent (name ++ "_usersays_en") ∈ definition.schemaFiles config environment)
        (hsamples : .samples name ∈ definition.schemaFiles config environment) : False := by
      obtain ⟨named, hnamed, hname⟩ := intent_mem_schemaFiles.1 hintent
      obtain ⟨intent, hmem, rfl, hmerged⟩ := samples_mem_schemaFiles.1 hsamples
      exact hapart ⟨intent, hmem, named, hnamed, hname, hmerged⟩
    cases SchemaFile.meets_of_steps_eq hsteps with
    | same => rfl
    | entities hkebab =>
        rw [hkeys (entity_mem_schemaFiles.1 hfile) (entity_mem_schemaFiles.1 hother) hkebab]
    | entries hkebab =>
        rw [hkeys (entries_mem_schemaFiles.1 hfile) (entries_mem_schemaFiles.1 hother) hkebab]
    | intentSamples name => exact (hclash hfile hother).elim
    | samplesIntent name => exact (hclash hother hfile).elim

end Definition

end VoiceSkill
