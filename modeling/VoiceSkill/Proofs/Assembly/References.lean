import VoiceSkill.Coverage
import VoiceSkill.Proofs.Assembly.Containment
import VoiceSkill.Proofs.Schema
import VoiceSkill.Proofs.Utterance.Compile

/-!
# References to slots

The samples of an intent refer to slots by name and to the entities of their types. What they refer
to is declared in other documents of the schema, which are made by themselves: the definition of the
intent has a parameter for the slot, and if there are values for the type of the slot there is an
entity of the name that is referred to (`references_resolve`).
-/

namespace VoiceSkill

/-! ## The slots that samples refer to -/

/-- A reference in a token names the slot that stands for a name, and the entity of its type. -/
theorem standsFor_of_reference?_token {intent : Intent} {platform segment : String}
    {reference : String × String}
    (h : ((intent.resolver platform).token segment).reference? = some reference) :
    ∃ slot, StandsFor intent platform reference.2 slot ∧
      reference.1 = "@" ++ kebabCase slot.slotType := by
  cases hname : placeholderName? segment with
  | none =>
      rw [Resolver.token, hname] at h
      cases h
  | some name =>
      rw [Resolver.token_of_placeholderName? _ hname, Intent.resolver_slot?] at h
      cases hslot : intent.slot? platform name with
      | none =>
          rw [hslot] at h
          cases h
      | some slot =>
          rw [hslot] at h
          obtain rfl := Option.some.inj h
          have hstands := Intent.slot?_eq_some_iff.1 hslot
          obtain ⟨_, _, _, _, rfl, _⟩ := id hstands
          exact ⟨slot, hstands, rfl⟩

theorem standsFor_of_mem_references {config : BuildConfig} {intent : Intent}
    {samples : List String} {reference : String × String}
    (h : reference ∈ (SchemaDocument.samples (compileSamples config intent samples)).references) :
    ∃ slot, StandsFor intent config.platform reference.2 slot ∧
      reference.1 = "@" ++ kebabCase slot.slotType := by
  rw [SchemaDocument.references, compileSamples, List.flatMap_map, List.mem_flatMap] at h
  obtain ⟨sample, _, h⟩ := h
  rw [tokens_compileSample, List.filterMap_map, List.mem_filterMap] at h
  obtain ⟨segment, _, h⟩ := h
  exact standsFor_of_reference?_token h

/-- The parameters of an intent are found like its slots. -/
theorem find?_parameters (intent : Intent) (platform name : String) :
    (intent.parameters platform).find? (fun parameter => parameter.name == name) =
      (intent.slot? platform name).map Slot.parameter := by
  rw [Intent.parameters, List.find?_map, ← Intent.resolver_slot?]
  rfl

/-! ## Documents by their files -/

/-- The document that lies at the place of a file. -/
def ArtifactSet.documentOf? (set : ArtifactSet) (layout : Layout) (environment : String)
    (file : SchemaFile) : Option Document :=
  match file.path layout environment with
  | .ok path => (set.get? path).map Artifact.document
  | .error _ => none

theorem ArtifactSet.documentOf?_eq_some_iff {set : ArtifactSet} {layout : Layout}
    {environment : String} {file : SchemaFile} {document : Document} :
    set.documentOf? layout environment file = some document ↔
      ∃ path artifact, file.path layout environment = .ok path ∧
        set.get? path = some artifact ∧ artifact.document = document := by
  rw [documentOf?]
  cases file.path layout environment with
  | error e => simp
  | ok path => simp

/-- The samples of an intent and its definition go by names that begin alike. -/
theorem SchemaFile.fileName_intent_samples (name : String) :
    (intent name).fileName = name ++ ".json" ∧
      (samples name).fileName = name ++ "_usersays_en.json" := by
  refine ⟨rfl, ?_⟩
  rw [fileName, String.append_assoc, String.append_assoc]
  rfl

theorem SchemaFile.isRelative_samples {name : String}
    (h : Path.IsRelative (intent name).fileName) : Path.IsRelative (samples name).fileName := by
  obtain ⟨hintent, hsamples⟩ := fileName_intent_samples name
  by_cases hname : name = ""
  · subst hname
    decide
  · rw [hintent, Path.IsRelative, Path.isAbsolute_append hname] at h
    rwa [hsamples, Path.IsRelative, Path.isAbsolute_append hname]

/-- Intents with samples in one place have their definitions in one place. -/
theorem SchemaFile.steps_intent_of_samples {name other : String}
    (h : Path.steps (samples name).fileName = Path.steps (samples other).fileName) :
    Path.steps (intent name).fileName = Path.steps (intent other).fileName := by
  rw [(fileName_intent_samples name).2, (fileName_intent_samples other).2] at h
  exact Path.steps_append_congr (by decide) (by decide) (by decide) (by decide) h

namespace Definition

variable {definition : Definition} {config : BuildConfig} {fresh : Nat → Uuid} {first : Nat}
  {environment : String} {set : ArtifactSet}

/-! ## The documents of a plan -/

section Plan

variable {slot : String × SlotValues} {intent : Intent}

theorem entityFiles_subset_schemaPlan (h : slot ∈ definition.entitySlots) :
    entityFiles slot ⊆ definition.schemaPlan config environment := by
  intro d hd
  rw [schemaPlan, List.append_assoc]
  exact List.mem_append_left _ (List.mem_flatMap.2 ⟨slot, h, hd⟩)

theorem intentFiles_subset_schemaPlan
    (h : intent ∈ definition.intentsFor config.platform (some environment)) :
    intentFiles config intent (definition.samplesOf intent.name) ⊆
      definition.schemaPlan config environment := by
  intro d hd
  rw [schemaPlan]
  exact List.mem_append_left _ (List.mem_append_right _ (List.mem_flatMap.2 ⟨intent, h, hd⟩))

theorem samples_mem_schemaPlan
    (h : intent ∈ definition.intentsFor config.platform (some environment))
    (hmerged : definition.mergedSamples intent.name ≠ []) :
    (.samples intent.name,
        .samples (compileSamples config intent (definition.samplesOf intent.name))) ∈
      definition.schemaPlan config environment := by
  rw [mergedSamples] at hmerged
  apply intentFiles_subset_schemaPlan h
  rw [intentFiles, if_neg hmerged]
  exact List.mem_cons_of_mem _ (List.mem_singleton_self _)

/-- Only the samples of intents refer to slots. -/
theorem exists_intent_of_mem_references {d : SchemaFile × SchemaDocument Unit}
    {reference : String × String} (hd : d ∈ definition.schemaPlan config environment)
    (href : reference ∈ d.2.references) :
    ∃ intent ∈ definition.intentsFor config.platform (some environment),
      d = (.samples intent.name,
        .samples (compileSamples config intent (definition.samplesOf intent.name))) := by
  rw [schemaPlan, List.mem_append, List.mem_append, List.mem_flatMap, List.mem_flatMap] at hd
  rcases hd with (⟨slot, _, hd⟩ | ⟨intent, hintent, hd⟩) | hd
  · rcases List.mem_pair.1 hd with rfl | rfl <;> cases href
  · rw [intentFiles, List.mem_cons] at hd
    rcases hd with rfl | hd
    · cases href
    · split at hd
      · cases hd
      · exact ⟨intent, hintent, List.mem_singleton.1 hd⟩
  · rcases List.mem_pair.1 hd with rfl | rfl <;> cases href

end Plan

/-- The documents of a plan have artifacts, where they are with identifiers. -/
theorem exists_artifact_of_mem_schemaPlan
    (h : (definition.assembleEnvironment config fresh first environment).result = .ok set)
    {file : SchemaFile} {plan : SchemaDocument Unit}
    (hplan : (file, plan) ∈ definition.schemaPlan config environment) :
    ∃ artifact ∈ set.artifacts, ∃ document : SchemaDocument Uuid,
      document.map anonymous = plan ∧ file.path config.layout environment = .ok artifact.path ∧
      artifact.document = document.toDocument := by
  rw [← definition.map_anonymous_schemaDocuments config fresh first environment,
    List.mem_map] at hplan
  obtain ⟨d, hd, hfile⟩ := hplan
  obtain ⟨rfl, rfl⟩ := Prod.mk.injEq .. ▸ hfile
  obtain ⟨artifact, hartifact, hpath, hdocument⟩ := exists_artifact_of_mem_schemaDocuments h hd
  exact ⟨artifact, hartifact, d.2, rfl, hpath, hdocument⟩

/-- The documents of a plan lie at the places of their files. -/
theorem exists_documentOf?
    (h : (definition.assembleEnvironment config fresh first environment).result = .ok set)
    {file : SchemaFile} {plan : SchemaDocument Unit}
    (hplan : (file, plan) ∈ definition.schemaPlan config environment) :
    ∃ document : SchemaDocument Uuid, document.map anonymous = plan ∧
      set.documentOf? config.layout environment file = some document.toDocument := by
  obtain ⟨artifact, hartifact, document, hplan, hpath, hdocument⟩ :=
    exists_artifact_of_mem_schemaPlan h hplan
  refine ⟨document, hplan, ArtifactSet.documentOf?_eq_some_iff.2 ⟨_, _, hpath, ?_, hdocument⟩⟩
  exact (sound_of_assembleEnvironment h).get?_eq_some_iff.2 ⟨hartifact, rfl⟩

/-! ## The documents of an intent -/

section Intents

variable {intent other : Intent}

/-- The definition of an intent lies where its name leads, and so would its samples. -/
theorem exists_intent_places
    (h : (definition.assembleEnvironment config fresh first environment).result = .ok set)
    (hintent : intent ∈ definition.intentsFor config.platform (some environment)) :
    ∃ directory, config.layout.environmentDirectory environment = .ok directory ∧
      (∃ artifact ∈ set.artifacts, artifact.document.textAt? "name" = some intent.name ∧
        artifact.path.components = directory.components ++
          .name "intents" :: Path.steps (SchemaFile.intent intent.name).fileName) ∧
      ∃ place, (SchemaFile.samples intent.name).path config.layout environment = .ok place ∧
        place.components = directory.components ++
          .name "intents" :: Path.steps (SchemaFile.samples intent.name).fileName := by
  obtain ⟨_, directory, hok, htext, _⟩ := exists_directory_of_assembleEnvironment h
  obtain ⟨artifact, hartifact, document, hplan, hpath, hdocument⟩ :=
    exists_artifact_of_mem_schemaPlan h (intentFiles_subset_schemaPlan hintent List.mem_cons_self)
  obtain ⟨hrelative, _⟩ := SchemaFile.isRelative_of_fault?_eq_none htext hok hpath
    ((sound_of_assembleEnvironment h).faultless artifact hartifact)
  obtain ⟨_, hpath', _, hplace⟩ := SchemaFile.components_path_of_isRelative htext hok hrelative
  obtain ⟨samples, hsamples, _, hsamplesPlace⟩ :=
    SchemaFile.components_path_of_isRelative htext hok (SchemaFile.isRelative_samples hrelative)
  obtain rfl := Except.ok.inj (hpath.symm.trans hpath')
  refine ⟨directory, hok, ⟨artifact, hartifact, ?_, hplace⟩, samples, hsamples, hsamplesPlace⟩
  obtain ⟨id, rfl⟩ := SchemaDocument.exists_of_map_eq_intent hplan
  rw [hdocument]
  exact textAt?_name_intentDocument _ _ id

/-- Samples of intents share a place only if the intents are one. -/
theorem eq_of_samples_place
    (h : (definition.assembleEnvironment config fresh first environment).result = .ok set)
    (hintent : intent ∈ definition.intentsFor config.platform (some environment))
    (hother : other ∈ definition.intentsFor config.platform (some environment))
    {place place' : Path}
    (hplace : (SchemaFile.samples intent.name).path config.layout environment = .ok place)
    (hplace' : (SchemaFile.samples other.name).path config.layout environment = .ok place')
    (hsame : place.components = place'.components) : intent = other := by
  obtain ⟨directory, hok, ⟨artifact, hartifact, hname, hartifactPlace⟩, _, hpath, hcomponents⟩ :=
    exists_intent_places h hintent
  obtain ⟨_, hok', ⟨artifact', hartifact', hname', hartifactPlace'⟩, _, hpath', hcomponents'⟩ :=
    exists_intent_places h hother
  obtain rfl := Except.ok.inj (hok.symm.trans hok')
  obtain rfl := Except.ok.inj (hplace.symm.trans hpath)
  obtain rfl := Except.ok.inj (hplace'.symm.trans hpath')
  -- the definitions of the intents share a place as well, which only one artifact can have
  have hsteps : Path.steps (SchemaFile.samples intent.name).fileName =
      Path.steps (SchemaFile.samples other.name).fileName := by
    rw [hcomponents, hcomponents', List.append_cancel_left_eq, List.cons.injEq] at hsame
    exact hsame.2
  have hartifacts : artifact.path.components = artifact'.path.components := by
    rw [hartifactPlace, hartifactPlace', SchemaFile.steps_intent_of_samples hsteps]
  obtain rfl := List.inj_on_of_nodup_map (sound_of_assembleEnvironment h).apart hartifact hartifact'
    hartifacts
  exact List.inj_on_of_nodup_map (definition.nodup_names_intentsFor _ _) hintent hother
    (Option.some.inj (hname.symm.trans hname'))

/-- References at the place of an intent's samples are references in its samples: whatever else may
lie there, if the intent has no samples, does not refer to slots. -/
theorem mem_references_of_documentOf?
    (h : (definition.assembleEnvironment config fresh first environment).result = .ok set)
    (hintent : intent ∈ definition.intentsFor config.platform (some environment))
    {samples : Document} {reference : String × String}
    (hsamples : set.documentOf? config.layout environment (.samples intent.name) = some samples)
    (href : reference ∈ samples.references) :
    reference ∈ (SchemaDocument.samples
      (compileSamples config intent (definition.samplesOf intent.name))).references := by
  obtain ⟨place, artifact, hplace, hget, rfl⟩ := ArtifactSet.documentOf?_eq_some_iff.1 hsamples
  obtain ⟨hartifact, hsame⟩ := ArtifactSet.mem_of_get?_eq_some hget
  obtain ⟨d, hd, hpath, hdocument⟩ := (mem_artifacts_of_assembleEnvironment h).1 hartifact
  have hplan : (d.1, d.2.map anonymous) ∈ definition.schemaPlan config environment := by
    rw [← definition.map_anonymous_schemaDocuments config fresh first environment]
    exact List.mem_map_of_mem hd
  rw [hdocument, SchemaDocument.references_toDocument,
    ← SchemaDocument.references_map anonymous] at href
  obtain ⟨other, hother, hfile⟩ := exists_intent_of_mem_references hplan href
  obtain ⟨hfile, hcompiled⟩ := Prod.mk.injEq .. ▸ hfile
  rw [hfile] at hpath
  rw [hcompiled] at href
  rwa [eq_of_samples_place h hintent hother hplace hpath hsame.symm]

end Intents

/-! ## What references lead to -/

/-- A reference in the samples of an intent leads to what it names. The definition of the intent has
a parameter of the slot's name, and the first one has the type that is referred to (`parameter`).
The name stands for a slot, and the reference names the entity of that slot's type. If the
definition has values under a key of that name, the schema has the entity and its entries
(`entity`). -/
structure Resolves (definition : Definition) (config : BuildConfig) (environment : String)
    (set : ArtifactSet) (intent : Intent) (declaration : Document)
    (reference : String × String) : Prop where
  parameter : ∃ parameter, declaration.parameter? reference.2 = some parameter ∧
    parameter.textAt? "dataType" = some reference.1
  entity : ∃ slot, StandsFor intent config.platform reference.2 slot ∧
    reference.1 = "@" ++ kebabCase slot.slotType ∧
    ∀ key values, (key, values) ∈ definition.slots.entries → kebabCase key ≠ "" →
      kebabCase slot.slotType = kebabCase key →
      ∃ entity name,
        set.documentOf? config.layout environment (.entity slot.slotType) = some entity ∧
        entity.textAt? "name" = some name ∧ reference.1 = "@" ++ name ∧
        set.documentOf? config.layout environment (.entries slot.slotType) =
          some (entriesDocument values.names)

/-- Values under a key give an entity of its name, and entries. -/
theorem exists_entity
    (h : (definition.assembleEnvironment config fresh first environment).result = .ok set)
    {key slotType : String} {values : SlotValues}
    (hvalues : (key, values) ∈ definition.slots.entries)
    (hkey : kebabCase key ≠ "") (hname : kebabCase slotType = kebabCase key) :
    ∃ entity, set.documentOf? config.layout environment (.entity slotType) = some entity ∧
      entity.textAt? "name" = some (kebabCase slotType) ∧
      set.documentOf? config.layout environment (.entries slotType) =
        some (entriesDocument values.names) := by
  have hslot : (key, values) ∈ definition.entitySlots :=
    List.mem_filter.2 ⟨hvalues, bne_iff_ne.2 hkey⟩
  have hentity : (SchemaFile.entity slotType).path config.layout environment =
      (SchemaFile.entity key).path config.layout environment := by
    rw [SchemaFile.path, SchemaFile.path, Layout.entityDefinition, Layout.entityDefinition, hname]
  have hentries : (SchemaFile.entries slotType).path config.layout environment =
      (SchemaFile.entries key).path config.layout environment := by
    rw [SchemaFile.path, SchemaFile.path, Layout.entityEntries, Layout.entityEntries, hname]
  obtain ⟨document, hplan, hdocument⟩ :=
    exists_documentOf? h (entityFiles_subset_schemaPlan hslot List.mem_cons_self)
  obtain ⟨id, rfl⟩ := SchemaDocument.exists_of_map_eq_entity hplan
  obtain ⟨document', hplan', hdocument'⟩ := exists_documentOf? h
    (entityFiles_subset_schemaPlan hslot (List.mem_cons_of_mem _ (List.mem_singleton_self _)))
  obtain rfl := SchemaDocument.eq_of_map_eq_entries hplan'
  refine ⟨entityDocument (kebabCase key) id, ?_, ?_, ?_⟩
  · rw [ArtifactSet.documentOf?, hentity]
    exact hdocument
  · rw [hname]
    exact textAt?_name_entityDocument _ id
  · rw [ArtifactSet.documentOf?, hentries]
    exact hdocument'

/-- **References to slots lead somewhere.** In a schema that was assembled every intent has its
definition, and its samples if there are some; and whatever these refer to, the definition has as a
parameter and the schema, where it has values for the slot, as an entity with entries. -/
theorem references_resolve (definition : Definition) (config : BuildConfig) (fresh : Nat → Uuid)
    (first : Nat) (environment : String) (set : ArtifactSet)
    (h : (definition.assembleEnvironment config fresh first environment).result = .ok set)
    (intent : Intent)
    (hintent : intent ∈ definition.intentsFor config.platform (some environment)) :
    ∃ declaration,
      set.documentOf? config.layout environment (.intent intent.name) = some declaration ∧
      (definition.mergedSamples intent.name ≠ [] → ∃ samples,
        set.documentOf? config.layout environment (.samples intent.name) = some samples) ∧
      ∀ samples,
        set.documentOf? config.layout environment (.samples intent.name) = some samples →
        ∀ reference ∈ samples.references,
          definition.Resolves config environment set intent declaration reference := by
  obtain ⟨document, hplan, hdeclaration⟩ :=
    exists_documentOf? h (intentFiles_subset_schemaPlan hintent List.mem_cons_self)
  obtain ⟨id, rfl⟩ := SchemaDocument.exists_of_map_eq_intent hplan
  refine ⟨_, hdeclaration, ?_, ?_⟩
  · intro hmerged
    obtain ⟨samples, _, hsamples⟩ :=
      exists_documentOf? h (samples_mem_schemaPlan hintent hmerged)
    exact ⟨_, hsamples⟩
  · intro samples hsamples reference href
    obtain ⟨slot, hstands, hreference⟩ :=
      standsFor_of_mem_references (mem_references_of_documentOf? h hintent hsamples href)
    constructor
    · -- the parameters are the slots among which the name was looked up
      refine ⟨slot.parameter.document, ?_, ?_⟩
      · rw [SchemaDocument.toDocument, parameter?_intentDocument, find?_parameters,
          Intent.slot?_eq_some_iff.2 hstands]
        rfl
      · rw [hreference]
        exact slot.parameter.textAt?_dataType
    · refine ⟨slot, hstands, hreference, ?_⟩
      intro key values hvalues hkey hname
      obtain ⟨entity, hentity, hentityName, hentries⟩ := exists_entity h hvalues hkey hname
      exact ⟨entity, _, hentity, hentityName, hreference, hentries⟩

/-- Flights to a city, of which some are known. -/
def cityFlights : Definition :=
  { empty with
    intents := [⟨"BookFlight", [], [], [⟨"city", "City", []⟩]⟩]
    slots := Dict.ofList [("City", .ofList [⟨"paris", []⟩])]
    utterances := Dict.ofList [("BookFlight", ["fly to \x7bcity\x7d"])] }

/-- A flight to a city refers to the slot, its parameter and its entity. -/
theorem references_resolve_cityFlights :
    ∃ set declaration samples,
      (cityFlights.assembleEnvironment usEnglish (Uuid.generated 0) 0 "alpha").result = .ok set ∧
      set.documentOf? usEnglish.layout "alpha" (.samples "BookFlight") = some samples ∧
      ("@city", "city") ∈ samples.references ∧
      cityFlights.Resolves usEnglish "alpha" set ⟨"BookFlight", [], [], [⟨"city", "City", []⟩]⟩
        declaration ("@city", "city") := by
  have hok : (cityFlights.assembleEnvironment usEnglish (Uuid.generated 0) 0
      "alpha").result.isOk = true := by decide +kernel
  obtain ⟨set, hset⟩ := exists_ok_of_isOk hok
  obtain ⟨document, hplan, hsamples⟩ := exists_documentOf? hset
    (show (.samples "BookFlight", .samples (compileSamples usEnglish
        ⟨"BookFlight", [], [], [⟨"city", "City", []⟩]⟩ ["fly to \x7bcity\x7d"])) ∈
      cityFlights.schemaPlan usEnglish "alpha" by decide +kernel)
  have href : ("@city", "city") ∈ document.toDocument.references := by
    rw [SchemaDocument.references_toDocument, ← SchemaDocument.references_map anonymous, hplan]
    decide +kernel
  obtain ⟨declaration, _, _, hresolve⟩ :=
    references_resolve cityFlights usEnglish (Uuid.generated 0) 0 "alpha" set hset
      ⟨"BookFlight", [], [], [⟨"city", "City", []⟩]⟩ (by decide)
  exact ⟨set, declaration, _, hset, hsamples, href, hresolve _ hsamples _ href⟩

end Definition

end VoiceSkill
