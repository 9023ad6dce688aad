import VoiceSkill.Proofs.Assembly.Environment
import VoiceSkill.Proofs.Assembly.Sound

/-!
# The whole of an assembly

The plans of all environments, one after the other, are the plan of a whole assembly
(`Definition.wholePlan`). Its identifiers are dealt out in one go: the numbers of an environment
follow those of the environments before it. What was assembled is this plan with its identifiers,
document by document (`forall₂_artifacts_of_assemble`).
-/

namespace VoiceSkill

/-- A file of the schema of an environment. -/
structure PlannedFile where
  environment : String
  file : SchemaFile
deriving DecidableEq, Repr

/-- The path of the file. -/
def PlannedFile.path (layout : Layout) (planned : PlannedFile) : Except BuildError Path :=
  planned.file.path layout planned.environment

namespace Definition

/-- The files of the schemas of several environments, with what they hold but for identifiers. -/
def wholePlan (definition : Definition) (config : BuildConfig) (invocations : List Invocation) :
    List (PlannedFile × SchemaDocument Unit) :=
  invocations.flatMap fun invocation =>
    (definition.schemaPlan config invocation.environment).map fun d =>
      (⟨invocation.environment, d.1⟩, d.2)

/-- The plan of several environments with its identifiers. -/
def wholeDocuments (definition : Definition) (config : BuildConfig) (fresh : Nat → Uuid)
    (first : Nat) (invocations : List Invocation) : List (PlannedFile × SchemaDocument Uuid) :=
  (numberDocuments first (definition.wholePlan config invocations)).map fun d =>
    (d.1, d.2.map fresh)

/-- The files that a definition is assembled to, in their order. -/
def wholeFiles (definition : Definition) (config : BuildConfig) : List PlannedFile :=
  definition.invocations.flatMap fun invocation =>
    (definition.schemaFiles config invocation.environment).map (.mk invocation.environment)

variable (definition : Definition) (config : BuildConfig) (fresh : Nat → Uuid) (first : Nat)
  (invocations : List Invocation)

theorem wholePlan_cons (invocation : Invocation) :
    definition.wholePlan config (invocation :: invocations) =
      ((definition.schemaPlan config invocation.environment).map fun d =>
        (⟨invocation.environment, d.1⟩, d.2)) ++ definition.wholePlan config invocations :=
  List.flatMap_cons

theorem map_anonymous_wholeDocuments :
    (definition.wholeDocuments config fresh first invocations).map
      (fun d => (d.1, d.2.map anonymous)) = definition.wholePlan config invocations :=
  map_anonymous_map_numberDocuments fresh first _

theorem map_fst_wholeDocuments :
    (definition.wholeDocuments config fresh first definition.invocations).map Prod.fst =
      definition.wholeFiles config := by
  have hplan : (definition.wholePlan config definition.invocations).map Prod.fst =
      definition.wholeFiles config := by
    rw [wholePlan, wholeFiles, List.map_flatMap]
    refine List.flatMap_congr fun invocation _ => ?_
    rw [← map_fst_schemaPlan, List.map_map, List.map_map]
    rfl
  rw [← hplan, ← definition.map_anonymous_wholeDocuments config fresh first, List.map_map]
  rfl

/-! ## Identifiers -/

/-- The schema of an environment needs as many identifiers as its plan has places for them. -/
theorem idCount_eq_length (environment : String) :
    definition.idCount config environment =
      ((definition.schemaPlan config environment).flatMap fun d => d.2.ids).length := by
  have hids (steps : List (Step Unit)) :
      steps.flatMap Step.ids = (steps.filterMap Step.placed?).flatMap fun d => d.2.ids := by
    induction steps with
    | nil => rfl
    | cons step rest ih =>
        cases step with
        | note event => exact ih
        | place path document => exact congrArg (document.ids ++ ·) ih
  rw [idCount, hids, filterMap_placed?_schemaSteps, List.flatMap_map]

/-- How many identifiers a definition is assembled with. -/
def wholeIdCount : Nat :=
  ((definition.wholePlan config definition.invocations).flatMap fun d => d.2.ids).length

/-- **The identifiers of a whole assembly are dealt out one after the other.** -/
theorem ids_wholeDocuments :
    ((definition.wholeDocuments config fresh 0 definition.invocations).flatMap fun d => d.2.ids) =
      (List.range (definition.wholeIdCount config)).map fresh := by
  rw [wholeIdCount, List.range_eq_range', ← ids_numberDocuments, wholeDocuments, List.flatMap_map,
    List.map_flatMap]
  exact List.flatMap_congr fun d _ => d.2.ids_map fresh

/-- The numbers of an environment follow those of the environments before it. -/
theorem wholeDocuments_cons (invocation : Invocation) :
    definition.wholeDocuments config fresh first (invocation :: invocations) =
      ((definition.schemaDocuments config fresh first invocation.environment).map fun d =>
        (⟨invocation.environment, d.1⟩, d.2)) ++
      definition.wholeDocuments config fresh
        (first + definition.idCount config invocation.environment) invocations := by
  rw [wholeDocuments, wholePlan_cons, numberDocuments_append, List.map_append, List.flatMap_map,
    ← idCount_eq_length, numberDocuments_map (PlannedFile.mk invocation.environment),
    schemaDocuments, List.map_map, List.map_map]
  rfl

end Definition

/-! ## Artifacts -/

/-- An artifact lies at the path of a planned file and holds its document. -/
structure IsArtifactOf (layout : Layout) (d : PlannedFile × SchemaDocument Uuid)
    (artifact : Artifact) : Prop where
  path : d.1.path layout = .ok artifact.path
  document : artifact.document = d.2.toDocument

theorem map_document_artifacts {layout : Layout}
    {documents : List (PlannedFile × SchemaDocument Uuid)} {artifacts : List Artifact}
    (h : List.Forall₂ (IsArtifactOf layout) documents artifacts) :
    artifacts.map Artifact.document = documents.map fun d => d.2.toDocument := by
  rw [← List.forall₂_eq_eq_eq, List.forall₂_map_left_iff, List.forall₂_map_right_iff]
  exact h.flip.imp fun _ _ hpair => hpair.document

/-- What is collected from planned files and their artifacts is what their documents give. -/
theorem flatMap_zip_artifacts {α : Type} {layout : Layout}
    {documents : List (PlannedFile × SchemaDocument Uuid)} {artifacts : List Artifact}
    (h : List.Forall₂ (IsArtifactOf layout) documents artifacts)
    (g : PlannedFile → Document → List α) :
    (((documents.map Prod.fst).zip artifacts).flatMap fun p => g p.1 p.2.document) =
      documents.flatMap fun d => g d.1 d.2.toDocument := by
  induction h with
  | nil => rfl
  | cons hpair _ ih =>
      rw [List.map_cons, List.zip_cons_cons, List.flatMap_cons, List.flatMap_cons, ih,
        hpair.document]

namespace Definition

variable {definition : Definition} {config : BuildConfig} {fresh : Nat → Uuid} {first : Nat}
  {environment : String} {invocations : List Invocation} {set set' : ArtifactSet}

theorem forall₂_artifacts_of_assembleEnvironment
    (h : (definition.assembleEnvironment config fresh first environment).result = .ok set) :
    List.Forall₂ (IsArtifactOf config.layout)
      ((definition.schemaDocuments config fresh first environment).map fun d =>
        (⟨environment, d.1⟩, d.2)) set.artifacts := by
  have hpairs := (artifacts_of_assembleEnvironment h).symm
  rw [← List.forall₂_eq_eq_eq, List.forall₂_map_left_iff, List.forall₂_map_right_iff] at hpairs
  rw [List.forall₂_map_left_iff]
  refine hpairs.imp fun d artifact hpair => ?_
  obtain ⟨hpath, hdocument⟩ := SchemaFile.artifact_eq_ok_iff.1 hpair
  exact ⟨hpath, hdocument⟩

/-- What a run adds are the documents of its plan, one by one. -/
theorem exists_artifacts_of_assembleEach
    (h : (definition.assembleEach config fresh first set invocations).result = .ok set') :
    ∃ added, set'.artifacts = set.artifacts ++ added ∧
      List.Forall₂ (IsArtifactOf config.layout)
        (definition.wholeDocuments config fresh first invocations) added := by
  induction invocations generalizing first set with
  | nil =>
      cases h
      exact ⟨[], (List.append_nil _).symm, .nil⟩
  | cons invocation rest ih =>
      obtain ⟨part, next, hpart, hnext, hrest⟩ := assembleEach_cons_eq_ok_iff.1 h
      obtain rfl := ArtifactSet.eq_of_foldlM_add_map_ok hnext
      obtain ⟨added, hadded, hpairs⟩ := ih hrest
      refine ⟨part.artifacts ++ added, ?_, ?_⟩
      · rw [hadded, List.append_assoc]
      · rw [wholeDocuments_cons]
        exact List.rel_append (forall₂_artifacts_of_assembleEnvironment hpart) hpairs

/-- **What is assembled are the documents of the whole plan, one by one.** -/
theorem forall₂_artifacts_of_assemble (h : (definition.assemble config fresh).result = .ok set) :
    List.Forall₂ (IsArtifactOf config.layout)
      (definition.wholeDocuments config fresh 0 definition.invocations) set.artifacts := by
  obtain ⟨added, hadded, hpairs⟩ := exists_artifacts_of_assembleEach (assemble_eq_ok_iff.1 h)
  rw [hadded]
  exact hpairs

/-- So the artifacts lie at the paths of the files. -/
theorem forall₂_wholeFiles (h : (definition.assemble config fresh).result = .ok set) :
    List.Forall₂ (fun planned artifact => planned.path config.layout = .ok artifact.path)
      (definition.wholeFiles config) set.artifacts := by
  rw [← map_fst_wholeDocuments definition config fresh 0, List.forall₂_map_left_iff]
  exact (forall₂_artifacts_of_assemble h).imp fun _ _ hpair => hpair.path

theorem paths_of_assemble (h : (definition.assemble config fresh).result = .ok set) :
    set.paths.map .ok = (definition.wholeFiles config).map (PlannedFile.path config.layout) := by
  rw [← List.forall₂_eq_eq_eq, ArtifactSet.paths, List.map_map, List.forall₂_map_left_iff,
    List.forall₂_map_right_iff]
  exact (forall₂_wholeFiles h).flip.imp fun _ _ hpath => hpath.symm

end Definition

end VoiceSkill
