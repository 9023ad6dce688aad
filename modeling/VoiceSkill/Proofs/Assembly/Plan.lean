import VoiceSkill.Assembly
import VoiceSkill.Proofs.Assembly.Identifiers
import VoiceSkill.Proofs.Assembly.Placing
import VoiceSkill.Proofs.Layout

/-!
# The plan of a schema

A definition says which files the schema of an environment consists of, in which order, and what
they hold but for identifiers: its plan (`schemaPlan`). Assembling a schema adds the documents of
the plan one after the other, with their identifiers (`result_assembleEnvironment_eq`); the events
on the way change nothing about them.
-/

namespace VoiceSkill

/-! ## The plan -/

/-- The two files for a collection of slot values. -/
def entityFiles (slot : String × SlotValues) : List (SchemaFile × SchemaDocument Unit) :=
  [(.entity slot.1, .entity (kebabCase slot.1) ()), (.entries slot.1, .entries slot.2.names)]

/-- The file for an intent, and the one for its samples if there are some. -/
def intentFiles (config : BuildConfig) (intent : Intent) (samples : List String) :
    List (SchemaFile × SchemaDocument Unit) :=
  (.intent intent.name, .intent intent.name (intent.parameters config.platform) ()) ::
    if mergeSamples intent.name samples = [] then []
    else [(.samples intent.name, .samples (compileSamples config intent samples))]

namespace Definition

/-- The collections of slot values whose keys have usable characters. -/
def entitySlots (definition : Definition) : List (String × SlotValues) :=
  definition.slots.entries.filter fun slot => kebabCase slot.1 != ""

/-- The files of the schema of an environment, with what they hold but for identifiers. -/
def schemaPlan (definition : Definition) (config : BuildConfig) (environment : String) :
    List (SchemaFile × SchemaDocument Unit) :=
  definition.entitySlots.flatMap entityFiles ++
    ((definition.intentsFor config.platform (some environment)).flatMap fun intent =>
      intentFiles config intent (definition.samplesOf intent.name)) ++
    [(.agent, .agent), (.package, .package)]

/-- The plan with its identifiers. -/
def schemaDocuments (definition : Definition) (config : BuildConfig) (fresh : Nat → Uuid)
    (first : Nat) (environment : String) : List (SchemaFile × SchemaDocument Uuid) :=
  (numberDocuments first (definition.schemaPlan config environment)).map fun d =>
    (d.1, d.2.map fresh)

theorem map_anonymous_schemaDocuments (definition : Definition) (config : BuildConfig)
    (fresh : Nat → Uuid) (first : Nat) (environment : String) :
    (definition.schemaDocuments config fresh first environment).map
      (fun d => (d.1, d.2.map anonymous)) = definition.schemaPlan config environment :=
  map_anonymous_map_numberDocuments fresh first _

/-- Of a configuration the plan reads the platform alone. -/
theorem schemaPlan_congr (definition : Definition) {config config' : BuildConfig}
    (h : config.platform = config'.platform) (environment : String) :
    definition.schemaPlan config environment = definition.schemaPlan config' environment := by
  have hsample : compileSample config = compileSample config' := by
    funext intent sample
    rw [compileSample, compileSample, h]
  have hfiles : intentFiles config = intentFiles config' := by
    funext intent samples
    rw [intentFiles, intentFiles, compileSamples, compileSamples, hsample, h]
  rw [schemaPlan, schemaPlan, hfiles, h]

/-- Documents of one plan are the same but for their identifiers. -/
theorem forall₂_of_schemaPlan_eq {definition other : Definition} {config config' : BuildConfig}
    {environment : String}
    (h : definition.schemaPlan config environment = other.schemaPlan config' environment)
    (fresh fresh' : Nat → Uuid) (first first' : Nat) :
    List.Forall₂ (fun d e => d.1 = e.1 ∧ d.2.map anonymous = e.2.map anonymous)
      (definition.schemaDocuments config fresh first environment)
      (other.schemaDocuments config' fresh' first' environment) := by
  have hplan := (definition.map_anonymous_schemaDocuments config fresh first environment).trans
    (h.trans (other.map_anonymous_schemaDocuments config' fresh' first' environment).symm)
  rw [← List.forall₂_eq_eq_eq, List.forall₂_map_left_iff, List.forall₂_map_right_iff] at hplan
  exact hplan.imp fun _ _ hpair => Prod.mk.injEq .. ▸ hpair

/-- So are the documents of one definition for one platform. -/
theorem forall₂_schemaDocuments (definition : Definition) {config config' : BuildConfig}
    (h : config.platform = config'.platform) (fresh fresh' : Nat → Uuid) (first first' : Nat)
    (environment : String) :
    List.Forall₂ (fun d e => d.1 = e.1 ∧ d.2.map anonymous = e.2.map anonymous)
      (definition.schemaDocuments config fresh first environment)
      (definition.schemaDocuments config' fresh' first' environment) :=
  forall₂_of_schemaPlan_eq (definition.schemaPlan_congr h environment) fresh fresh' first first'

end Definition

/-- The artifact of a document, if its file has a path. -/
def SchemaFile.artifact (layout : Layout) (environment : String)
    (d : SchemaFile × SchemaDocument Uuid) : Except BuildError Artifact :=
  (d.1.path layout environment).map fun path => ⟨path, d.2.toDocument⟩

theorem SchemaFile.artifact_eq_ok_iff {layout : Layout} {environment : String}
    {d : SchemaFile × SchemaDocument Uuid} {artifact : Artifact} :
    SchemaFile.artifact layout environment d = .ok artifact ↔
      d.1.path layout environment = .ok artifact.path ∧ artifact.document = d.2.toDocument := by
  rw [SchemaFile.artifact]
  cases d.1.path layout environment with
  | error e => simp [Except.map]
  | ok path =>
      cases artifact
      simp [Except.map, eq_comm]

/-! ## Steps and files -/

namespace Step

variable {ι κ : Type}

/-- What a step places, and where. -/
def placed? : Step ι → Option (Except BuildError Path × SchemaDocument ι)
  | note _ => none
  | place path document => some (path, document)

theorem filterMap_placed?_map (f : ι → κ) (steps : List (Step ι)) :
    (steps.map (map f)).filterMap placed? =
      (steps.filterMap placed?).map fun d => (d.1, d.2.map f) := by
  induction steps with
  | nil => rfl
  | cons step rest ih =>
      cases step with
      | note event => exact ih
      | place path document => exact congrArg ((path, document.map f) :: ·) ih

theorem filterMap_placed?_numberAll (first : Nat) (steps : List (Step ι)) :
    (numberAll first steps).filterMap placed? =
      numberDocuments first (steps.filterMap placed?) := by
  induction steps generalizing first with
  | nil => rfl
  | cons step rest ih =>
      cases step with
      -- an event takes no number
      | note event => exact ih (first + 0)
      | place path document =>
          show (path, document.number first) :: (numberAll _ rest).filterMap placed? = _
          rw [ih]
          rfl

/-- The artifact that a step adds, if its path is sound. -/
def artifact (d : Except BuildError Path × SchemaDocument Uuid) : Except BuildError Artifact :=
  d.1.map fun path => ⟨path, d.2.toDocument⟩

theorem result_run_place (set : ArtifactSet) (path : Except BuildError Path)
    (document : SchemaDocument Uuid) :
    (run set (place path document)).result = set.add (artifact (path, document)) := by
  cases path <;> rfl

/-- **Steps come down to adding what they place.** -/
theorem result_foldlM_run (set : ArtifactSet) (steps : List (Step Uuid)) :
    (steps.foldlM run set).result =
      ((steps.filterMap placed?).map artifact).foldlM ArtifactSet.add set := by
  induction steps generalizing set with
  | nil => rfl
  | cons step rest ih =>
      rw [List.foldlM_cons, Logged.result_bind]
      cases step with
      | note event => exact ih set
      | place path document =>
          show _ = (artifact (path, document) :: _).foldlM ArtifactSet.add set
          rw [List.foldlM_cons, result_run_place]
          congr 1
          funext next
          exact ih next

end Step

theorem filterMap_placed?_note (events : List Event) :
    (events.map (Step.note (ι := Unit))).filterMap Step.placed? = [] := by
  induction events with
  | nil => rfl
  | cons event rest ih => exact ih

variable {config : BuildConfig} {environment : String}

theorem filterMap_placed?_slotSteps (slots : List (String × SlotValues)) :
    (slots.flatMap fun slot => slotSteps config.layout environment slot.1 slot.2).filterMap
        Step.placed? =
      ((slots.filter fun slot => kebabCase slot.1 != "").flatMap entityFiles).map fun d =>
        (d.1.path config.layout environment, d.2) := by
  induction slots with
  | nil => rfl
  | cons slot rest ih =>
      rw [List.flatMap_cons, List.filterMap_append, ih]
      by_cases hkey : kebabCase slot.1 = ""
      · rw [slotSteps, if_pos hkey, List.filter_cons_of_neg (by simp [hkey])]
        rfl
      · rw [slotSteps, if_neg hkey, List.filter_cons_of_pos (by simp [hkey]), List.flatMap_cons,
          List.map_append]
        rfl

theorem filterMap_placed?_intentSteps (intent : Intent) (samples : List String) :
    (intentSteps config environment intent samples).filterMap Step.placed? =
      (intentFiles config intent samples).map fun d =>
        (d.1.path config.layout environment, d.2) := by
  -- every sample compiles to an utterance, so there are none only where there are no samples
  have hempty : (compileSamples config intent samples).isEmpty = true ↔
      mergeSamples intent.name samples = [] := by
    rw [List.isEmpty_iff, compileSamples, List.map_eq_nil_iff]
  rw [intentSteps, intentFiles, List.cons_append, List.filterMap_cons, List.filterMap_append,
    filterMap_placed?_note]
  by_cases hsamples : mergeSamples intent.name samples = []
  · rw [if_pos (hempty.2 hsamples), if_pos hsamples]
    rfl
  · rw [if_neg (fun h => hsamples (hempty.1 h)), if_neg hsamples]
    rfl

namespace Definition

theorem filterMap_placed?_schemaSteps (definition : Definition) (config : BuildConfig)
    (environment : String) :
    (definition.schemaSteps config environment).filterMap Step.placed? =
      (definition.schemaPlan config environment).map fun d =>
        (d.1.path config.layout environment, d.2) := by
  rw [schemaSteps, schemaPlan, List.filterMap_append, List.filterMap_append,
    List.filterMap_append, filterMap_placed?_slotSteps, filterMap_placed?_note,
    List.filterMap_flatMap, List.append_nil, List.map_append, List.map_append]
  simp only [filterMap_placed?_intentSteps, List.map_flatMap]
  rfl

/-- **Assembling a schema adds the documents of its plan one after the other.** -/
theorem result_assembleEnvironment_eq (definition : Definition) (config : BuildConfig)
    (fresh : Nat → Uuid) (first : Nat) (environment : String) :
    (definition.assembleEnvironment config fresh first environment).result =
      ((definition.schemaDocuments config fresh first environment).map
        (SchemaFile.artifact config.layout environment)).foldlM ArtifactSet.add .empty := by
  have hplaced : ((Step.numberAll first (definition.schemaSteps config environment)).map
      (Step.map fresh)).filterMap Step.placed? =
      (definition.schemaDocuments config fresh first environment).map fun d =>
        (d.1.path config.layout environment, d.2) := by
    rw [Step.filterMap_placed?_map, Step.filterMap_placed?_numberAll,
      filterMap_placed?_schemaSteps, numberDocuments_map, schemaDocuments, List.map_map,
      List.map_map]
    rfl
  rw [assembleEnvironment, Logged.result_bind, Step.result_foldlM_run, hplaced, List.map_map]
  -- what is reported at the end leaves the artifacts as they are
  exact bind_pure _

end Definition

end VoiceSkill
