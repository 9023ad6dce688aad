import VoiceSkill.Proofs.Assembly.Containment

/-!
# The schemas of several environments

A definition asks for any number of environments, and their schemas are assembled into one set. That
succeeds exactly if each of them can be assembled and no two environments share a directory, and
then the set holds the schemas one after the other (`assemble_concatenates`). Identifiers are dealt
out anew in every assembly, but neither the outcome nor a path nor anything else in a document
depends on them (`exists_alike`).
-/

namespace VoiceSkill

/-- Two artifacts that differ in their identifiers at most: they lie at the same path, and hold what
is one and the same document of a schema but for identifiers. -/
def Artifact.Alike (a b : Artifact) : Prop :=
  a.path = b.path ∧ ∃ d e : SchemaDocument Uuid, d.map anonymous = e.map anonymous ∧
    a.document = d.toDocument ∧ b.document = e.toDocument

/-- Two environments do not share a directory. -/
def DirectoriesApart (layout : Layout) (environment other : String) : Prop :=
  ∀ directory second, layout.environmentDirectory environment = .ok directory →
    layout.environmentDirectory other = .ok second → directory.sameAs second = false

theorem exists_mem_of_forall₂ {α β : Type} {R : α → β → Prop} {as : List α} {bs : List β}
    (h : List.Forall₂ R as bs) {a : α} (ha : a ∈ as) : ∃ b ∈ bs, R a b := by
  induction h with
  | nil => cases ha
  | cons hab _ ih =>
      rcases List.mem_cons.1 ha with rfl | ha
      · exact ⟨_, List.mem_cons_self, hab⟩
      · obtain ⟨b, hb, hab⟩ := ih ha
        exact ⟨b, List.mem_cons_of_mem _ hb, hab⟩

theorem forall_exists_of_forall₂ {α β : Type} {R : α → β → Prop} {as : List α} {bs : List β}
    (h : List.Forall₂ R as bs) : ∀ a ∈ as, ∃ b, R a b := by
  intro a ha
  obtain ⟨b, _, hab⟩ := exists_mem_of_forall₂ h ha
  exact ⟨b, hab⟩

/-- Whether a set is sound depends on its paths alone. -/
theorem ArtifactSet.Sound.of_paths_eq {set other : ArtifactSet} (h : set.Sound)
    (hpaths : other.paths = set.paths) : other.Sound := by
  constructor
  · intro artifact hartifact
    have hpath : artifact.path ∈ set.paths := hpaths ▸ List.mem_map_of_mem hartifact
    obtain ⟨original, horiginal, hsame⟩ := List.mem_map.1 hpath
    rw [← hsame]
    exact h.faultless original horiginal
  · have hplaces : other.places = set.places := by
      have hcomponents := congrArg (List.map Path.components) hpaths
      rwa [paths, paths, List.map_map, List.map_map] at hcomponents
    rw [hplaces]
    exact h.apart

namespace Definition

variable {definition : Definition} {config : BuildConfig} {fresh : Nat → Uuid} {first : Nat}
  {environment other : String} {invocations : List Invocation} {set set' : ArtifactSet}

/-! ## Identifiers do not matter -/

/-- The paths of a schema are those of the files of its plan. -/
theorem paths_of_assembleEnvironment
    (h : (definition.assembleEnvironment config fresh first environment).result = .ok set) :
    set.paths.map .ok = (definition.schemaFiles config environment).map
      (SchemaFile.path config.layout environment) :=
  map_path_of_schemaPlan (definition.map_anonymous_schemaDocuments config fresh first environment)
    (artifacts_of_assembleEnvironment h)

/-- With other identifiers the documents of a plan give artifacts at the same paths. -/
theorem exists_artifacts_of_ok
    (h : (definition.assembleEnvironment config fresh first environment).result = .ok set)
    (fresh' : Nat → Uuid) (first' : Nat) :
    ∃ artifacts : List Artifact,
      artifacts.map .ok = (definition.schemaDocuments config fresh' first' environment).map
        (SchemaFile.artifact config.layout environment) ∧
      artifacts.map Artifact.path = set.paths := by
  have hfiles := map_fst_schemaDocuments definition config fresh' first' environment
  have hrange : (definition.schemaDocuments config fresh' first' environment).map
      (SchemaFile.artifact config.layout environment) ∈
        Set.range (List.map (Except.ok (ε := BuildError))) := by
    rw [Set.range_list_map]
    refine List.forall_mem_map.2 fun d hd => ?_
    have hfile : d.1 ∈ definition.schemaFiles config environment :=
      hfiles ▸ List.mem_map_of_mem hd
    obtain ⟨artifact, _, hpath⟩ := exists_artifact_of_mem_schemaFiles h hfile
    have hok : SchemaFile.artifact config.layout environment d =
        .ok ⟨artifact.path, d.2.toDocument⟩ := SchemaFile.artifact_eq_ok_iff.2 ⟨hpath, rfl⟩
    exact ⟨_, hok.symm⟩
  obtain ⟨artifacts, hartifacts⟩ := hrange
  refine ⟨artifacts, hartifacts, ?_⟩
  -- both rows of paths are those of the files
  have hsame := map_path_of_schemaPlan
    (definition.map_anonymous_schemaDocuments config fresh' first' environment) hartifacts
  have hpaths := paths_of_assembleEnvironment h
  exact (List.map_inj_right fun _ _ => Except.ok.inj).1 (hsame.trans hpaths.symm)

/-- **Identifiers decide nothing.** If the schema of an environment can be assembled with some
identifiers, it can be with any others, and is the same but for them. -/
theorem exists_alike
    (h : (definition.assembleEnvironment config fresh first environment).result = .ok set)
    (fresh' : Nat → Uuid) (first' : Nat) :
    ∃ set', (definition.assembleEnvironment config fresh' first' environment).result = .ok set' ∧
      List.Forall₂ Artifact.Alike set.artifacts set'.artifacts := by
  obtain ⟨artifacts, hartifacts, hpaths⟩ := exists_artifacts_of_ok h fresh' first'
  refine ⟨⟨artifacts⟩, ?_, ?_⟩
  · rw [result_assembleEnvironment_eq, ← hartifacts, ArtifactSet.foldlM_add_eq_ok_iff
      ArtifactSet.sound_empty]
    exact ⟨artifacts, rfl, rfl, (sound_of_assembleEnvironment h).of_paths_eq hpaths⟩
  · -- the documents agree pair by pair, and so do their artifacts
    have hpairs : List.Forall₂
        (fun x y : Except BuildError Artifact => ∀ a b, x = .ok a → y = .ok b → a.Alike b)
        (set.artifacts.map .ok) (artifacts.map .ok) := by
      rw [artifacts_of_assembleEnvironment h, hartifacts, List.forall₂_map_left_iff,
        List.forall₂_map_right_iff]
      refine (definition.forall₂_schemaDocuments rfl fresh fresh' first first' environment).imp ?_
      rintro d e ⟨hfile, hdocument⟩ a b ha hb
      obtain ⟨hpath, ha⟩ := SchemaFile.artifact_eq_ok_iff.1 ha
      obtain ⟨hpath', hb⟩ := SchemaFile.artifact_eq_ok_iff.1 hb
      rw [hfile] at hpath
      exact ⟨Except.ok.inj (hpath.symm.trans hpath'), d.2, e.2, hdocument, ha, hb⟩
    rw [List.forall₂_map_left_iff, List.forall₂_map_right_iff] at hpairs
    exact hpairs.imp fun a b hpair => hpair a b rfl rfl

/-! ## Places of environments -/

/-- The places of the files of a schema, as far as they have paths. -/
def schemaPlaces (definition : Definition) (config : BuildConfig) (environment : String) :
    List (List Component) :=
  (definition.schemaFiles config environment).filterMap fun file =>
    (file.path config.layout environment).toOption.map Path.components

theorem places_of_assembleEnvironment
    (h : (definition.assembleEnvironment config fresh first environment).result = .ok set) :
    set.places = definition.schemaPlaces config environment := by
  have hplaces : definition.schemaPlaces config environment =
      (set.paths.map (Except.ok (ε := BuildError))).filterMap
        fun path => path.toOption.map Path.components := by
    rw [paths_of_assembleEnvironment h, List.filterMap_map]
    rfl
  rw [hplaces, List.filterMap_map, ArtifactSet.paths, List.filterMap_map, ArtifactSet.places]
  exact (congrFun List.filterMap_eq_map _).symm

/-- Every place of a schema that was assembled lies below the directory of its environment, and
there is a place for the manifest. -/
theorem schemaPlaces_below
    (h : (definition.assembleEnvironment config fresh first environment).result = .ok set) :
    ∃ directory name, config.layout.environmentDirectory environment = .ok directory ∧
      directory.components = config.layout.base ++ [.name name] ∧
      (∀ place ∈ definition.schemaPlaces config environment, directory.components <+: place) ∧
      directory.components ++ [.name "agent.json"] ∈
        definition.schemaPlaces config environment := by
  obtain ⟨name, directory, hok, htext, hcomponents⟩ := exists_directory_of_assembleEnvironment h
  refine ⟨directory, name, hok, hcomponents, ?_, ?_⟩
  · rw [← places_of_assembleEnvironment h, ArtifactSet.places, List.forall_mem_map]
    intro artifact hartifact
    obtain ⟨d, _, hpath, _⟩ := (mem_artifacts_of_assembleEnvironment h).1 hartifact
    obtain ⟨rest, hrest, _⟩ := SchemaFile.exists_isSchemaPlace htext hok hpath
      ((sound_of_assembleEnvironment h).faultless artifact hartifact)
    exact ⟨rest, hrest.symm⟩
  · obtain ⟨artifact, hartifact, hpath⟩ := exists_artifact_of_mem_schemaFiles h
      (show .agent ∈ definition.schemaFiles config environment by simp [schemaFiles])
    have hagent : '/' ∉ (SchemaFile.fileName .agent).toList := by decide
    obtain ⟨place, hplace, _, hsteps⟩ := SchemaFile.components_path htext hok hagent
    obtain rfl := Except.ok.inj (hpath.symm.trans hplace)
    rw [← places_of_assembleEnvironment h]
    exact hsteps ▸ List.mem_map_of_mem hartifact

/-- **The files of two schemas keep out of each other's way exactly if their environments do not
share a directory.** -/
theorem disjoint_schemaPlaces_iff {second : ArtifactSet}
    (h : (definition.assembleEnvironment config fresh first environment).result = .ok set)
    (h' : (definition.assembleEnvironment config fresh first other).result = .ok second) :
    (definition.schemaPlaces config environment).Disjoint (definition.schemaPlaces config other) ↔
      DirectoriesApart config.layout environment other := by
  obtain ⟨directory, name, hok, hcomponents, hbelow, hagent⟩ := schemaPlaces_below h
  obtain ⟨directory', name', hok', hcomponents', hbelow', hagent'⟩ := schemaPlaces_below h'
  have hapart : DirectoriesApart config.layout environment other ↔
      directory.components ≠ directory'.components := by
    rw [DirectoriesApart, hok, hok']
    simp [Path.sameAs]
  rw [hapart]
  constructor
  · -- in one directory both would have the same manifest
    intro hdisjoint hsame
    rw [← hsame] at hagent'
    exact hdisjoint hagent hagent'
  · -- both directories lie equally deep, so a place below both would make them one
    intro hne place hplace hplace'
    have hlength : directory.components.length = directory'.components.length := by
      rw [hcomponents, hcomponents', List.length_append, List.length_append]
      rfl
    exact hne ((List.prefix_of_prefix_length_le (hbelow place hplace) (hbelow' place hplace')
      hlength.le).eq_of_length hlength)

/-! ## Runs -/

/-- The parts of a run are the schemas of the environments, each with identifiers of its own. -/
def ArePartsOf (definition : Definition) (config : BuildConfig) (fresh : Nat → Uuid)
    (invocations : List Invocation) (parts : List ArtifactSet) : Prop :=
  List.Forall₂ (fun invocation part => ∃ first,
    (definition.assembleEnvironment config fresh first invocation.environment).result = .ok part)
    invocations parts

/-- What a run gives are the schemas of the environments one after the other. -/
theorem exists_parts_of_assembleEach
    (h : (definition.assembleEach config fresh first set invocations).result = .ok set') :
    ∃ parts, definition.ArePartsOf config fresh invocations parts ∧
      set' = ⟨set.artifacts ++ parts.flatMap ArtifactSet.artifacts⟩ := by
  induction invocations generalizing first set with
  | nil =>
      cases h
      exact ⟨[], .nil, by simp⟩
  | cons invocation rest ih =>
      obtain ⟨part, next, hpart, hnext, hrest⟩ := assembleEach_cons_eq_ok_iff.1 h
      obtain rfl := ArtifactSet.eq_of_foldlM_add_map_ok hnext
      obtain ⟨parts, hparts, rfl⟩ := ih hrest
      exact ⟨part :: parts, .cons ⟨first, hpart⟩ hparts, by simp⟩

/-- A run succeeds where every environment has a schema and all of their places are different. -/
theorem exists_of_assembleEach {fresh' : Nat → Uuid} {first' : Nat} (hset : set.Sound)
    (hparts : ∀ invocation ∈ invocations, ∃ part,
      (definition.assembleEnvironment config fresh' first' invocation.environment).result =
        .ok part)
    (hapart : (set.places ++ invocations.flatMap
      fun invocation => definition.schemaPlaces config invocation.environment).Nodup) :
    ∃ set', (definition.assembleEach config fresh first set invocations).result = .ok set' := by
  induction invocations generalizing first set with
  | nil => exact ⟨set, rfl⟩
  | cons invocation rest ih =>
      obtain ⟨_, hpart⟩ := hparts invocation List.mem_cons_self
      obtain ⟨part, hpart, _⟩ := exists_alike hpart fresh first
      have hplaces : (ArtifactSet.mk (set.artifacts ++ part.artifacts)).places =
          set.places ++ definition.schemaPlaces config invocation.environment := by
        rw [← places_of_assembleEnvironment hpart]
        exact List.map_append
      rw [List.flatMap_cons, ← List.append_assoc, ← hplaces] at hapart
      have hnext : (ArtifactSet.mk (set.artifacts ++ part.artifacts)).Sound := by
        refine ⟨?_, hapart.sublist (List.sublist_append_left _ _)⟩
        intro artifact hartifact
        rcases List.mem_append.1 hartifact with hartifact | hartifact
        · exact hset.faultless artifact hartifact
        · exact (sound_of_assembleEnvironment hpart).faultless artifact hartifact
      obtain ⟨set', hset'⟩ :=
        ih hnext (fun other hother => hparts other (List.mem_cons_of_mem _ hother)) hapart
      refine ⟨set', assembleEach_cons_eq_ok_iff.2 ⟨part, _, hpart, ?_, hset'⟩⟩
      exact (ArtifactSet.foldlM_add_eq_ok_iff hset).2 ⟨part.artifacts, rfl, rfl, hnext⟩

/-! ## Parts -/

variable {parts : List ArtifactSet}

theorem places_of_arePartsOf (h : definition.ArePartsOf config fresh invocations parts) :
    (ArtifactSet.mk (parts.flatMap ArtifactSet.artifacts)).places =
      invocations.flatMap fun invocation =>
        definition.schemaPlaces config invocation.environment := by
  have hparts : List.Forall₂ (fun invocation part =>
      definition.schemaPlaces config (Invocation.environment invocation) = part.places)
      invocations parts :=
    h.imp fun _ _ ⟨_, hpart⟩ => (places_of_assembleEnvironment hpart).symm
  have hmap : invocations.map (fun invocation =>
      definition.schemaPlaces config invocation.environment) = parts.map ArtifactSet.places := by
    rw [← List.forall₂_eq_eq_eq, List.forall₂_map_left_iff, List.forall₂_map_right_iff]
    exact hparts
  calc (ArtifactSet.mk (parts.flatMap ArtifactSet.artifacts)).places
      = parts.flatMap ArtifactSet.places := List.map_flatMap
    _ = (parts.map ArtifactSet.places).flatten := List.flatMap_def
    _ = (invocations.map fun invocation =>
          definition.schemaPlaces config invocation.environment).flatten := by rw [hmap]
    _ = _ := List.flatMap_def.symm

/-- With other identifiers the parts are the same but for them. -/
theorem exists_alike_parts (h : definition.ArePartsOf config fresh invocations parts)
    (fresh' : Nat → Uuid) (first' : Nat) :
    ∃ others, List.Forall₂ (fun invocation part =>
        (definition.assembleEnvironment config fresh' first' invocation.environment).result =
          .ok part) invocations others ∧
      List.Forall₂ Artifact.Alike (parts.flatMap ArtifactSet.artifacts)
        (others.flatMap ArtifactSet.artifacts) := by
  induction h with
  | nil => exact ⟨[], .nil, .nil⟩
  | cons hpart _ ih =>
      obtain ⟨_, hpart⟩ := hpart
      obtain ⟨other, hother, halike⟩ := exists_alike hpart fresh' first'
      obtain ⟨others, hothers, hrest⟩ := ih
      exact ⟨other :: others, .cons hother hothers, List.rel_append halike hrest⟩

/-- The places of several schemas are all different exactly if no two environments share a
directory. -/
theorem nodup_flatMap_schemaPlaces_iff
    (h : ∀ invocation ∈ invocations, ∃ part,
      (definition.assembleEnvironment config fresh first invocation.environment).result =
        .ok part) :
    (invocations.flatMap fun invocation =>
        definition.schemaPlaces config invocation.environment).Nodup ↔
      invocations.Pairwise fun a b =>
        DirectoriesApart config.layout a.environment b.environment := by
  have hdisjoint {a b : Invocation} (ha : a ∈ invocations) (hb : b ∈ invocations) :
      (definition.schemaPlaces config a.environment).Disjoint
          (definition.schemaPlaces config b.environment) ↔
        DirectoriesApart config.layout a.environment b.environment := by
    obtain ⟨_, hset⟩ := h a ha
    obtain ⟨_, hset'⟩ := h b hb
    exact disjoint_schemaPlaces_iff hset hset'
  rw [List.nodup_flatMap]
  constructor
  · rintro ⟨_, hpairs⟩
    exact hpairs.imp_of_mem fun ha hb hab => (hdisjoint ha hb).1 hab
  · intro hpairs
    refine ⟨?_, hpairs.imp_of_mem fun ha hb hab => (hdisjoint ha hb).2 hab⟩
    intro invocation hinvocation
    obtain ⟨_, hset⟩ := h invocation hinvocation
    exact places_of_assembleEnvironment hset ▸ (sound_of_assembleEnvironment hset).apart

/-- **The schemas of all environments are assembled exactly if each of them can be and no two share
a directory**, whatever the identifiers; the outcome is one schema after the other, with nothing
lost, merged or replaced. Without environments there is nothing. -/
theorem assemble_concatenates (definition : Definition) (config : BuildConfig)
    (fresh fresh' : Nat → Uuid) (first' : Nat) :
    ((∃ set, (definition.assemble config fresh).result = .ok set) ↔
      (∀ invocation ∈ definition.invocations, ∃ part,
        (definition.assembleEnvironment config fresh' first' invocation.environment).result =
          .ok part) ∧
      definition.invocations.Pairwise fun a b =>
        DirectoriesApart config.layout a.environment b.environment) ∧
    (∀ set, (definition.assemble config fresh).result = .ok set →
      ∃ parts, List.Forall₂ (fun invocation part =>
          (definition.assembleEnvironment config fresh' first' invocation.environment).result =
            .ok part) definition.invocations parts ∧
        List.Forall₂ Artifact.Alike set.artifacts (parts.flatMap ArtifactSet.artifacts)) ∧
    (definition.invocations = [] → (definition.assemble config fresh).result = .ok .empty) := by
  refine ⟨⟨?_, ?_⟩, ?_, ?_⟩
  · rintro ⟨set, hset⟩
    have hrun := assemble_eq_ok_iff.1 hset
    obtain ⟨parts, hparts, rfl⟩ := exists_parts_of_assembleEach hrun
    obtain ⟨others, hothers, _⟩ := exists_alike_parts hparts fresh' first'
    have hall := forall_exists_of_forall₂ hothers
    refine ⟨hall, (nodup_flatMap_schemaPlaces_iff hall).1 ?_⟩
    rw [← places_of_arePartsOf hparts]
    exact (sound_of_assembleEach ArtifactSet.sound_empty hrun).apart
  · rintro ⟨hall, hapart⟩
    obtain ⟨set, hset⟩ := exists_of_assembleEach ArtifactSet.sound_empty hall
      ((nodup_flatMap_schemaPlaces_iff hall).2 hapart)
    exact ⟨set, assemble_eq_ok_iff.2 hset⟩
  · intro set hset
    obtain ⟨parts, hparts, rfl⟩ := exists_parts_of_assembleEach (assemble_eq_ok_iff.1 hset)
    exact exists_alike_parts hparts fresh' first'
  · intro hnone
    rw [assemble_eq_ok_iff, hnone]
    rfl

/-- Two environments are assembled one after the other, unless they share a directory. -/
theorem assemble_concatenates_tour :
    (∃ set parts, ((tour ["alpha", "beta"] "Flight").assemble usEnglish (Uuid.generated 0)).result =
        .ok set ∧
      List.Forall₂ (fun (invocation : Invocation) part =>
        ((tour ["alpha", "beta"] "Flight").assembleEnvironment usEnglish (Uuid.generated 1) 7
          invocation.environment).result = .ok part) [⟨"alpha"⟩, ⟨"beta"⟩] parts ∧
      List.Forall₂ Artifact.Alike set.artifacts (parts.flatMap ArtifactSet.artifacts)) ∧
    (¬ ∃ set, ((tour ["alpha", "alpha/"] "Flight").assemble usEnglish
      (Uuid.generated 0)).result = .ok set) ∧
    ((tour [] "Flight").assemble usEnglish (Uuid.generated 0)).result = .ok .empty := by
  refine ⟨?_, ?_, ?_⟩
  · have hok : ((tour ["alpha", "beta"] "Flight").assemble usEnglish
        (Uuid.generated 0)).result.isOk = true := by decide +kernel
    obtain ⟨set, hset⟩ := exists_ok_of_isOk hok
    obtain ⟨parts, hparts, halike⟩ :=
      (assemble_concatenates _ _ _ (Uuid.generated 1) 7).2.1 set hset
    exact ⟨set, parts, hset, hparts, halike⟩
  · intro hsome
    obtain ⟨_, hapart⟩ := (assemble_concatenates _ _ _ (Uuid.generated 1) 7).1.1 hsome
    have hdirectories := List.rel_of_pairwise_cons hapart List.mem_cons_self _ _ rfl rfl
    exact absurd hdirectories (by decide)
  · exact (assemble_concatenates _ _ _ (Uuid.generated 1) 7).2.2 rfl

end Definition

end VoiceSkill
