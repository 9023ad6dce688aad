import VoiceSkill.Proofs.Assembly.Containment

/-!
# Schemas under two configurations

Of a configuration only the platform and the layout tell on a schema, and the layout only on its
paths: they begin with the locale or do not. Two assemblies of one definition for one platform
therefore go side by side. An artifact is refused in one of them exactly if it is in the other, and
for the same reason (`add_alike`); so both end in the same kind of error, or in sets that are alike
(`assemble_of_same_platform`).
-/

namespace VoiceSkill

/-! ## What may differ -/

/-- The error with its path left out. -/
def WriteError.withoutPath : WriteError → WriteError
  | invalidPath _ fault => .invalidPath ⟨""⟩ fault
  | duplicatePath _ => .duplicatePath ⟨""⟩
  | rejected _ => .rejected ⟨""⟩
  | unwritable _ => .unwritable ⟨""⟩

/-- The error with its path left out, if it has one. -/
def BuildError.withoutPath : BuildError → BuildError
  | write error => .write error.withoutPath
  | error => error

/-- Two documents of a schema that differ in their identifiers at most. -/
def Document.Alike (document other : Document) : Prop :=
  ∃ d e : SchemaDocument Uuid, d.map anonymous = e.map anonymous ∧
    document = d.toDocument ∧ other = e.toDocument

/-- Two artifacts whose paths are the same behind the directory of the locale, each in its layout,
and whose documents differ in their identifiers at most. -/
structure Artifact.AlikeIn (layout layout' : Layout) (a b : Artifact) : Prop where
  paths : ∃ rest, a.path.components = layout.localeSteps ++ rest ∧
    b.path.components = layout'.localeSteps ++ rest
  documents : a.document.Alike b.document

/-- Two outcomes of an assembly: errors that differ in their paths at most, or artifacts that are
alike pair by pair. -/
inductive OutcomesAlike (layout layout' : Layout) :
    Except BuildError ArtifactSet → Except BuildError ArtifactSet → Prop where
  | error {e e' : BuildError} (h : e.withoutPath = e'.withoutPath) :
    OutcomesAlike layout layout' (.error e) (.error e')
  | ok {set set' : ArtifactSet}
    (h : List.Forall₂ (Artifact.AlikeIn layout layout') set.artifacts set'.artifacts) :
    OutcomesAlike layout layout' (.ok set) (.ok set')

variable {layout layout' : Layout}

theorem OutcomesAlike.bind {x y : Except BuildError ArtifactSet}
    {f g : ArtifactSet → Except BuildError ArtifactSet} (h : OutcomesAlike layout layout' x y)
    (hnext : ∀ set set', x = .ok set → y = .ok set' →
      List.Forall₂ (Artifact.AlikeIn layout layout') set.artifacts set'.artifacts →
      OutcomesAlike layout layout' (f set) (g set')) :
    OutcomesAlike layout layout' (x >>= f) (y >>= g) := by
  cases h with
  | error h => exact .error h
  | ok h => exact hnext _ _ rfl rfl h

theorem OutcomesAlike.exists_of_ok {set : ArtifactSet} {y : Except BuildError ArtifactSet}
    (h : OutcomesAlike layout layout' (.ok set) y) :
    ∃ set', y = .ok set' ∧
      List.Forall₂ (Artifact.AlikeIn layout layout') set.artifacts set'.artifacts := by
  cases h with
  | ok h => exact ⟨_, rfl, h⟩

theorem OutcomesAlike.exists_of_error {e : BuildError} {y : Except BuildError ArtifactSet}
    (h : OutcomesAlike layout layout' (.error e) y) :
    ∃ e', y = .error e' ∧ e.withoutPath = e'.withoutPath := by
  cases h with
  | error h => exact ⟨_, rfl, h⟩

/-! ## One artifact -/

/-- The directory of the locale has no fault of its own. -/
theorem findSome?_fault?_localeSteps (layout : Layout) (rest : List Component) :
    (layout.localeSteps ++ rest).findSome? Component.fault? =
      rest.findSome? Component.fault? := by
  rw [Layout.localeSteps]
  split <;> rfl

/-- Two artifacts that are to be added, or the error that there are none. They are alike, or they
have one absolute path between them: a name that begins at the root leaves no room for a locale. -/
inductive RowsAlike (layout layout' : Layout) :
    Except BuildError Artifact → Except BuildError Artifact → Prop where
  | error (e : BuildError) : RowsAlike layout layout' (.error e) (.error e)
  | alike {a b : Artifact} (ha : a.path.text ≠ "") (hb : b.path.text ≠ "")
    (h : a.AlikeIn layout layout' b) : RowsAlike layout layout' (.ok a) (.ok b)
  | absolute {a b : Artifact} (hpath : a.path = b.path) (habsolute : a.path.isAbsolute = true) :
    RowsAlike layout layout' (.ok a) (.ok b)

variable {a b : Artifact} {set set' : ArtifactSet}

theorem fault?_eq_of_alikeIn (ha : a.path.text ≠ "") (hb : b.path.text ≠ "")
    (h : a.AlikeIn layout layout' b) : a.path.fault? = b.path.fault? := by
  obtain ⟨rest, hpath, hpath'⟩ := h.paths
  rw [Path.fault?, if_neg ha, hpath, findSome?_fault?_localeSteps, Path.fault?, if_neg hb,
    hpath', findSome?_fault?_localeSteps]

/-- Artifacts that are alike pair by pair take the same places behind the directory of the
locale. -/
theorem exists_rests {artifacts others : List Artifact}
    (h : List.Forall₂ (Artifact.AlikeIn layout layout') artifacts others) :
    ∃ rests : List (List Component),
      artifacts.map (fun a => a.path.components) = rests.map (layout.localeSteps ++ ·) ∧
      others.map (fun a => a.path.components) = rests.map (layout'.localeSteps ++ ·) := by
  induction h with
  | nil => exact ⟨[], rfl, rfl⟩
  | cons hpair _ ih =>
      obtain ⟨rest, hpath, hpath'⟩ := hpair.paths
      obtain ⟨rests, hrests, hrests'⟩ := ih
      exact ⟨rest :: rests, by simp [hpath, hrests], by simp [hpath', hrests']⟩

/-- Of artifacts that are alike one has its place taken exactly if the other has. -/
theorem mem_places_iff
    (h : List.Forall₂ (Artifact.AlikeIn layout layout') set.artifacts set'.artifacts)
    (hab : a.AlikeIn layout layout' b) :
    a.path.components ∈ set.places ↔ b.path.components ∈ set'.places := by
  obtain ⟨rests, hrests, hrests'⟩ := exists_rests h
  obtain ⟨rest, hpath, hpath'⟩ := hab.paths
  rw [ArtifactSet.places, ArtifactSet.places, hrests, hrests', hpath, hpath',
    List.mem_map_of_injective (List.append_right_injective _),
    List.mem_map_of_injective (List.append_right_injective _)]

/-- Two artifacts with one fault are refused for it. -/
theorem add_alike_of_fault {fault : PathFault} (ha : a.path.fault? = some fault)
    (hb : b.path.fault? = some fault) :
    OutcomesAlike layout layout' (set.add (.ok a)) (set'.add (.ok b)) := by
  rw [ArtifactSet.add_of_error (ArtifactSet.push_of_fault ha),
    ArtifactSet.add_of_error (ArtifactSet.push_of_fault hb)]
  exact .error rfl

/-- **An artifact is added, or refused for the same reason, under both configurations.** -/
theorem add_alike
    (h : List.Forall₂ (Artifact.AlikeIn layout layout') set.artifacts set'.artifacts)
    {row row' : Except BuildError Artifact} (hrow : RowsAlike layout layout' row row') :
    OutcomesAlike layout layout' (set.add row) (set'.add row') := by
  cases hrow with
  | error e => exact .error rfl
  | @absolute a b hpath habsolute =>
      have hfault := Path.fault?_of_isAbsolute habsolute
      exact add_alike_of_fault hfault (hpath ▸ hfault)
  | @alike a b ha hb hab =>
      have hfaults := fault?_eq_of_alikeIn ha hb hab
      cases hfault : a.path.fault? with
      | some fault => exact add_alike_of_fault hfault (hfaults ▸ hfault)
      | none =>
          have hfault' : b.path.fault? = none := hfaults ▸ hfault
          by_cases htaken : a.path.components ∈ set.places
          · have htaken' := (mem_places_iff h hab).1 htaken
            rw [ArtifactSet.add_of_error (ArtifactSet.push_of_taken hfault htaken),
              ArtifactSet.add_of_error (ArtifactSet.push_of_taken hfault' htaken')]
            exact .error rfl
          · have hfree' := mt (mem_places_iff h hab).2 htaken
            rw [ArtifactSet.add_of_ok (ArtifactSet.push_of_fresh hfault htaken),
              ArtifactSet.add_of_ok (ArtifactSet.push_of_fresh hfault' hfree')]
            exact .ok (List.rel_append h (.cons hab .nil))

/-- **So are artifacts one after the other.** -/
theorem foldlM_add_alike
    (h : List.Forall₂ (Artifact.AlikeIn layout layout') set.artifacts set'.artifacts)
    {rows rows' : List (Except BuildError Artifact)}
    (hrows : List.Forall₂ (RowsAlike layout layout') rows rows') :
    OutcomesAlike layout layout' (rows.foldlM ArtifactSet.add set)
      (rows'.foldlM ArtifactSet.add set') := by
  induction hrows generalizing set set' with
  | nil => exact .ok h
  | cons hrow _ ih =>
      rw [List.foldlM_cons, List.foldlM_cons]
      exact (add_alike h hrow).bind fun _ _ _ _ hnext => ih hnext

/-! ## Files -/

variable {environment : String}

/-- A file has no path in either layout, or paths that are the same behind the directory of the
locale, or one absolute path. -/
theorem rowsAlike_artifact {d e : SchemaFile × SchemaDocument Uuid} (hfile : d.1 = e.1)
    (hdocument : d.2.map anonymous = e.2.map anonymous) :
    RowsAlike layout layout' (SchemaFile.artifact layout environment d)
      (SchemaFile.artifact layout' environment e) := by
  rw [SchemaFile.artifact, SchemaFile.artifact, ← hfile]
  by_cases hname : ∃ name, (Path.mk environment).components = [.name name]
  · obtain ⟨name, hname⟩ := hname
    by_cases hrelative : Path.IsRelative d.1.fileName
    · obtain ⟨place, hplace, hne, hsteps⟩ :=
        SchemaFile.components_path_of_name layout hname hrelative
      obtain ⟨place', hplace', hne', hsteps'⟩ :=
        SchemaFile.components_path_of_name layout' hname hrelative
      rw [hplace, hplace']
      exact .alike hne hne' ⟨⟨_, hsteps, hsteps'⟩, d.2, e.2, hdocument, rfl, rfl⟩
    · obtain ⟨_, hok, _⟩ := layout.environmentDirectory_of_name hname
      obtain ⟨_, hok', _⟩ := layout'.environmentDirectory_of_name hname
      rw [SchemaFile.path_of_not_isRelative hok hrelative,
        SchemaFile.path_of_not_isRelative hok' hrelative]
      exact .absolute rfl (by simpa [Path.IsRelative] using hrelative)
  · have hnone := not_exists.1 hname
    rw [SchemaFile.path_of_error (layout.environmentDirectory_of_not_name hnone),
      SchemaFile.path_of_error (layout'.environmentDirectory_of_not_name hnone)]
    exact .error _

/-! ## Runs -/

/-- Artifacts of two sound sets that are alike are rows that are alike. -/
theorem rowsAlike_of_sound (hset : set.Sound) (hset' : set'.Sound)
    (h : List.Forall₂ (Artifact.AlikeIn layout layout') set.artifacts set'.artifacts) :
    List.Forall₂ (RowsAlike layout layout') (set.artifacts.map .ok) (set'.artifacts.map .ok) := by
  have htext {s : ArtifactSet} (hs : s.Sound) {artifact : Artifact} (ha : artifact ∈ s.artifacts) :
      artifact.path.text ≠ "" := (Path.fault?_eq_none_iff.1 (hs.faultless artifact ha)).1
  rw [List.forall₂_map_left_iff, List.forall₂_map_right_iff]
  obtain ⟨hlength, halike⟩ := List.forall₂_iff_zip.1 h
  refine List.forall₂_iff_zip.2 ⟨hlength, fun {a b} hpair => ?_⟩
  obtain ⟨ha, hb⟩ := List.of_mem_zip hpair
  exact .alike (htext hset ha) (htext hset' hb) (halike hpair)

namespace Definition

variable {config config' : BuildConfig}

/-- Under two configurations for one platform the schema of an environment is the same, or cannot be
assembled for the same reason. -/
theorem assembleEnvironment_alike (definition : Definition)
    (h : config.platform = config'.platform) (fresh fresh' : Nat → Uuid) (first first' : Nat)
    (environment : String) :
    OutcomesAlike config.layout config'.layout
      (definition.assembleEnvironment config fresh first environment).result
      (definition.assembleEnvironment config' fresh' first' environment).result := by
  rw [result_assembleEnvironment_eq, result_assembleEnvironment_eq]
  refine foldlM_add_alike .nil ?_
  rw [List.forall₂_map_left_iff, List.forall₂_map_right_iff]
  exact (definition.forall₂_schemaDocuments h fresh fresh' first first' environment).imp
    fun _ _ hpair => rowsAlike_artifact hpair.1 hpair.2

/-- So it is with the schemas of several environments. -/
theorem assembleEach_alike (definition : Definition) (h : config.platform = config'.platform)
    (fresh fresh' : Nat → Uuid) (first first' : Nat)
    (hset : List.Forall₂ (Artifact.AlikeIn config.layout config'.layout)
      set.artifacts set'.artifacts) (invocations : List Invocation) :
    OutcomesAlike config.layout config'.layout
      (definition.assembleEach config fresh first set invocations).result
      (definition.assembleEach config' fresh' first' set' invocations).result := by
  induction invocations generalizing first first' set set' with
  | nil => exact .ok hset
  | cons invocation rest ih =>
      rw [result_assembleEach_cons, result_assembleEach_cons]
      refine (definition.assembleEnvironment_alike h fresh fresh' first first' _).bind ?_
      intro part part' hpart hpart' hparts
      have hrows := rowsAlike_of_sound (sound_of_assembleEnvironment hpart)
        (sound_of_assembleEnvironment hpart') hparts
      exact (foldlM_add_alike hset hrows).bind fun _ _ _ _ hnext => ih _ _ hnext

/-- Under one configuration the outcome is the same with any identifiers, but for them. -/
theorem outcomesAlike_assemble (definition : Definition) (config : BuildConfig)
    (fresh fresh' : Nat → Uuid) :
    OutcomesAlike config.layout config.layout (definition.assemble config fresh).result
      (definition.assemble config fresh').result := by
  rw [result_assemble, result_assemble]
  exact definition.assembleEach_alike rfl fresh fresh' 0 0 .nil definition.invocations

/-- **Of a configuration only the platform tells on what is assembled.** Under two configurations
with one platform, whatever else they say and whatever the identifiers, a definition cannot be
assembled for the same reason, or gives the same artifacts in the same order: their paths are the
same behind the directory of the locale, and their documents are the same but for identifiers. -/
theorem assemble_of_same_platform (definition : Definition) {config config' : BuildConfig}
    (h : config.platform = config'.platform) (fresh fresh' : Nat → Uuid) :
    OutcomesAlike config.layout config'.layout (definition.assemble config fresh).result
      (definition.assemble config' fresh').result := by
  rw [result_assemble, result_assemble]
  exact definition.assembleEach_alike h fresh fresh' 0 0 .nil definition.invocations

/-- A flattened configuration for Germany that is strict in everything. -/
def flatGerman : BuildConfig := ⟨.deDE, some "tours", "dialogFlow", true, true, 9⟩

/-- In Germany a tour has the files that it has in the United States, and two environments that
share a directory are refused in either country. -/
theorem assemble_of_same_platform_tour :
    (∃ set set', ((tour ["alpha", "beta"] "Flight").assemble usEnglish (Uuid.generated 0)).result =
        .ok set ∧
      ((tour ["alpha", "beta"] "Flight").assemble flatGerman (Uuid.generated 1)).result =
        .ok set' ∧
      List.Forall₂ (Artifact.AlikeIn usEnglish.layout flatGerman.layout) set.artifacts
        set'.artifacts) ∧
    ∃ e e', ((tour ["alpha", "alpha/"] "Flight").assemble usEnglish (Uuid.generated 0)).result =
        .error e ∧
      ((tour ["alpha", "alpha/"] "Flight").assemble flatGerman (Uuid.generated 1)).result =
        .error e' ∧
      e.withoutPath = e'.withoutPath := by
  constructor
  · have hok : ((tour ["alpha", "beta"] "Flight").assemble usEnglish
        (Uuid.generated 0)).result.isOk = true := by decide +kernel
    obtain ⟨set, hset⟩ := exists_ok_of_isOk hok
    have halike := (tour ["alpha", "beta"] "Flight").assemble_of_same_platform
      (show usEnglish.platform = flatGerman.platform from rfl) (Uuid.generated 0)
      (Uuid.generated 1)
    rw [hset] at halike
    obtain ⟨set', hset', hartifacts⟩ := halike.exists_of_ok
    exact ⟨set, set', hset, hset', hartifacts⟩
  · have hfails : ((tour ["alpha", "alpha/"] "Flight").assemble usEnglish
        (Uuid.generated 0)).result.isOk = false := by decide +kernel
    obtain ⟨e, he⟩ := exists_error_of_isOk_eq_false hfails
    have halike := (tour ["alpha", "alpha/"] "Flight").assemble_of_same_platform
      (show usEnglish.platform = flatGerman.platform from rfl) (Uuid.generated 0)
      (Uuid.generated 1)
    rw [he] at halike
    obtain ⟨e', he', hsame⟩ := halike.exists_of_error
    exact ⟨e, e', he, he', hsame⟩

end Definition

end VoiceSkill
