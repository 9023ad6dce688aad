import VoiceSkill.Proofs.Assembly.Whole
import VoiceSkill.Proofs.Build
import VoiceSkill.Proofs.Writer.Directory

/-!
# Files in the way of other files

A slash in the name of an intent makes a directory of what stands in front of it. If the file of
another intent is to lie just there, a schema can be assembled that no file system can hold.
Entities and manifests are never in the way (`SchemaFile.below_prefix_iff`), so no artifact lies
inside of another one exactly if no intent leads through a file of another intent
(`Definition.noneInside_places_iff`). Then the schema can be written below an empty directory, as
far as the paths of its files can be stored at all (`Definition.build_below_directory`).
-/

namespace VoiceSkill

open Disk (Storable)

namespace SchemaFile

variable {file other : SchemaFile}

/-! ## Files of one environment -/

/-- The way to a file from the directory of its environment. -/
def below (file : SchemaFile) : List Component :=
  file.directory?.toList.map .name ++ Path.steps file.fileName

theorem steps_fileName_of_directory (h : file.directory? ≠ some "intents") :
    Path.steps file.fileName = [.name file.fileName] := by
  refine (steps_fileName (slash_not_mem_fileName ?_)).2
  cases file <;> simp [directory?, intentName?] at h ⊢

theorem below_of_directory {directory : String} (h : file.directory? = some directory) :
    file.below = .name directory :: Path.steps file.fileName := by
  rw [below, h]
  rfl

theorem below_of_none (h : file.directory? = none) : file.below = [.name file.fileName] := by
  rw [below, h, steps_fileName_of_directory (by simp [h])]
  rfl

/-- A manifest is not in the way of other files. -/
theorem not_below_prefix_of_none (h : file.directory? = none) (hne : file.below ≠ other.below) :
    ¬ file.below <+: other.below := by
  intro hpre
  cases hother : other.directory? with
  | none =>
      refine hne (hpre.eq_of_length ?_)
      rw [below_of_none h, below_of_none hother]
      rfl
  | some directory =>
      rw [below_of_none h, below_of_directory hother, List.cons_prefix_cons] at hpre
      have hname := hpre.1
      -- no manifest has the name of a directory
      cases file <;> cases h <;> cases other <;> cases hother <;> exact absurd hname (by decide)

/-- Of the files of one environment only one of an intent is in the way of another one, and that is
one of an intent as well. -/
theorem below_prefix_iff :
    file.below <+: other.below ∧ file.below ≠ other.below ↔
      file.directory? = some "intents" ∧ other.directory? = some "intents" ∧
        Path.steps file.fileName <+: Path.steps other.fileName ∧
        Path.steps file.fileName ≠ Path.steps other.fileName := by
  constructor
  · rintro ⟨hpre, hne⟩
    cases hfile : file.directory? with
    | none => exact absurd hpre (not_below_prefix_of_none hfile hne)
    | some directory =>
        rw [below_of_directory hfile] at hpre hne
        cases hother : other.directory? with
        | none =>
            rw [below_of_none hother, List.cons_prefix_cons] at hpre
            exact absurd (List.prefix_nil.1 hpre.2) file.steps_fileName_ne_nil
        | some second =>
            rw [below_of_directory hother] at hpre hne
            obtain ⟨hsame, hsteps⟩ := List.cons_prefix_cons.1 hpre
            obtain rfl : directory = second := Component.name.inj hsame
            have hne : Path.steps file.fileName ≠ Path.steps other.fileName :=
              fun heq => hne (by rw [heq])
            by_cases hintents : directory = "intents"
            · rw [hintents]
              exact ⟨rfl, rfl, hsteps, hne⟩
            · refine absurd (hsteps.eq_of_length ?_) hne
              rw [steps_fileName_of_directory (by simp [hfile, hintents]),
                steps_fileName_of_directory (by simp [hother, hintents])]
              rfl
  · rintro ⟨hfile, hother, hpre, hne⟩
    rw [below_of_directory hfile, below_of_directory hother]
    refine ⟨List.cons_prefix_cons.2 ⟨rfl, hpre⟩, fun heq => hne ?_⟩
    exact (List.cons.inj heq).2

/-- The names of the two files of an intent lead through the same directories. -/
theorem exists_steps_fileName {name : String} (h : file.intentName? = some name) :
    ∃ last, Path.steps file.fileName = (Path.steps (name ++ ".json")).dropLast ++ [last] := by
  obtain ⟨begun, last, -, hsteps⟩ := Path.exists_steps_append name
  have hbegun : (Path.steps (name ++ ".json")).dropLast = begun := by
    rw [hsteps ".json" (by decide) (by decide), List.dropLast_concat]
  rw [hbegun]
  cases file with
  | intent other =>
      obtain rfl : other = name := Option.some.inj h
      exact ⟨_, hsteps ".json" (by decide) (by decide)⟩
  | samples other =>
      obtain rfl : other = name := Option.some.inj h
      have hname : fileName (.samples other) = other ++ "_usersays_en.json" := by
        rw [fileName, String.append_assoc, String.append_assoc]
        rfl
      rw [hname]
      exact ⟨_, hsteps "_usersays_en.json" (by decide) (by decide)⟩
  | _ => cases h

/-- A file is in the way of another one of an intent exactly if the name of that intent leads
through it. -/
theorem steps_fileName_prefix_iff {name : String} (h : other.intentName? = some name) :
    Path.steps file.fileName <+: Path.steps other.fileName ∧
        Path.steps file.fileName ≠ Path.steps other.fileName ↔
      Path.steps file.fileName <+: (Path.steps (name ++ ".json")).dropLast := by
  obtain ⟨last, hlast⟩ := exists_steps_fileName h
  rw [hlast]
  exact Disk.prefix_and_ne_iff

end SchemaFile

/-! ## Files of all environments -/

namespace PlannedFile

variable {planned other : PlannedFile} {layout : Layout} {place root : Path}

/-- The way to a file from the directory of the locale. -/
def way (planned : PlannedFile) : List Component := planned.file.way planned.environment

/-- The environment has the name of a single directory. -/
def HasDirectory (planned : PlannedFile) (name : String) : Prop :=
  (Path.mk planned.environment).components = [.name name]

theorem way_eq {name : String} (h : planned.HasDirectory name) :
    planned.way = .name platformDirectory :: .name name :: planned.file.below := by
  rw [way, SchemaFile.way, (Path.steps_of_components_eq h).2]
  rfl

/-- A file that has a place belongs to an environment with a directory, and lies where its way
leads. -/
theorem components_of_path (h : planned.path layout = .ok place) (hplace : place.fault? = none) :
    (∃ name, planned.HasDirectory name) ∧ place.components = layout.localeSteps ++ planned.way := by
  by_cases hname : ∃ name, planned.HasDirectory name
  · obtain ⟨name, hname⟩ := hname
    obtain ⟨directory, hok, htext, -⟩ := layout.environmentDirectory_of_name hname
    obtain ⟨hrelative, -⟩ := SchemaFile.isRelative_of_fault?_eq_none htext hok h hplace
    obtain ⟨_, hsame, -, hcomponents⟩ :=
      SchemaFile.components_path_of_name layout hname hrelative
    obtain rfl := Except.ok.inj (hsame.symm.trans h)
    exact ⟨⟨name, hname⟩, hcomponents⟩
  · have herror := layout.environmentDirectory_of_not_name (not_exists.1 hname)
    rw [path, SchemaFile.path_of_error herror] at h
    cases h

/-- The path of a file ends as its name does. -/
theorem exists_text_of_path (h : planned.path layout = .ok place) (hplace : place.fault? = none) :
    ∃ front, place.text = front ++ ".json" := by
  obtain ⟨⟨name, hname⟩, -⟩ := components_of_path h hplace
  obtain ⟨directory, hok, -⟩ := layout.environmentDirectory_of_name hname
  rw [path, SchemaFile.path_of_ok hok, Except.ok.injEq] at h
  obtain ⟨front, hfront⟩ := Path.exists_text_join
    (planned.file.directory?.elim directory directory.child) ⟨planned.file.fileName⟩
  obtain ⟨stem, hstem⟩ := planned.file.exists_stem
  refine ⟨front ++ stem, ?_⟩
  rw [← h, Path.child, hfront, hstem, String.append_assoc]

/-- The path of a file consists of names. -/
theorem components_eq_names (h : planned.path layout = .ok place) (hplace : place.fault? = none) :
    place.components = place.names.map .name := by
  obtain ⟨⟨name, hname⟩, hcomponents⟩ := components_of_path h hplace
  refine (Path.components_of_fault?_eq_none hplace).resolve_right fun hdot => ?_
  rw [hcomponents, way_eq hname, Layout.localeSteps] at hdot
  split at hdot <;> cases hdot

/-- The path of a file is one of a file below any root. -/
theorem namesFile (h : planned.path layout = .ok place) (hplace : place.fault? = none)
    (root : Path) : root.NamesFile place := by
  obtain ⟨⟨name, hname⟩, hcomponents⟩ := components_of_path h hplace
  obtain ⟨front, hfront⟩ := exists_text_of_path h hplace
  obtain ⟨before, hbefore⟩ := Path.exists_text_join root place
  refine ⟨hplace, (Path.names_ne_nil_iff hplace).2 ?_, ?_⟩
  · intro hdot
    have hmem : Component.name platformDirectory ∈ place.components := by
      rw [hcomponents, way_eq hname]
      simp
    rw [hdot] at hmem
    cases List.mem_singleton.1 hmem
  · have htext : (root.join place).text = before ++ front ++ ".json" := by
      rw [hbefore, hfront, String.append_assoc]
    show (Path.mk (root.join place).text).namesDirectory = false
    rw [htext]
    exact Path.namesDirectory_append (by decide) (by decide)

theorem name_eq_of_way_prefix {name second : String} (h : planned.HasDirectory name)
    (h' : other.HasDirectory second) (hpre : planned.way <+: other.way) : name = second := by
  rw [way_eq h, way_eq h', List.cons_prefix_cons, List.cons_prefix_cons] at hpre
  exact Component.name.inj hpre.2.1

/-- In one environment a file is in the way of another one exactly if it is from the directory of
the environment on. -/
theorem way_prefix_iff {name : String} (h : planned.HasDirectory name)
    (h' : other.HasDirectory name) :
    planned.way <+: other.way ∧ planned.way ≠ other.way ↔
      planned.file.below <+: other.file.below ∧ planned.file.below ≠ other.file.below := by
  simp [way_eq h, way_eq h', List.cons_prefix_cons]

end PlannedFile

namespace Definition

variable {definition : Definition} {config : BuildConfig} {fresh : Nat → Uuid}
  {set : ArtifactSet}

/-- The name of an intent leads through a file of another one: where that is to lie, it names a
directory. -/
def LeadsThrough (definition : Definition) (intent other : Intent) : Prop :=
  ∃ file ∈ definition.intentSchemaFiles other,
    Path.steps file.fileName <+: (Path.steps (intent.name ++ ".json")).dropLast

instance (intent other : Intent) : Decidable (definition.LeadsThrough intent other) :=
  inferInstanceAs (Decidable (∃ file ∈ definition.intentSchemaFiles other, _))

/-- The places of a set that was assembled are the ways to its files. -/
theorem places_of_assemble (h : (definition.assemble config fresh).result = .ok set) :
    (∀ planned ∈ definition.wholeFiles config, ∃ name, planned.HasDirectory name) ∧
      set.places = ((definition.wholeFiles config).map PlannedFile.way).map
        (config.layout.localeSteps ++ ·) := by
  have hplaces := forall₂_wholeFiles h
  have hfaultless := (sound_of_assemble h).faultless
  rw [ArtifactSet.places]
  generalize set.artifacts = artifacts at hplaces hfaultless
  generalize definition.wholeFiles config = files at hplaces
  induction hplaces with
  | nil => exact ⟨List.forall_mem_nil _, rfl⟩
  | cons hpath _ ih =>
      obtain ⟨hfirst, hrest⟩ := List.forall_mem_cons.1 hfaultless
      obtain ⟨hname, hcomponents⟩ := PlannedFile.components_of_path hpath hfirst
      obtain ⟨hnames, hways⟩ := ih hrest
      refine ⟨List.forall_mem_cons.2 ⟨hname, hnames⟩, ?_⟩
      rw [List.map_cons, List.map_cons, List.map_cons, hcomponents, ← hways]

theorem mem_wholeFiles_iff {planned : PlannedFile} :
    planned ∈ definition.wholeFiles config ↔
      .mk planned.environment ∈ definition.invocations ∧
        planned.file ∈ definition.schemaFiles config planned.environment := by
  rw [wholeFiles, List.mem_flatMap]
  constructor
  · rintro ⟨invocation, hinvocation, hplanned⟩
    obtain ⟨file, hfile, rfl⟩ := List.mem_map.1 hplanned
    exact ⟨hinvocation, hfile⟩
  · rintro ⟨hinvocation, hfile⟩
    exact ⟨_, hinvocation, List.mem_map_of_mem hfile⟩

theorem mem_schemaFiles_of_intent {file : SchemaFile} {intent : Intent} {environment : String}
    (hintent : intent ∈ definition.intentsFor config.platform (some environment))
    (hfile : file ∈ definition.intentSchemaFiles intent) :
    file ∈ definition.schemaFiles config environment := by
  rw [schemaFiles, List.mem_append, List.mem_append]
  exact .inl (.inr (List.mem_flatMap.2 ⟨intent, hintent, hfile⟩))

theorem directory?_of_mem_intentSchemaFiles {file : SchemaFile} {intent : Intent}
    (h : file ∈ definition.intentSchemaFiles intent) : file.directory? = some "intents" := by
  rcases mem_intentSchemaFiles.1 h with rfl | ⟨rfl, -⟩ <;> rfl

/-- A file in the directory of intents is one of an intent. -/
theorem exists_intent_of_directory {file : SchemaFile} {environment : String}
    (hfile : file ∈ definition.schemaFiles config environment)
    (hdirectory : file.directory? = some "intents") :
    ∃ intent ∈ definition.intentsFor config.platform (some environment),
      file ∈ definition.intentSchemaFiles intent ∧ file.intentName? = some intent.name := by
  cases file with
  | intent name =>
      obtain ⟨intent, hintent, rfl⟩ := intent_mem_schemaFiles.1 hfile
      exact ⟨intent, hintent, mem_intentSchemaFiles.2 (.inl rfl), rfl⟩
  | samples name =>
      obtain ⟨intent, hintent, rfl, hsamples⟩ := samples_mem_schemaFiles.1 hfile
      exact ⟨intent, hintent, mem_intentSchemaFiles.2 (.inr ⟨rfl, hsamples⟩), rfl⟩
  | _ => simp [SchemaFile.directory?] at hdirectory

theorem agent_mem_wholeFiles {planned : PlannedFile} (h : planned ∈ definition.wholeFiles config) :
    ⟨planned.environment, .agent⟩ ∈ definition.wholeFiles config :=
  mem_wholeFiles_iff.2 ⟨(mem_wholeFiles_iff.1 h).1, by simp [schemaFiles]⟩

/-- Environments that share a directory would share their manifests, so an assembly has no two of
them. -/
theorem environment_eq_of_hasDirectory (h : (definition.assemble config fresh).result = .ok set)
    {planned other : PlannedFile} (hplanned : planned ∈ definition.wholeFiles config)
    (hother : other ∈ definition.wholeFiles config) {name : String}
    (hname : planned.HasDirectory name) (hname' : other.HasDirectory name) :
    planned.environment = other.environment := by
  have hways : ((definition.wholeFiles config).map PlannedFile.way).Nodup := by
    have hplaces := (sound_of_assemble h).apart
    rw [(places_of_assemble h).2] at hplaces
    exact hplaces.of_map
  have hagent : PlannedFile.HasDirectory ⟨planned.environment, .agent⟩ name := hname
  have hagent' : PlannedFile.HasDirectory ⟨other.environment, .agent⟩ name := hname'
  have hway := (PlannedFile.way_eq hagent).trans (PlannedFile.way_eq hagent').symm
  have hfile := List.inj_on_of_nodup_map hways (agent_mem_wholeFiles hplanned)
    (agent_mem_wholeFiles hother) hway
  exact (PlannedFile.mk.inj hfile).1

/-- Where a name leads through a file, that file is in the way of the one of the name. -/
theorem exists_way_prefix_of_leadsThrough (h : (definition.assemble config fresh).result = .ok set)
    {invocation : Invocation} (hinvocation : invocation ∈ definition.invocations)
    {intent other : Intent}
    (hintent : intent ∈ definition.intentsFor config.platform (some invocation.environment))
    (hother : other ∈ definition.intentsFor config.platform (some invocation.environment))
    (hthrough : definition.LeadsThrough intent other) :
    ∃ planned ∈ definition.wholeFiles config, ∃ behind ∈ definition.wholeFiles config,
      planned.way <+: behind.way ∧ planned.way ≠ behind.way := by
  obtain ⟨file, hfile, hpre⟩ := hthrough
  have hplanned : ⟨invocation.environment, file⟩ ∈ definition.wholeFiles config :=
    mem_wholeFiles_iff.2 ⟨hinvocation, mem_schemaFiles_of_intent hother hfile⟩
  have hbehind : ⟨invocation.environment, .intent intent.name⟩ ∈ definition.wholeFiles config :=
    mem_wholeFiles_iff.2 ⟨hinvocation, intent_mem_schemaFiles.2 ⟨intent, hintent, rfl⟩⟩
  have hname : SchemaFile.intentName? (.intent intent.name) = some intent.name := rfl
  have hbelow := SchemaFile.below_prefix_iff.2
    ⟨directory?_of_mem_intentSchemaFiles hfile, rfl,
      (SchemaFile.steps_fileName_prefix_iff hname).2 hpre⟩
  obtain ⟨directory, hdirectory⟩ := (places_of_assemble h).1 _ hplanned
  have hdirectory' : PlannedFile.HasDirectory ⟨invocation.environment, .intent intent.name⟩
      directory := hdirectory
  exact ⟨_, hplanned, _, hbehind, (PlannedFile.way_prefix_iff hdirectory hdirectory').2 hbelow⟩

/-- A file that is in the way of another one is one that an intent of its environment leads
through. -/
theorem exists_leadsThrough_of_way_prefix (h : (definition.assemble config fresh).result = .ok set)
    {planned behind : PlannedFile} (hplanned : planned ∈ definition.wholeFiles config)
    (hbehind : behind ∈ definition.wholeFiles config) (hpre : planned.way <+: behind.way)
    (hne : planned.way ≠ behind.way) :
    ∃ invocation ∈ definition.invocations,
      ∃ intent ∈ definition.intentsFor config.platform (some invocation.environment),
        ∃ other ∈ definition.intentsFor config.platform (some invocation.environment),
          definition.LeadsThrough intent other := by
  obtain ⟨hnames, -⟩ := places_of_assemble h
  obtain ⟨name, hname⟩ := hnames planned hplanned
  obtain ⟨second, hname'⟩ := hnames behind hbehind
  obtain rfl := PlannedFile.name_eq_of_way_prefix hname hname' hpre
  have henvironment := environment_eq_of_hasDirectory h hplanned hbehind hname hname'
  obtain ⟨hdirectory, hdirectory', hsteps⟩ := SchemaFile.below_prefix_iff.1
    ((PlannedFile.way_prefix_iff hname hname').1 ⟨hpre, hne⟩)
  obtain ⟨hinvocation, hfile⟩ := mem_wholeFiles_iff.1 hplanned
  obtain ⟨-, hfile'⟩ := mem_wholeFiles_iff.1 hbehind
  rw [← henvironment] at hfile'
  obtain ⟨other, hother, hmem, -⟩ := exists_intent_of_directory hfile hdirectory
  obtain ⟨intent, hintent, -, hintentName⟩ := exists_intent_of_directory hfile' hdirectory'
  exact ⟨_, hinvocation, intent, hintent, other, hother, planned.file, hmem,
    (SchemaFile.steps_fileName_prefix_iff hintentName).1 hsteps⟩

/-- **No artifact lies inside of another one exactly if no intent leads through a file of another
intent of its environment.** -/
theorem noneInside_places_iff (h : (definition.assemble config fresh).result = .ok set) :
    NoneInside set.places ↔
      ∀ invocation ∈ definition.invocations,
        ∀ intent ∈ definition.intentsFor config.platform (some invocation.environment),
          ∀ other ∈ definition.intentsFor config.platform (some invocation.environment),
            ¬ definition.LeadsThrough intent other := by
  rw [(places_of_assemble h).2, noneInside_map_append_iff]
  constructor
  · intro hnone invocation hinvocation intent hintent other hother hthrough
    obtain ⟨planned, hplanned, behind, hbehind, hpre, hne⟩ :=
      exists_way_prefix_of_leadsThrough h hinvocation hintent hother hthrough
    exact hne (hnone _ (List.mem_map_of_mem hplanned) _ (List.mem_map_of_mem hbehind) hpre)
  · intro hnone way hway way' hway' hpre
    obtain ⟨planned, hplanned, rfl⟩ := List.mem_map.1 hway
    obtain ⟨behind, hbehind, rfl⟩ := List.mem_map.1 hway'
    by_contra hne
    obtain ⟨invocation, hinvocation, intent, hintent, other, hother, hthrough⟩ :=
      exists_leadsThrough_of_way_prefix h hplanned hbehind hpre hne
    exact hnone invocation hinvocation intent hintent other hother hthrough

/-- A name without slashes leads through nothing. -/
theorem not_leadsThrough_of_plain {intent other : Intent} (h : '/' ∉ intent.name.toList) :
    ¬ definition.LeadsThrough intent other := by
  rintro ⟨file, -, hpre⟩
  rw [(Path.steps_json h).2] at hpre
  exact file.steps_fileName_ne_nil (List.prefix_nil.1 hpre)

/-! ## Writing below an empty directory -/

/-- Every artifact that was assembled has a planned file. -/
theorem exists_planned_of_mem (h : (definition.assemble config fresh).result = .ok set)
    {artifact : Artifact} (hartifact : artifact ∈ set.artifacts) :
    ∃ planned ∈ definition.wholeFiles config, planned.path config.layout = .ok artifact.path := by
  have hpath : (.ok artifact.path : Except BuildError Path) ∈ set.paths.map .ok :=
    List.mem_map_of_mem (List.mem_map_of_mem hartifact)
  rw [paths_of_assemble h] at hpath
  exact List.mem_map.1 hpath

theorem noneInside_names_iff (h : (definition.assemble config fresh).result = .ok set) :
    NoneInside (set.artifacts.map fun artifact => artifact.path.names) ↔ NoneInside set.places := by
  have hplaces : set.places =
      (set.artifacts.map fun artifact => artifact.path.names).map (List.map .name) := by
    rw [ArtifactSet.places, List.map_map]
    refine List.map_congr_left fun artifact hartifact => ?_
    obtain ⟨planned, -, hpath⟩ := exists_planned_of_mem h hartifact
    exact PlannedFile.components_eq_names hpath
      ((sound_of_assemble h).faultless artifact hartifact)
  have hinjective : Function.Injective Component.name := fun _ _ => Component.name.inj
  rw [hplaces]
  simp only [NoneInside, List.forall_mem_map, List.prefix_map_iff_of_injective hinjective,
    Path.map_name_inj]

/-- A schema is written below an empty directory exactly if the paths of its files can be stored and
no artifact lies inside of another one. The directory then holds these files. -/
theorem build_below_directory (h : (definition.assemble config fresh).result = .ok set)
    {disk : Disk} {root : Path} {location : Location} (hroot : root.text ≠ "")
    (hempty : disk.Holds root location []) :
    ((((fileWriter diskHost.store root).build definition config fresh .schema).run disk).1.result =
        .ok ⟨set.size, set.paths⟩ ↔
      (∀ artifact ∈ set.artifacts, Storable (root.join artifact.path) artifact.path.names) ∧
        NoneInside set.places) ∧
    ((((fileWriter diskHost.store root).build definition config fresh .schema).run disk).1.result =
        .ok ⟨set.size, set.paths⟩ →
      (((fileWriter diskHost.store root).build definition config fresh .schema).run
          disk).2.Holds root location (set.artifacts.map fun artifact => artifact.path.names)) := by
  have hpaths : ∀ artifact ∈ set.artifacts, root.NamesFile artifact.path := by
    intro artifact hartifact
    obtain ⟨planned, -, hpath⟩ := exists_planned_of_mem h hartifact
    exact PlannedFile.namesFile hpath ((sound_of_assemble h).faultless artifact hartifact) root
  obtain ⟨hbuild, hdisk⟩ := Writer.run_build (fileWriter diskHost.store root) disk
    ((result_assembleFor_schema definition config fresh).trans h)
  obtain ⟨hemit, hemitted⟩ := (fileWriter diskHost.store root).run_emit disk set
  obtain ⟨hwritten, hholds⟩ := run_writeEach_directory hroot hempty hpaths
  rw [List.append_nil] at hwritten hholds
  -- a build succeeds exactly if the writing does
  have hresult : (((fileWriter diskHost.store root).build definition config fresh .schema).run
      disk).1.result = .ok ⟨set.size, set.paths⟩ ↔
      (((fileWriter diskHost.store root).writeEach set.artifacts).run disk).1.result = .ok () := by
    rw [hbuild, hemit]
    cases (((fileWriter diskHost.store root).writeEach set.artifacts).run disk).1.result <;>
      simp [Except.map, Except.mapError]
  constructor
  · rw [hresult, hwritten, noneInside_names_iff h]
  · rw [hresult, hdisk, hemitted]
    exact hholds

/-- **A schema that was assembled has a place in the way of another one exactly if an intent leads
through a file of another intent**, so never without slashes in the names of intents. Any memory
takes the schema all the same. An empty directory takes it exactly if no place is in the way of
another one and all paths can be stored, and then holds its files and nothing else. -/
theorem assemble_written_below (h : (definition.assemble config fresh).result = .ok set) :
    (NoneInside set.places ↔
      ∀ invocation ∈ definition.invocations,
        ∀ intent ∈ definition.intentsFor config.platform (some invocation.environment),
          ∀ other ∈ definition.intentsFor config.platform (some invocation.environment),
            ¬ definition.LeadsThrough intent other) ∧
    ((∀ invocation ∈ definition.invocations,
        ∀ intent ∈ definition.intentsFor config.platform (some invocation.environment),
          '/' ∉ intent.name.toList) →
      NoneInside set.places) ∧
    (∀ store, (((memoryWriter []).build definition config fresh .schema).run store).1.result =
      .ok ⟨set.size, set.paths⟩) ∧
    ∀ (disk : Disk) (root : Path) (location : Location), root.text ≠ "" →
      disk.Holds root location [] →
      ((((fileWriter diskHost.store root).build definition config fresh .schema).run
          disk).1.result = .ok ⟨set.size, set.paths⟩ ↔
        (∀ artifact ∈ set.artifacts, Storable (root.join artifact.path) artifact.path.names) ∧
          NoneInside set.places) ∧
      ((((fileWriter diskHost.store root).build definition config fresh .schema).run
          disk).1.result = .ok ⟨set.size, set.paths⟩ →
        (((fileWriter diskHost.store root).build definition config fresh .schema).run
          disk).2.Holds root location (set.artifacts.map fun artifact => artifact.path.names)) := by
  refine ⟨noneInside_places_iff h, ?_, ?_, ?_⟩
  · intro hplain
    refine (noneInside_places_iff h).2 fun invocation hinvocation intent hintent other _ => ?_
    exact not_leadsThrough_of_plain (hplain invocation hinvocation intent hintent)
  · intro store
    have hset := (result_assembleFor_schema definition config fresh).trans h
    exact ((buildOutcome_build definition fresh [] store config .schema).written set hset
      fun _ _ => rfl).1
  · intro disk root location hroot hempty
    exact build_below_directory h hroot hempty

/-- A definition with one environment and the intents of the given names. -/
def tours (names : List String) : Definition :=
  { empty with
    invocations := [⟨"alpha"⟩]
    intents := names.map .ofName }

/-- A disk with an empty directory. -/
def emptyShelf : Disk := ⟨[], [], [["shelf"]]⟩

theorem holds_emptyShelf : emptyShelf.Holds ⟨"shelf"⟩ ["shelf"] [] where
  found := by decide
  isDirectory := by decide
  file_iff := by simp [emptyShelf, Disk.file?]
  directory_iff := by
    intro names hne
    have hdeeper : ["shelf"] ++ names ≠ ["shelf"] := by simpa using hne
    simp [emptyShelf, Disk.isDirectory, hne]
  named := List.forall_mem_nil _
  fits := List.forall_mem_nil _
  apart := List.forall_mem_nil _

/-- The files of two intents lie beside each other, those of one in a directory of their own, and
are written below an empty directory. -/
theorem assemble_written_below_tours :
    ∃ set, ((tours ["a", "trips/b"]).assemble usEnglish (Uuid.generated 0)).result = .ok set ∧
      (((memoryWriter []).build (tours ["a", "trips/b"]) usEnglish (Uuid.generated 0) .schema).run
        .empty).1.result = .ok ⟨set.size, set.paths⟩ ∧
      (((fileWriter diskHost.store ⟨"shelf"⟩).build (tours ["a", "trips/b"]) usEnglish
        (Uuid.generated 0) .schema).run emptyShelf).1.result = .ok ⟨set.size, set.paths⟩ ∧
      (((fileWriter diskHost.store ⟨"shelf"⟩).build (tours ["a", "trips/b"]) usEnglish
        (Uuid.generated 0) .schema).run emptyShelf).2.Holds ⟨"shelf"⟩ ["shelf"]
          (set.artifacts.map fun artifact => artifact.path.names) := by
  have hstorable : ((tours ["a", "trips/b"]).assemble usEnglish
      (Uuid.generated 0)).result.toOption.any (fun set =>
        decide (∀ artifact ∈ set.artifacts,
          Storable (Path.join ⟨"shelf"⟩ artifact.path) artifact.path.names)) = true := by
    decide +kernel
  obtain ⟨set, hset, hall⟩ := exists_ok_of_any hstorable
  obtain ⟨hplaces, -, hmemory, hdirectory⟩ := assemble_written_below hset
  have hapart : NoneInside set.places := hplaces.2 (by decide +kernel)
  obtain ⟨hwritten, hholds⟩ := hdirectory emptyShelf ⟨"shelf"⟩ ["shelf"] (by decide)
    holds_emptyShelf
  have hok := hwritten.2 ⟨of_decide_eq_true hall, hapart⟩
  exact ⟨set, hset, hmemory .empty, hok, hholds hok⟩

/-- A schema is assembled in which a file lies inside of another one. It goes into a memory, but not
below an empty directory. Neither does one whose files have names that cannot be stored. -/
theorem exists_assemble_nested :
    (∃ set, ((tours ["a", "a.json/b"]).assemble usEnglish (Uuid.generated 0)).result = .ok set ∧
      ¬ NoneInside set.places) ∧
    (((memoryWriter []).build (tours ["a", "a.json/b"]) usEnglish (Uuid.generated 0) .schema).run
      .empty).1.result.isOk = true ∧
    (((fileWriter diskHost.store ⟨"shelf"⟩).build (tours ["a", "a.json/b"]) usEnglish
      (Uuid.generated 0) .schema).run emptyShelf).1.result.isOk = false ∧
    (∃ set, ((tours ["a\x00"]).assemble usEnglish (Uuid.generated 0)).result = .ok set ∧
      NoneInside set.places) ∧
    (((memoryWriter []).build (tours ["a\x00"]) usEnglish (Uuid.generated 0) .schema).run
      .empty).1.result.isOk = true ∧
    (((fileWriter diskHost.store ⟨"shelf"⟩).build (tours ["a\x00"]) usEnglish
      (Uuid.generated 0) .schema).run emptyShelf).1.result.isOk = false := by
  refine ⟨?_, by decide +kernel, by decide +kernel, ?_, by decide +kernel, by decide +kernel⟩
  · have hinside : ((tours ["a", "a.json/b"]).assemble usEnglish
        (Uuid.generated 0)).result.toOption.any (fun set => decide (¬ NoneInside set.places)) =
          true := by
      decide +kernel
    obtain ⟨set, hset, hnested⟩ := exists_ok_of_any hinside
    exact ⟨set, hset, of_decide_eq_true hnested⟩
  · have hnone : ((tours ["a\x00"]).assemble usEnglish
        (Uuid.generated 0)).result.toOption.any (fun set => decide (NoneInside set.places)) =
          true := by
      decide +kernel
    obtain ⟨set, hset, hapart⟩ := exists_ok_of_any hnone
    exact ⟨set, hset, of_decide_eq_true hapart⟩

end Definition

end VoiceSkill
