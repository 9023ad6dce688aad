import VoiceSkill.Coverage
import VoiceSkill.Proofs.Assembly.References

/-!
# Coverage and the samples of a schema

Coverage is counted on the definition alone, for all environments at once, while a schema is
assembled for one of them. The two agree all the same: an intent of a schema is warned of exactly if
the schema has too few samples for it, and the warning says how many (`coverage_counts_samples`).
The place of the samples would tell something else only if another intent were named like them.
-/

namespace VoiceSkill

/-- How many utterances a set has for an intent, none if there is no document of them. -/
def ArtifactSet.utteranceCount (set : ArtifactSet) (layout : Layout)
    (environment intent : String) : Nat :=
  (set.documentOf? layout environment (.samples intent)).elim 0 fun samples =>
    samples.items.length

theorem ArtifactSet.utteranceCount_of_some {set : ArtifactSet} {layout : Layout}
    {environment intent : String} {samples : Document}
    (h : set.documentOf? layout environment (.samples intent) = some samples) :
    set.utteranceCount layout environment intent = samples.items.length := by
  rw [utteranceCount, h]
  rfl

theorem ArtifactSet.utteranceCount_of_none {set : ArtifactSet} {layout : Layout}
    {environment intent : String}
    (h : set.documentOf? layout environment (.samples intent) = none) :
    set.utteranceCount layout environment intent = 0 := by
  rw [utteranceCount, h]
  rfl

/-- The definition of an intent lies where the samples of another belong only if its name ends like
theirs. -/
theorem SchemaFile.exists_stem_of_steps_eq {name other : String}
    (h : Path.steps (intent name).fileName = Path.steps (samples other).fileName) :
    ∃ stem, name = stem ++ "_usersays_en" := by
  rw [(fileName_intent_samples name).1, (fileName_intent_samples other).2] at h
  obtain ⟨stem, hstem⟩ := Path.suffix_of_steps_append_eq "_usersays_en" ".json" (by decide)
    (by decide) (by decide) h
  refine ⟨String.ofList stem, ?_⟩
  rw [← String.toList_inj, String.toList_append, String.toList_ofList, hstem]

namespace Definition

variable {definition : Definition} {config : BuildConfig} {fresh : Nat → Uuid} {first : Nat}
  {environment : String} {set : ArtifactSet} {intent : Intent}

/-! ## The samples of a schema -/

/-- What lies at the place of an intent's samples are these, or the definition of an intent that is
named like them. -/
theorem file_of_samples_place
    (h : (definition.assembleEnvironment config fresh first environment).result = .ok set)
    (hintent : intent ∈ definition.intentsFor config.platform (some environment))
    {d : SchemaFile × SchemaDocument Uuid}
    (hd : d ∈ definition.schemaDocuments config fresh first environment) {path place : Path}
    (hpath : d.1.path config.layout environment = .ok path)
    (hplace : (SchemaFile.samples intent.name).path config.layout environment = .ok place)
    (hsame : path.components = place.components) :
    d.1 = .samples intent.name ∨
      ∃ other ∈ definition.intentsFor config.platform (some environment),
        d.1 = .intent other.name ∧ ∃ stem, other.name = stem ++ "_usersays_en" := by
  obtain ⟨_, directory, hok, htext, _⟩ := exists_directory_of_assembleEnvironment h
  obtain ⟨_, hok', _, _, hplace', hcomponents⟩ := exists_intent_places h hintent
  obtain rfl := Except.ok.inj (hok.symm.trans hok')
  obtain rfl := Except.ok.inj (hplace.symm.trans hplace')
  obtain ⟨artifact, hartifact, hpath', _⟩ := exists_artifact_of_mem_schemaDocuments h hd
  obtain rfl := Except.ok.inj (hpath.symm.trans hpath')
  obtain ⟨hrelative, _⟩ := SchemaFile.isRelative_of_fault?_eq_none htext hok hpath
    ((sound_of_assembleEnvironment h).faultless artifact hartifact)
  obtain ⟨_, hfound, _, hsteps⟩ := SchemaFile.components_path_of_isRelative htext hok hrelative
  obtain rfl := Except.ok.inj (hpath.symm.trans hfound)
  -- behind the directory of the environment, both ways lead through that of the intents
  rw [hsteps, hcomponents, List.append_cancel_left_eq] at hsame
  have hfile : d.1 ∈ definition.schemaFiles config environment := by
    rw [← map_fst_schemaDocuments definition config fresh first]
    exact List.mem_map_of_mem hd
  cases hkind : d.1 with
  | entity slotKey => simp [hkind, SchemaFile.directory?] at hsame
  | entries slotKey => simp [hkind, SchemaFile.directory?] at hsame
  | agent =>
      rw [hkind] at hsame
      exact absurd (List.cons.inj hsame).1 (by decide)
  | package =>
      rw [hkind] at hsame
      exact absurd (List.cons.inj hsame).1 (by decide)
  | intent name =>
      rw [hkind] at hsame hfile
      obtain ⟨other, hother, rfl⟩ := intent_mem_schemaFiles.1 hfile
      exact .inr ⟨other, hother, rfl, SchemaFile.exists_stem_of_steps_eq (List.cons.inj hsame).2⟩
  | samples name =>
      rw [hkind] at hpath hfile
      obtain ⟨other, hother, rfl, _⟩ := samples_mem_schemaFiles.1 hfile
      have hone := eq_of_samples_place h hintent hother hplace hpath (by
        rw [hcomponents, hsteps, hsame])
      rw [hone]
      exact .inl rfl

/-- **A schema has as many utterances for an intent as the intent has merged samples.** -/
theorem utteranceCount_eq
    (h : (definition.assembleEnvironment config fresh first environment).result = .ok set)
    (hnames : ∀ other ∈ definition.intentsFor config.platform (some environment), ∀ stem,
      other.name ≠ stem ++ "_usersays_en")
    (hintent : intent ∈ definition.intentsFor config.platform (some environment)) :
    set.utteranceCount config.layout environment intent.name =
      (definition.mergedSamples intent.name).length := by
  by_cases hmerged : definition.mergedSamples intent.name = []
  · have hnone : set.documentOf? config.layout environment (.samples intent.name) = none := by
      by_contra hsome
      obtain ⟨samples, hsamples⟩ := Option.ne_none_iff_exists'.1 hsome
      obtain ⟨place, artifact, hplace, hget, _⟩ := ArtifactSet.documentOf?_eq_some_iff.1 hsamples
      obtain ⟨hartifact, hsame⟩ := ArtifactSet.mem_of_get?_eq_some hget
      obtain ⟨d, hd, hpath, _⟩ := (mem_artifacts_of_assembleEnvironment h).1 hartifact
      rcases file_of_samples_place h hintent hd hpath hplace hsame with
        hfile | ⟨other, hother, _, stem, hstem⟩
      · have hmem : d.1 ∈ definition.schemaFiles config environment := by
          rw [← map_fst_schemaDocuments definition config fresh first]
          exact List.mem_map_of_mem hd
        rw [hfile] at hmem
        obtain ⟨other, _, hname, hother⟩ := samples_mem_schemaFiles.1 hmem
        rw [hname] at hother
        exact hother hmerged
      · exact hnames other hother stem hstem
    rw [ArtifactSet.utteranceCount_of_none hnone, hmerged]
    rfl
  · obtain ⟨document, hplan, hdocument⟩ :=
      exists_documentOf? h (samples_mem_schemaPlan hintent hmerged)
    rw [ArtifactSet.utteranceCount_of_some hdocument]
    cases document with
    | samples utterances =>
        have hlength := congrArg List.length (SchemaDocument.samples.inj hplan)
        rw [List.length_map, compileSamples, List.length_map] at hlength
        rw [SchemaDocument.toDocument, Document.items_list, List.length_map, hlength]
        rfl
    | _ => cases hplan

/-! ## Warnings -/

/-- The intents that are warned of. -/
theorem map_intent_coverageWarnings (definition : Definition) (config : BuildConfig) :
    (definition.coverageWarnings config).map CoverageWarning.intent =
      ((definition.intentsFor config.platform none).filter fun intent =>
        (definition.mergedSamples intent.name).length < config.leastUtterances.toNat).map
          Intent.name := by
  rw [coverageWarnings, List.map_filterMap, ← List.filterMap_eq_map, List.filterMap_filter]
  congr 1
  funext intent
  rw [coverageWarning?]
  by_cases hfew : (definition.mergedSamples intent.name).length < config.leastUtterances.toNat
  · simp [hfew]
  · simp [hfew]

/-- A warning says how many samples there are and how many there should be. -/
theorem eq_of_mem_coverageWarnings {warning : CoverageWarning}
    (h : warning ∈ definition.coverageWarnings config) :
    warning = ⟨warning.intent, (definition.mergedSamples warning.intent).length,
      config.leastUtterances⟩ := by
  obtain ⟨intent, _, hwarning⟩ := List.mem_filterMap.1 h
  rw [coverageWarning?] at hwarning
  split at hwarning
  · cases hwarning
    rfl
  · cases hwarning

/-- An intent that is built for an environment is, or is shadowed by another one of its name, among
the intents that are built for any. -/
theorem name_mem_intentsFor_none {platform : String} {environment : Option String}
    (h : intent ∈ definition.intentsFor platform environment) :
    intent.name ∈ (definition.intentsFor platform none).map Intent.name := by
  have hdeclared : intent ∈ definition.declaredIntents platform environment :=
    (keepFirst_sublist Intent.name _).subset h
  obtain ⟨hmem, hfor⟩ := List.mem_filter.1 hdeclared
  rw [intentsFor, mem_map_keepFirst]
  refine List.mem_map_of_mem (List.mem_filter.2 ⟨hmem, ?_⟩)
  rw [Intent.isFor, Bool.and_eq_true] at hfor ⊢
  exact ⟨hfor.1, rfl⟩

theorem exists_coverageWarning_iff {environment : Option String}
    (h : intent ∈ definition.intentsFor config.platform environment) :
    (∃ warning ∈ definition.coverageWarnings config, warning.intent = intent.name) ↔
      (definition.mergedSamples intent.name).length < config.leastUtterances.toNat := by
  have hname := name_mem_intentsFor_none h
  rw [← List.mem_map, map_intent_coverageWarnings, List.mem_map]
  constructor
  · rintro ⟨other, hother, hsame⟩
    rw [← hsame]
    simpa using (List.mem_filter.1 hother).2
  · intro hfew
    obtain ⟨other, hother, hsame⟩ := List.mem_map.1 hname
    exact ⟨other, List.mem_filter.2 ⟨hother, by simpa [hsame] using hfew⟩, hsame⟩

/-- **An intent of a schema is warned of exactly if the schema has too few utterances for it**, and
the warning gives their number, as long as no intent is named like the samples of another. Every
warning is about an intent of the platform, and no two are about one name. -/
theorem coverage_counts_samples (definition : Definition) (config : BuildConfig) :
    (∀ fresh first environment set,
      (definition.assembleEnvironment config fresh first environment).result = .ok set →
      (∀ other ∈ definition.intentsFor config.platform (some environment), ∀ stem,
        other.name ≠ stem ++ "_usersays_en") →
      ∀ intent ∈ definition.intentsFor config.platform (some environment),
        ((∃ warning ∈ definition.coverageWarnings config, warning.intent = intent.name) ↔
          set.utteranceCount config.layout environment intent.name <
            config.leastUtterances.toNat) ∧
        ∀ warning ∈ definition.coverageWarnings config, warning.intent = intent.name →
          warning.samples = set.utteranceCount config.layout environment intent.name) ∧
    (∀ warning ∈ definition.coverageWarnings config, ∃ intent ∈ definition.intents,
      intent.appliesToPlatform config.platform = true ∧ intent.name = warning.intent) ∧
    ((definition.coverageWarnings config).map CoverageWarning.intent).Nodup := by
  refine ⟨?_, ?_, ?_⟩
  · intro fresh first environment set hset hnames intent hintent
    rw [utteranceCount_eq hset hnames hintent]
    refine ⟨exists_coverageWarning_iff hintent, ?_⟩
    intro warning hwarning hsame
    rw [eq_of_mem_coverageWarnings hwarning, hsame]
  · intro warning hwarning
    have hname := List.mem_map_of_mem (f := CoverageWarning.intent) hwarning
    rw [map_intent_coverageWarnings] at hname
    obtain ⟨intent, hintent, hsame⟩ := List.mem_map.1 hname
    have hdeclared := (keepFirst_sublist Intent.name _).subset (List.mem_filter.1 hintent).1
    obtain ⟨hmem, hfor⟩ := List.mem_filter.1 hdeclared
    rw [Intent.isFor, Bool.and_eq_true] at hfor
    exact ⟨intent, hmem, hfor.1, hsame⟩
  · rw [map_intent_coverageWarnings]
    exact (definition.nodup_names_intentsFor _ _).sublist (List.filter_sublist.map Intent.name)

/-- Flights to a city, of which some are known, and help about them. -/
def briefedFlights : Definition :=
  { cityFlights with intents := .ofName "HelpIntent" :: cityFlights.intents }

/-- Of five samples that there should be a flight has one, so it is warned of; help has them all. -/
theorem coverage_counts_samples_briefedFlights :
    ∃ set, (briefedFlights.assembleEnvironment usEnglish (Uuid.generated 0) 0 "alpha").result =
        .ok set ∧
      set.utteranceCount usEnglish.layout "alpha" "BookFlight" = 1 ∧
      (∃ warning ∈ briefedFlights.coverageWarnings usEnglish, warning.intent = "BookFlight") ∧
      ¬ set.utteranceCount usEnglish.layout "alpha" "HelpIntent" < 5 := by
  have hok : (briefedFlights.assembleEnvironment usEnglish (Uuid.generated 0) 0
      "alpha").result.isOk = true := by decide +kernel
  obtain ⟨set, hset⟩ := exists_ok_of_isOk hok
  have hnames : ∀ other ∈ briefedFlights.intentsFor usEnglish.platform (some "alpha"), ∀ stem,
      other.name ≠ stem ++ "_usersays_en" := by
    -- both names are too short to end like that
    have hshort : ∀ other ∈ briefedFlights.intentsFor usEnglish.platform (some "alpha"),
        other.name.length < "_usersays_en".length := by decide +kernel
    intro other hother stem hstem
    have hlength := hshort other hother
    rw [hstem, String.length_append] at hlength
    omega
  have hcoverage :=
    (coverage_counts_samples briefedFlights usEnglish).1 _ _ _ set hset hnames
  have hflight := hcoverage ⟨"BookFlight", [], [], [⟨"city", "City", []⟩]⟩ (by decide +kernel)
  have hhelp := hcoverage (.ofName "HelpIntent") (by decide +kernel)
  have hwarning : ⟨"BookFlight", 1, 5⟩ ∈ briefedFlights.coverageWarnings usEnglish := by
    decide +kernel
  refine ⟨set, hset, (hflight.2 _ hwarning rfl).symm, ⟨_, hwarning, rfl⟩, ?_⟩
  intro hfew
  have hnone : ¬ ∃ warning ∈ briefedFlights.coverageWarnings usEnglish,
      warning.intent = "HelpIntent" := by decide +kernel
  exact hnone (hhelp.1.2 hfew)

end Definition

end VoiceSkill
