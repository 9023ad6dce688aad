import VoiceSkill.Proofs.Assembly.Containment
import VoiceSkill.Proofs.Writer.Memory

/-!
# Builds into memory

A build assembles everything before it writes the first artifact. So it changes nothing if anything
is wrong with the definition, and otherwise its outcome depends on the places of the memory that
fail: without any among them all artifacts are stored and nothing else changes, and with some the
build is rejected for one of them (`build_outcome`).
-/

namespace VoiceSkill

open MemoryStore

/-! ## What is written -/

namespace Writer

variable {σ : Type} (writer : Writer (StateM σ)) (store : σ)

/-- What is written depends on the artifacts alone, and so do the number and the paths given. -/
theorem run_emit (set : ArtifactSet) :
    ((writer.emit set).run store).1.result =
        (((writer.writeEach set.artifacts).run store).1.result.mapError BuildError.write).map
          (fun _ => ⟨set.size, set.paths⟩) ∧
      ((writer.emit set).run store).2 = ((writer.writeEach set.artifacts).run store).2 := by
  rw [emit, writeAll, StateT.run_bind, StateT.run_bind]
  -- what is reported around the writing leaves its result as it is
  rcases (writer.writeEach set.artifacts).run store with ⟨⟨_ | _, _⟩, _⟩ <;> exact ⟨rfl, rfl⟩

/-- A build writes what has been assembled. -/
theorem run_build {definition : Definition} {config : BuildConfig} {fresh : Nat → Uuid}
    {operation : Operation} {set : ArtifactSet}
    (h : (definition.assembleFor config fresh operation).result = .ok set) :
    ((writer.build definition config fresh operation).run store).1.result =
        ((writer.emit set).run store).1.result ∧
      ((writer.build definition config fresh operation).run store).2 =
        ((writer.emit set).run store).2 := by
  rw [build, Logged.andThen, h]
  exact ⟨rfl, rfl⟩

end Writer

/-! ## Outcomes -/

/-- What a build does to a memory with places that fail, by what was assembled for it. An error is
given as it is, and nothing has changed (`failed`). If no artifact has a place that fails, their
number and paths are given; the memory has each of their documents, and in all other places what it
had (`written`). If artifacts have places that fail, the build is rejected for one of them
(`rejected`). -/
structure BuildOutcome (failing : List Path) (store : MemoryStore)
    (assembled : Except BuildError ArtifactSet)
    (outcome : Logged BuildError Summary × MemoryStore) : Prop where
  failed : ∀ e, assembled = .error e → outcome.1.result = .error e ∧ outcome.2 = store
  written : ∀ set, assembled = .ok set →
    (∀ artifact ∈ set.artifacts, refuses failing artifact.path = false) →
    outcome.1.result = .ok ⟨set.size, set.paths⟩ ∧
    (∀ artifact ∈ set.artifacts, outcome.2.get? artifact.path = some artifact.document) ∧
    ∀ path, (∀ artifact ∈ set.artifacts, artifact.path.sameAs path = false) →
      outcome.2.get? path = store.get? path
  rejected : ∀ set, assembled = .ok set →
    (∃ artifact ∈ set.artifacts, refuses failing artifact.path = true) →
    ∃ artifact ∈ set.artifacts, refuses failing artifact.path = true ∧
      outcome.1.result = .error (.write (.rejected artifact.path))

/-- A build that succeeds has no artifact at a place that fails. -/
theorem BuildOutcome.exists_of_ok {failing : List Path} {store : MemoryStore}
    {assembled : Except BuildError ArtifactSet} {outcome : Logged BuildError Summary × MemoryStore}
    {summary : Summary} (h : BuildOutcome failing store assembled outcome)
    (hok : outcome.1.result = .ok summary) :
    ∃ set, assembled = .ok set ∧
      ∀ artifact ∈ set.artifacts, refuses failing artifact.path = false := by
  cases hassembled : assembled with
  | error e =>
      rw [(h.failed e hassembled).1] at hok
      cases hok
  | ok set =>
      refine ⟨set, rfl, fun artifact hartifact => ?_⟩
      rw [← Bool.not_eq_true]
      intro hrefuses
      obtain ⟨_, _, _, hrejected⟩ := h.rejected set hassembled ⟨artifact, hartifact, hrefuses⟩
      rw [hrejected] at hok
      cases hok

/-- Writing a sound set has such an outcome. -/
theorem buildOutcome_emit {set : ArtifactSet} (h : set.Sound) (failing : List Path)
    (store : MemoryStore) :
    BuildOutcome failing store (.ok set) (((memoryWriter failing).emit set).run store) := by
  obtain ⟨hresult, hstore⟩ := (memoryWriter failing).run_emit store set
  rcases run_writeEach_cases failing h.faultless store with
    ⟨artifact, hartifact, hrefuses, hwritten⟩ | ⟨hfree, hwritten, hstored⟩
  · refine ⟨nofun, ?_, ?_⟩
    · rintro _ ⟨⟩ hnone
      rw [hnone artifact hartifact] at hrefuses
      cases hrefuses
    · rintro _ ⟨⟩ _
      refine ⟨artifact, hartifact, hrefuses, ?_⟩
      rw [hresult, hwritten]
      rfl
  · refine ⟨nofun, ?_, ?_⟩
    · rintro _ ⟨⟩ _
      rw [hresult, hstore, hwritten, hstored]
      exact ⟨rfl, fun artifact hartifact => get?_putAll_of_mem store h.apart hartifact,
        fun path hpath => get?_putAll_of_not_mem store hpath⟩
    · rintro _ ⟨⟩ ⟨artifact, hartifact, hrefuses⟩
      rw [hfree artifact hartifact] at hrefuses
      cases hrefuses

namespace Definition

variable (definition : Definition) (fresh : Nat → Uuid) (failing : List Path)
  (store : MemoryStore)

theorem buildOutcome_build (config : BuildConfig) (operation : Operation) :
    BuildOutcome failing store (definition.assembleFor config fresh operation).result
      (((memoryWriter failing).build definition config fresh operation).run store) := by
  rw [Writer.build, Logged.andThen]
  cases hassembled : (definition.assembleFor config fresh operation).result with
  | error e =>
      refine ⟨?_, ?_, ?_⟩
      · rintro _ ⟨⟩
        exact ⟨rfl, rfl⟩
      · intro set hset
        cases hset
      · intro set hset
        cases hset
  | ok set =>
      -- what is reported before the writing changes nothing about its outcome
      obtain ⟨hfailed, hwritten, hrejected⟩ :=
        buildOutcome_emit (sound_of_assembleFor hassembled) failing store
      exact ⟨hfailed, hwritten, hrejected⟩

/-- **A build writes everything or, if anything is wrong before the writing, nothing.** Whatever it
builds and whatever the memory holds, a build gives an error of the assembly as it is and changes
nothing; it writes all artifacts where no place fails, and is rejected for one that does. So does a
build with the configuration that the definition sets by itself, if that is valid. -/
theorem build_outcome :
    (∀ config operation,
      BuildOutcome failing store (definition.assembleFor config fresh operation).result
        (((memoryWriter failing).build definition config fresh operation).run store)) ∧
    (∀ e, BuildConfig.ofDefinition definition = .error e →
      (((memoryWriter failing).buildStandalone definition fresh).run store).1.result =
          .error (.config e) ∧
        (((memoryWriter failing).buildStandalone definition fresh).run store).2 = store) ∧
    ∀ config, BuildConfig.ofDefinition definition = .ok config →
      BuildOutcome failing store (definition.assembleFor config fresh .schema).result
        (((memoryWriter failing).buildStandalone definition fresh).run store) := by
  refine ⟨buildOutcome_build definition fresh failing store, ?_, ?_⟩
  · intro e he
    rw [Writer.buildStandalone, buildConfigOf, he]
    exact ⟨rfl, rfl⟩
  · intro config hconfig
    obtain ⟨hfailed, hwritten, hrejected⟩ :=
      buildOutcome_build definition fresh failing store config .schema
    rw [Writer.buildStandalone, buildConfigOf, hconfig]
    exact ⟨hfailed, hwritten, hrejected⟩

/-- A tour is written to a memory beside what it holds, unless a file of the tour is to fail, by
whatever name. Nothing happens for an environment that leads up or without a locale. -/
theorem build_outcome_tour :
    let store := MemoryStore.empty.put ⟨"notes.json"⟩ .null
    let failing : List Path := [⟨"en-US/dialog-flow/./alpha//agent.json"⟩]
    let fresh := Uuid.generated 0
    (∃ set, ((tour ["alpha"] "Flight").assembleFor usEnglish fresh .schema).result = .ok set ∧
      (((memoryWriter []).build (tour ["alpha"] "Flight") usEnglish fresh .schema).run
        store).1.result = .ok ⟨set.size, set.paths⟩ ∧
      (((memoryWriter []).build (tour ["alpha"] "Flight") usEnglish fresh .schema).run
        store).2.get? ⟨"notes.json"⟩ = some .null) ∧
    (∃ path, (((memoryWriter failing).build (tour ["alpha"] "Flight") usEnglish fresh .schema).run
      store).1.result = .error (.write (.rejected path))) ∧
    (∃ e, (((memoryWriter []).build (tour [".."] "Flight") usEnglish fresh .schema).run
        store).1.result = .error e ∧
      (((memoryWriter []).build (tour [".."] "Flight") usEnglish fresh .schema).run
        store).2 = store) ∧
    (((memoryWriter []).buildStandalone (tour ["alpha"] "Flight") fresh).run store).1.result =
        .error (.config .missingLocale) ∧
      (((memoryWriter []).buildStandalone (tour ["alpha"] "Flight") fresh).run
        store).2 = store := by
  intro store failing fresh
  have hassembled : ((tour ["alpha"] "Flight").assembleFor usEnglish fresh
      .schema).result.toOption.any (fun set =>
        set.artifacts.any (fun artifact => refuses failing artifact.path) &&
        set.artifacts.all fun artifact => !artifact.path.sameAs ⟨"notes.json"⟩) = true := by
    decide +kernel
  cases hset : ((tour ["alpha"] "Flight").assembleFor usEnglish fresh .schema).result with
  | error e =>
      rw [hset] at hassembled
      cases hassembled
  | ok set =>
      rw [hset] at hassembled
      obtain ⟨hfails, hother⟩ := (Bool.and_eq_true _ _).mp hassembled
      refine ⟨⟨set, rfl, ?_⟩, ?_, ?_, ?_⟩
      · obtain ⟨hresult, _, hkept⟩ := ((build_outcome (tour ["alpha"] "Flight") fresh [] store).1
          usEnglish .schema).written set hset fun _ _ => rfl
        refine ⟨hresult, hkept _ fun artifact hartifact => ?_⟩
        simpa using List.all_eq_true.1 hother artifact hartifact
      · obtain ⟨artifact, _, _, hrejected⟩ :=
          ((build_outcome (tour ["alpha"] "Flight") fresh failing store).1
            usEnglish .schema).rejected set hset (List.any_eq_true.1 hfails)
        exact ⟨artifact.path, hrejected⟩
      · exact ⟨.invalidEnvironment "..",
          ((build_outcome (tour [".."] "Flight") fresh [] store).1 usEnglish .schema).failed _ rfl⟩
      · exact (build_outcome (tour ["alpha"] "Flight") fresh [] store).2.1 .missingLocale rfl

end Definition

end VoiceSkill
