import VoiceSkill.Proofs.Assembly.Configurations
import VoiceSkill.Proofs.Document
import VoiceSkill.Proofs.Sample

/-!
# Schemas of definitions that agree

What a definition says about one environment on one platform is its slot values, the intents that
are built there, and the merged samples of these. Two definitions that agree on that have the same
schema but for identifiers (`assembleEnvironment_of_agreement`), whatever else they say. In
particular a definition has the schema of its extract, which says nothing else.
-/

namespace VoiceSkill

/-! ## Outcomes -/

/-- Two artifacts with one path whose documents differ in their identifiers at most. -/
structure Artifact.Twin (a b : Artifact) : Prop where
  path : a.path = b.path
  documents : a.document.Alike b.document

/-- Two sets of artifacts that are twins pair by pair. -/
def ArtifactSet.Twin (set set' : ArtifactSet) : Prop :=
  List.Forall₂ Artifact.Twin set.artifacts set'.artifacts

/-- Two results that are one and the same error, or values in a relation. -/
inductive SameResult {α : Type} (R : α → α → Prop) :
    Except BuildError α → Except BuildError α → Prop where
  | error (e : BuildError) : SameResult R (.error e) (.error e)
  | ok {a b : α} (h : R a b) : SameResult R (.ok a) (.ok b)

theorem SameResult.bind {α β : Type} {R : α → α → Prop} {S : β → β → Prop}
    {x y : Except BuildError α} {f g : α → Except BuildError β} (h : SameResult R x y)
    (hnext : ∀ a b, R a b → SameResult S (f a) (g b)) : SameResult S (x >>= f) (y >>= g) := by
  cases h with
  | error e => exact .error e
  | ok h => exact hnext _ _ h

theorem SameResult.exists_of_ok {α : Type} {R : α → α → Prop} {a : α} {y : Except BuildError α}
    (h : SameResult R (.ok a) y) : ∃ b, y = .ok b ∧ R a b := by
  cases h with
  | ok h => exact ⟨_, rfl, h⟩

variable {set set' : ArtifactSet}

theorem ArtifactSet.Twin.places_eq (h : set.Twin set') : set.places = set'.places := by
  rw [places, places, ← List.forall₂_eq_eq_eq, List.forall₂_map_left_iff,
    List.forall₂_map_right_iff]
  exact h.imp fun _ _ hpair => congrArg Path.components hpair.path

/-- One of two twins is added, or refused, as the other is. -/
theorem ArtifactSet.Twin.add (h : set.Twin set') {row row' : Except BuildError Artifact}
    (hrow : SameResult Artifact.Twin row row') :
    SameResult ArtifactSet.Twin (set.add row) (set'.add row') := by
  cases hrow with
  | error e => exact .error e
  | @ok a b hab =>
      cases hfault : a.path.fault? with
      | some fault =>
          rw [add_of_error (push_of_fault hfault),
            add_of_error (push_of_fault (hab.path ▸ hfault)), hab.path]
          exact .error _
      | none =>
          have hfault' : b.path.fault? = none := hab.path ▸ hfault
          by_cases htaken : a.path.components ∈ set.places
          · have htaken' : b.path.components ∈ set'.places := by
              rwa [← hab.path, ← h.places_eq]
            rw [add_of_error (push_of_taken hfault htaken),
              add_of_error (push_of_taken hfault' htaken'), hab.path]
            exact .error _
          · have hfree' : b.path.components ∉ set'.places := by
              rwa [← hab.path, ← h.places_eq]
            rw [add_of_ok (push_of_fresh hfault htaken), add_of_ok (push_of_fresh hfault' hfree')]
            exact .ok (List.rel_append h (.cons hab .nil))

theorem ArtifactSet.Twin.foldlM_add (h : set.Twin set')
    {rows rows' : List (Except BuildError Artifact)}
    (hrows : List.Forall₂ (SameResult Artifact.Twin) rows rows') :
    SameResult ArtifactSet.Twin (rows.foldlM ArtifactSet.add set)
      (rows'.foldlM ArtifactSet.add set') := by
  induction hrows generalizing set set' with
  | nil => exact .ok h
  | cons hrow _ ih =>
      rw [List.foldlM_cons, List.foldlM_cons]
      exact (h.add hrow).bind fun _ _ hnext => ih hnext

/-- A file has one path in one layout, whatever the identifiers in its document. -/
theorem sameResult_artifact (layout : Layout) (environment : String)
    {d e : SchemaFile × SchemaDocument Uuid} (hfile : d.1 = e.1)
    (hdocument : d.2.map anonymous = e.2.map anonymous) :
    SameResult Artifact.Twin (SchemaFile.artifact layout environment d)
      (SchemaFile.artifact layout environment e) := by
  rw [SchemaFile.artifact, SchemaFile.artifact, hfile]
  cases e.1.path layout environment with
  | error error => exact .error error
  | ok path => exact .ok ⟨rfl, d.2, e.2, hdocument, rfl, rfl⟩

/-! ## Agreement -/

namespace Definition

/-- Two definitions that say the same about an environment on a platform: they have the same slot
values and build the same intents, each from the same samples. -/
structure AgreesWith (definition other : Definition) (platform environment : String) : Prop where
  slots : definition.slots = other.slots
  intents : definition.intentsFor platform (some environment) =
    other.intentsFor platform (some environment)
  samples : ∀ intent ∈ definition.intentsFor platform (some environment),
    mergeSamples intent.name (definition.samplesOf intent.name) =
      mergeSamples intent.name (other.samplesOf intent.name)

/-- The part of a definition that is about an environment on a platform: the slot values, the
intents that are built there and their merged samples, and nothing else. -/
def extract (definition : Definition) (platform environment : String) : Definition :=
  let intents := definition.intentsFor platform (some environment)
  { empty with
    intents
    slots := definition.slots
    utterances := Dict.ofList (intents.map fun intent =>
      (intent.name, mergeSamples intent.name (definition.samplesOf intent.name))) }

variable {definition other : Definition} {config : BuildConfig} {environment : String}

/-- Intents that have been chosen are all chosen again. -/
theorem intentsFor_extract (definition : Definition) (platform environment : String) :
    (definition.extract platform environment).intentsFor platform (some environment) =
      definition.intentsFor platform (some environment) := by
  have hall : ((definition.intentsFor platform (some environment)).filter fun intent =>
      intent.isFor platform (some environment)) =
      definition.intentsFor platform (some environment) := by
    rw [List.filter_eq_self]
    intro intent hintent
    have hdeclared := (keepFirst_sublist Intent.name _).subset hintent
    exact (List.mem_filter.1 hdeclared).2
  have hnames := definition.nodup_names_intentsFor platform (some environment)
  show keepFirst Intent.name ((definition.intentsFor platform (some environment)).filter _) = _
  rw [hall, keepFirst_eq_self hnames]

theorem samplesOf_extract {platform : String} {intent : Intent}
    (h : intent ∈ definition.intentsFor platform (some environment)) :
    (definition.extract platform environment).samplesOf intent.name =
      mergeSamples intent.name (definition.samplesOf intent.name) := by
  have hkeys : (((definition.intentsFor platform (some environment)).map fun intent =>
      (intent.name, mergeSamples intent.name (definition.samplesOf intent.name))).map
        Prod.fst).Nodup := by
    rw [List.map_map]
    exact definition.nodup_names_intentsFor platform (some environment)
  rw [samplesOf, extract, Dict.get?_ofList_of_mem hkeys (List.mem_map_of_mem h), Option.getD_some]

/-- A definition agrees with its extract. -/
theorem agreesWith_extract (definition : Definition) (platform environment : String) :
    definition.AgreesWith (definition.extract platform environment) platform environment where
  slots := rfl
  intents := (definition.intentsFor_extract platform environment).symm
  samples := by
    intro intent hintent
    rw [samplesOf_extract hintent, mergeSamples_mergeSamples]

/-- The plan of a schema follows from what definitions agree on. -/
theorem schemaPlan_of_agreement (h : definition.AgreesWith other config.platform environment) :
    definition.schemaPlan config environment = other.schemaPlan config environment := by
  have hfiles : ∀ intent ∈ definition.intentsFor config.platform (some environment),
      intentFiles config intent (definition.samplesOf intent.name) =
        intentFiles config intent (other.samplesOf intent.name) := by
    intro intent hintent
    rw [intentFiles, intentFiles, compileSamples, compileSamples, h.samples intent hintent]
  rw [schemaPlan, schemaPlan, entitySlots, entitySlots, h.slots, ← h.intents,
    List.flatMap_congr hfiles]

/-- Definitions that agree have the same schema when they are given the same identifiers. -/
theorem result_assembleEnvironment_of_agreesWith
    (h : definition.AgreesWith other config.platform environment) (fresh : Nat → Uuid)
    (first : Nat) :
    (definition.assembleEnvironment config fresh first environment).result =
      (other.assembleEnvironment config fresh first environment).result := by
  rw [result_assembleEnvironment_eq, result_assembleEnvironment_eq, schemaDocuments,
    schemaDocuments, schemaPlan_of_agreement h]

/-- When they are given others, their schemas are twins. -/
theorem assembleEnvironment_twin (h : definition.AgreesWith other config.platform environment)
    (fresh fresh' : Nat → Uuid) (first first' : Nat) :
    SameResult ArtifactSet.Twin
      (definition.assembleEnvironment config fresh first environment).result
      (other.assembleEnvironment config fresh' first' environment).result := by
  rw [result_assembleEnvironment_eq, result_assembleEnvironment_eq]
  refine ArtifactSet.Twin.foldlM_add .nil ?_
  rw [List.forall₂_map_left_iff, List.forall₂_map_right_iff]
  exact (forall₂_of_schemaPlan_eq (schemaPlan_of_agreement h) fresh fresh' first first').imp
    fun _ _ hpair => sameResult_artifact config.layout environment hpair.1 hpair.2

/-- **The schema of an environment follows from what is said about the environment.** Definitions
that agree on it fail with the same error or give the same artifacts, in the same order and at the
same paths; their documents are the same where the identifiers are the same, and otherwise but for
identifiers. A definition agrees with its extract: so intents of other platforms and environments,
declarations that are shadowed, samples of intents that are not built, empty and repeated ones, and
all other fields of a definition do not tell. -/
theorem assembleEnvironment_of_agreement (config : BuildConfig) (environment : String)
    (fresh fresh' : Nat → Uuid) (first first' : Nat) :
    (∀ definition other : Definition,
      definition.AgreesWith other config.platform environment →
      (definition.assembleEnvironment config fresh first environment).result =
        (other.assembleEnvironment config fresh first environment).result ∧
      SameResult ArtifactSet.Twin
        (definition.assembleEnvironment config fresh first environment).result
        (other.assembleEnvironment config fresh' first' environment).result) ∧
    ∀ definition : Definition, definition.AgreesWith
      (definition.extract config.platform environment) config.platform environment :=
  ⟨fun _ _ h => ⟨result_assembleEnvironment_of_agreesWith h fresh first,
      assembleEnvironment_twin h fresh fresh' first first'⟩,
    fun definition => definition.agreesWith_extract config.platform environment⟩

/-- Flights to a city, and much that is not about environment `alpha` on Dialogflow. -/
def wordyFlights : Definition where
  locale := some "en-US"
  skillId := some "flights"
  leastUtterances := some 3
  invocations := [⟨"alpha"⟩, ⟨"beta"⟩]
  intents := [
    ⟨"Drive", ["alexa"], [], []⟩,
    ⟨"Fly", ["dialogFlow"], [], [⟨"city", "City", []⟩]⟩,
    ⟨"Sail", [], ["beta"], []⟩,
    ⟨"Fly", [], ["alpha"], [⟨"port", "Port", []⟩]⟩]
  slots := Dict.ofList [("City", .ofList [⟨"paris", []⟩])]
  utterances := Dict.ofList [
    ("Fly", ["fly to \x7bcity\x7d", "", "fly", "fly to \x7bcity\x7d"]),
    ("Sail", ["set sail"])]
  others := Dict.ofList [("note", .string "draft")]

/-- The same flights, and nothing else. -/
def terseFlights : Definition :=
  { empty with
    intents := [⟨"Fly", ["dialogFlow"], [], [⟨"city", "City", []⟩]⟩]
    slots := Dict.ofList [("City", .ofList [⟨"paris", []⟩])]
    utterances := Dict.ofList [("Fly", ["fly to \x7bcity\x7d", "fly"])] }

/-- The flights have one schema, in whichever words and with whatever identifiers. -/
theorem assembleEnvironment_of_agreement_flights :
    wordyFlights.AgreesWith terseFlights usEnglish.platform "alpha" ∧
    ∃ set set',
      (wordyFlights.assembleEnvironment usEnglish (Uuid.generated 0) 0 "alpha").result = .ok set ∧
      (terseFlights.assembleEnvironment usEnglish (Uuid.generated 1) 7 "alpha").result =
        .ok set' ∧
      set.Twin set' := by
  have hagree : wordyFlights.AgreesWith terseFlights usEnglish.platform "alpha" :=
    ⟨rfl, by decide, by decide⟩
  refine ⟨hagree, ?_⟩
  have hok : (wordyFlights.assembleEnvironment usEnglish (Uuid.generated 0) 0
      "alpha").result.isOk = true := by decide +kernel
  obtain ⟨set, hset⟩ := exists_ok_of_isOk hok
  obtain ⟨-, htwin⟩ := (assembleEnvironment_of_agreement usEnglish "alpha" (Uuid.generated 0)
    (Uuid.generated 1) 0 7).1 wordyFlights terseFlights hagree
  rw [hset] at htwin
  obtain ⟨set', hset', hartifacts⟩ := htwin.exists_of_ok
  exact ⟨set, set', hset, hset', hartifacts⟩

end Definition

end VoiceSkill
