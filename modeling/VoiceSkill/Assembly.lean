import VoiceSkill.Kebab
import VoiceSkill.Layout
import VoiceSkill.Logged
import VoiceSkill.Schema
import VoiceSkill.Selection
import VoiceSkill.Utterance.Compile

/-!
# Assembling artifacts

An assembly collects artifacts and stops at the first that finds no place.

The schema of an environment is first laid out as a row of steps: documents with their places, and
events in between. Steps are typed by the identifiers in their documents; they say everything about
a schema but its identifiers, which are dealt out when the steps are numbered. Taking the steps one
after the other then gives the artifacts, or the first failure.

Beside the schemas a definition gives files that belong to a locale alone: the synonyms of every
collection of slot values that has some, and every piece of free content as it is.
-/

namespace VoiceSkill

/-- Adds a document at a place. -/
def ArtifactSet.place (artifacts : ArtifactSet) (path : Path) (document : Document) :
    Logged BuildError ArtifactSet :=
  Logged.ofExcept ((artifacts.push ⟨path, document⟩).mapError .write)

/-- Nothing is reported where a document is placed. -/
@[simp] theorem ArtifactSet.log_place (artifacts : ArtifactSet) (path : Path)
    (document : Document) : (artifacts.place path document).log = [] := rfl

/-! ## Schemas -/

/-- A step of an assembly. -/
inductive Step (ι : Type) where
  | note (event : Event)
  | place (path : Except BuildError Path) (document : SchemaDocument ι)

namespace Step

variable {ι κ : Type}

/-- The step with its identifiers changed by a function. -/
def map (f : ι → κ) : Step ι → Step κ
  | note event => .note event
  | place path document => .place path (document.map f)

/-- The identifiers in the step. -/
def ids : Step ι → List ι
  | note _ => []
  | place _ document => document.ids

/-- Numbers the places for identifiers, from a first number on. -/
def number (first : Nat) : Step ι → Step Nat
  | note event => .note event
  | place path document => .place path (document.number first)

/-- Numbers the places for identifiers in several steps. -/
def numberAll (first : Nat) : List (Step ι) → List (Step Nat)
  | [] => []
  | step :: steps => step.number first :: numberAll (first + step.ids.length) steps

/-- Takes a step: an event is reported, a document is added. -/
def run (artifacts : ArtifactSet) : Step Uuid → Logged BuildError ArtifactSet
  | note event => do
    Logged.report event
    return artifacts
  | place path document => do
    let path ← Logged.ofExcept path
    artifacts.place path document.toDocument

end Step

/-- The steps for a collection of slot values. A key without usable characters names no entity. -/
def slotSteps (layout : Layout) (environment slotKey : String) (values : SlotValues) :
    List (Step Unit) :=
  if kebabCase slotKey = "" then [.note (.slotSkipped slotKey)]
  else [
    .place (layout.entityDefinition environment slotKey) (.entity (kebabCase slotKey) ()),
    .place (layout.entityEntries environment slotKey) (.entries values.names)]

/-- The parameters of an intent on a platform. -/
def Intent.parameters (intent : Intent) (platform : String) : List Parameter :=
  (intent.visibleSlots platform).map Slot.parameter

/-- The steps for an intent with the samples of its author. -/
def intentSteps (config : BuildConfig) (environment : String) (intent : Intent)
    (samples : List String) : List (Step Unit) :=
  let utterances := compileSamples config intent samples
  .place (config.layout.intentDefinition environment intent.name)
      (.intent intent.name (intent.parameters config.platform) ()) ::
    (intentEvents config intent samples).map .note ++
    if utterances.isEmpty then [.note (.noSamples intent.name)]
    else [.place (config.layout.intentSamples environment intent.name) (.samples utterances)]

namespace Definition

/-- The steps of the schema of an environment. -/
def schemaSteps (definition : Definition) (config : BuildConfig) (environment : String) :
    List (Step Unit) :=
  (definition.slots.entries.flatMap fun slot =>
      slotSteps config.layout environment slot.1 slot.2) ++
    (definition.shadowEvents config.platform (some environment)).map .note ++
    ((definition.intentsFor config.platform (some environment)).flatMap fun intent =>
      intentSteps config environment intent (definition.samplesOf intent.name)) ++
    [.place (config.layout.agent environment) .agent,
      .place (config.layout.package environment) .package]

/-- How many identifiers the schema of an environment needs. -/
def idCount (definition : Definition) (config : BuildConfig) (environment : String) : Nat :=
  ((definition.schemaSteps config environment).flatMap Step.ids).length

/-- Assembles the schema of an environment. The identifiers are those that `fresh` gives for
consecutive numbers from a first number on. -/
def assembleEnvironment (definition : Definition) (config : BuildConfig) (fresh : Nat → Uuid)
    (first : Nat) (environment : String) : Logged BuildError ArtifactSet := do
  let steps := (Step.numberAll first (definition.schemaSteps config environment)).map
    (Step.map fresh)
  let artifacts ← steps.foldlM Step.run .empty
  Logged.report (.invocationAssembled environment artifacts.size)
  return artifacts

/-- Adds the schemas of several environments to the artifacts. -/
def assembleEach (definition : Definition) (config : BuildConfig) (fresh : Nat → Uuid)
    (first : Nat) (artifacts : ArtifactSet) :
    List Invocation → Logged BuildError ArtifactSet
  | [] => pure artifacts
  | invocation :: rest => do
    let environment := invocation.environment
    let added ← definition.assembleEnvironment config fresh first environment
    match artifacts.extend added with
    | (_, some e) => Logged.ofExcept (.error (.write e))
    | (artifacts, none) =>
      definition.assembleEach config fresh (first + definition.idCount config environment)
        artifacts rest

/-- Assembles the schema of every environment that the definition is to be built for. -/
def assemble (definition : Definition) (config : BuildConfig) (fresh : Nat → Uuid) :
    Logged BuildError ArtifactSet := do
  let artifacts ← definition.assembleEach config fresh 0 .empty definition.invocations
  Logged.report (.schemaAssembled definition.invocations.length artifacts.size)
  return artifacts

end Definition

/-! ## Synonym and content files -/

namespace ArtifactSet

/-- Adds the synonyms of a collection of slot values, if it has some. -/
def placeSynonyms (layout : Layout) (artifacts : ArtifactSet) (slot : String × SlotValues) :
    Logged BuildError ArtifactSet :=
  if slot.2.hasSynonyms then artifacts.place (layout.synonyms slot.1) slot.2.synonymDocument
  else do
    Logged.report (.noSynonyms slot.1)
    return artifacts

/-- Adds a piece of content. A key without usable characters names no file. -/
def placeContent (layout : Layout) (artifacts : ArtifactSet) (content : String × Document) :
    Logged BuildError ArtifactSet :=
  if kebabCase content.1 = "" then do
    Logged.report (.contentSkipped content.1)
    return artifacts
  else artifacts.place (layout.content content.1) content.2

end ArtifactSet

namespace Definition

/-- Assembles the synonym files. -/
def assembleSynonyms (definition : Definition) (config : BuildConfig) :
    Logged BuildError ArtifactSet := do
  let artifacts ← definition.slots.entries.foldlM (ArtifactSet.placeSynonyms config.layout) .empty
  Logged.report (.synonymsAssembled artifacts.size)
  return artifacts

/-- Assembles the content files. -/
def assembleContent (definition : Definition) (config : BuildConfig) :
    Logged BuildError ArtifactSet := do
  let artifacts ← definition.others.entries.foldlM (ArtifactSet.placeContent config.layout) .empty
  Logged.report (.contentAssembled artifacts.size)
  return artifacts

end Definition

end VoiceSkill
