import VoiceSkill.Assembly
import VoiceSkill.Writer

/-!
# Builds

A build assembles all its artifacts before it writes the first one, so that a definition that cannot
be assembled leaves nothing behind.
-/

namespace VoiceSkill

/-- What a build has written. -/
structure Summary where
  written : Nat
  paths : List Path
deriving DecidableEq, Repr

/-- What can be built from a definition. -/
inductive Operation where
  | schema
  | synonyms
  | content
deriving DecidableEq, Repr

/-- The name of an operation, in messages. -/
def Operation.name : Operation → String
  | schema => "Schema"
  | synonyms => "Synonyms"
  | content => "Content"

namespace Definition

/-- Assembles the artifacts of an operation. -/
def assembleFor (definition : Definition) (config : BuildConfig) (fresh : Nat → Uuid) :
    Operation → Logged BuildError ArtifactSet
  | .schema => do
    Logged.report (.schemaStarted config.locale config.platform definition.invocations.length)
    definition.assemble config fresh
  | .synonyms => definition.assembleSynonyms config
  | .content => definition.assembleContent config

end Definition

/-- The configuration that a definition sets by itself, for a build. -/
def buildConfigOf (definition : Definition) : Logged BuildError BuildConfig :=
  match BuildConfig.ofDefinition definition with
  | .error e => ⟨.error (.config e), []⟩
  | .ok config => ⟨.ok config, [config.event]⟩

namespace Writer

variable {m : Type → Type} [Monad m]

/-- Writes what has been assembled. -/
def emit (writer : Writer m) (artifacts : ArtifactSet) : m (Logged BuildError Summary) := do
  let written ← writer.writeAll artifacts.artifacts
  return do
    let count ← written.mapError .write
    return ⟨count, artifacts.paths⟩

/-- Assembles and writes the artifacts of an operation. -/
def build (writer : Writer m) (definition : Definition) (config : BuildConfig)
    (fresh : Nat → Uuid) (operation : Operation) : m (Logged BuildError Summary) :=
  (definition.assembleFor config fresh operation).andThen writer.emit

/-- Builds the schema with the configuration that the definition sets by itself. -/
def buildStandalone (writer : Writer m) (definition : Definition) (fresh : Nat → Uuid) :
    m (Logged BuildError Summary) :=
  (buildConfigOf definition).andThen fun config =>
    writer.build definition config fresh .schema

end Writer

end VoiceSkill
