import VoiceSkill.Artifact
import VoiceSkill.Kebab
import VoiceSkill.Config

/-!
# Layout of the output

The schema of an environment lies in `dialog-flow/<environment>` below a directory for the locale,
which a flattened layout leaves out. Entities and intents have directories of their own there.
Synonyms and content lie in the directory of the locale in either layout.
-/

namespace VoiceSkill

/-- Why a build fails. -/
inductive BuildError where
  | config (error : ConfigError)
  | invalidEnvironment (environment : String)
  | write (error : WriteError)
deriving DecidableEq, Repr

def BuildError.message : BuildError → String
  | .config error => "configuration error: " ++ error.message
  | .invalidEnvironment environment =>
    "invalid environment `" ++ environment ++ "`: must be a single directory name"
  | .write error => "write error: " ++ error.message

/-- The directory of the platform whose documents are assembled. -/
def platformDirectory : String := "dialog-flow"

/-- The language that files of entries and samples are marked with. -/
def contentLanguage : String := "en"

/-- Where documents go. -/
structure Layout where
  locale : Locale
  flattenLocale : Bool
deriving DecidableEq, Repr

/-- The layout of a configuration. -/
def BuildConfig.layout (config : BuildConfig) : Layout := ⟨config.locale, config.flattenLocale⟩

/-- Whether a text is the name of a single directory, as a path. -/
def isEnvironmentName (environment : String) : Bool :=
  match (Path.mk environment).components with
  | [.name _] => true
  | _ => false

namespace Layout

/-- The directory of the schema of an environment. -/
def environmentDirectory (layout : Layout) (environment : String) : Except BuildError Path :=
  if isEnvironmentName environment then
    let base : Path := if layout.flattenLocale then ⟨""⟩ else (Path.mk "").child layout.locale.tag
    .ok ((base.child platformDirectory).child environment)
  else .error (.invalidEnvironment environment)

def agent (layout : Layout) (environment : String) : Except BuildError Path := do
  return (← layout.environmentDirectory environment).child "agent.json"

def package (layout : Layout) (environment : String) : Except BuildError Path := do
  return (← layout.environmentDirectory environment).child "package.json"

/-- A file in a directory of the schema of an environment. -/
def schemaFile (layout : Layout) (environment directory file : String) :
    Except BuildError Path := do
  return ((← layout.environmentDirectory environment).child directory).child file

def entityDefinition (layout : Layout) (environment slotKey : String) : Except BuildError Path :=
  layout.schemaFile environment "entities" (kebabCase slotKey ++ ".json")

def entityEntries (layout : Layout) (environment slotKey : String) : Except BuildError Path :=
  layout.schemaFile environment "entities"
    (kebabCase slotKey ++ "_entries_" ++ contentLanguage ++ ".json")

def intentDefinition (layout : Layout) (environment intent : String) : Except BuildError Path :=
  layout.schemaFile environment "intents" (intent ++ ".json")

def intentSamples (layout : Layout) (environment intent : String) : Except BuildError Path :=
  layout.schemaFile environment "intents" (intent ++ "_usersays_" ++ contentLanguage ++ ".json")

/-- The file of the synonyms of a slot, named by its key as it is. -/
def synonyms (layout : Layout) (slotKey : String) : Path :=
  (Path.mk layout.locale.tag).child (slotKey ++ ".json")

/-- The file of a piece of content. -/
def content (layout : Layout) (key : String) : Path :=
  (Path.mk layout.locale.tag).child (kebabCase key ++ ".json")

end Layout

end VoiceSkill
