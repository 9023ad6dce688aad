import VoiceSkill.Definition
import VoiceSkill.Event

/-!
# The intents that are built

For a platform, and for one environment or all of them, the intents that apply there are built. When
several of these declare one name, the first stands and the others are shadowed.
-/

namespace VoiceSkill

/-- Whether an intent applies to a platform and, where one is given, to an environment. -/
def Intent.isFor (intent : Intent) (platform : String) (environment : Option String) : Bool :=
  intent.appliesToPlatform platform && environment.all intent.appliesToEnvironment

namespace Definition

/-- The declarations that apply. -/
def declaredIntents (definition : Definition) (platform : String) (environment : Option String) :
    List Intent :=
  definition.intents.filter fun intent => intent.isFor platform environment

/-- The intents that are built: of the declarations that apply, the first of each name. -/
def intentsFor (definition : Definition) (platform : String)
    (environment : Option String) : List Intent :=
  keepFirst Intent.name (definition.declaredIntents platform environment)

/-- What is reported about declarations that an earlier one shadows. -/
def shadowEvents (definition : Definition) (platform : String) (environment : Option String) :
    List Event :=
  (repeated Intent.name [] (definition.declaredIntents platform environment)).map fun intent =>
    .duplicateIntent intent.name

end Definition

end VoiceSkill
