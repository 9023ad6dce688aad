import VoiceSkill.Intent
import VoiceSkill.Selection

/-!
# Coverage

An intent should have a least number of samples, counted as they are compiled. Intents with fewer
are warned of, whatever environments they are for.
-/

namespace VoiceSkill

namespace Definition

/-- The samples that an intent of a definition is compiled from. -/
def mergedSamples (definition : Definition) (intent : String) : List String :=
  mergeSamples intent (definition.samplesOf intent)

/-- The warning about an intent, if it has too few samples. -/
def coverageWarning? (definition : Definition) (config : BuildConfig) (intent : Intent) :
    Option CoverageWarning :=
  let samples := (definition.mergedSamples intent.name).length
  if samples < config.leastUtterances.toNat then
    some ⟨intent.name, samples, config.leastUtterances⟩
  else none

/-- The intents of a platform with too few samples. -/
def coverageWarnings (definition : Definition) (config : BuildConfig) : List CoverageWarning :=
  (definition.intentsFor config.platform none).filterMap
    (definition.coverageWarning? config)

/-- What is reported while the coverage is checked. -/
def coverageEvents (definition : Definition) (config : BuildConfig) : List Event :=
  definition.shadowEvents config.platform none ++
    (definition.coverageWarnings config).map .lowCoverage

end Definition

end VoiceSkill
