import VoiceSkill.Template.Segment
import VoiceSkill.Kebab
import VoiceSkill.Intent
import VoiceSkill.Utterance
import VoiceSkill.Event

/-!
# Compiling samples

A sample is cut at its placeholders, and each segment becomes one token in its place. A segment that
has both an opening and a closing brace is taken for a placeholder; what is left of it without the
first of each is its name. A name that stands for a slot on the platform gives a reference to the
slot, any other name a literal that is marked as the user's.
-/

namespace VoiceSkill

/-- A text without the first occurrence of a character. -/
def withoutFirst (c : Char) (text : String) : String := String.ofList (text.toList.erase c)

/-- The name that a segment gives as a placeholder. -/
def placeholderName? (segment : String) : Option String :=
  if segment.toList.contains '\x7b' && segment.toList.contains '\x7d' then
    some (withoutFirst '\x7d' (withoutFirst '\x7b' segment))
  else none

namespace Resolver

/-- The token of a segment. -/
def token (resolver : Resolver) (segment : String) : Token Unit :=
  match placeholderName? segment with
  | none => .literal segment () false
  | some name =>
    match resolver.slot? name with
    | some slot => .slotRef (entityReference slot.slotType) slot.name segment () true
    | none => .literal segment () true

/-- The name of a segment that is taken for a placeholder without standing for a slot. -/
def unresolved? (resolver : Resolver) (segment : String) : Option String :=
  match placeholderName? segment with
  | none => none
  | some name => if (resolver.slot? name).isSome then none else some name

end Resolver

/-- The segments of a sample that become tokens. -/
def sampleSegments (sample : String) : List String :=
  (Pattern.placeholder.scan sample).filter fun segment => segment != ""

/-- Compiles a sample of an intent. -/
def compileSample (config : BuildConfig) (intent : Intent) (sample : String) : Utterance Unit :=
  .ofTokens ((sampleSegments sample).map (intent.resolver config.platform).token)

/-- What is reported while a sample is compiled. -/
def sampleEvents (config : BuildConfig) (intent : Intent) (sample : String) : List Event :=
  ((sampleSegments sample).filterMap (intent.resolver config.platform).unresolved?).map
    fun name => .unresolvedPlaceholder intent.name name config.warnUnresolved

/-- Compiles the samples of an intent, together with those that it has of its own. -/
def compileSamples (config : BuildConfig) (intent : Intent) (samples : List String) :
    List (Utterance Unit) :=
  (mergeSamples intent.name samples).map (compileSample config intent)

/-- What is reported while an intent is compiled. -/
def intentEvents (config : BuildConfig) (intent : Intent) (samples : List String) : List Event :=
  let merged := mergeSamples intent.name samples
  .compilingSamples intent.name merged.length :: merged.flatMap (sampleEvents config intent)

end VoiceSkill
