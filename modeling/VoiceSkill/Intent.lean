import VoiceSkill.Json.Decoder
import VoiceSkill.KeepFirst

/-!
# Intents

An intent is something a user wants. It names the platforms and environments it is for, and the
slots its samples may mention. Several slots may carry one name, for different platforms; on a
platform the first one that is visible there stands for the name. A list of tags of platforms or
environments applies to the tags it names, letter for letter; without any it applies everywhere.

Intents that every platform knows come with samples of their own. An intent is compiled from the
samples of its author followed by these, without empty ones and without repetitions.
-/

namespace VoiceSkill

/-- Whether a list of tags applies to a tag. -/
def appliesTo (tags : List String) (tag : String) : Bool := tags.isEmpty || tags.contains tag

/-- A slot of an intent: the name used in samples, the type of its values, and its platforms. -/
structure Slot where
  name : String
  slotType : String
  platforms : List String
deriving DecidableEq, Repr, Inhabited

/-- A declared intent. -/
structure Intent where
  name : String
  platforms : List String
  environments : List String
  slots : List Slot
deriving DecidableEq, Repr, Inhabited

namespace Slot

/-- Whether the slot is visible on a platform. -/
def appliesToPlatform (slot : Slot) (platform : String) : Bool := appliesTo slot.platforms platform

/-- A slot as a document. -/
def document (slot : Slot) : Document :=
  .record [("name", .string slot.name), ("type", .string slot.slotType),
    ("platform", .texts slot.platforms)]

def recordType : RecordType :=
  ⟨"SlotDeclaration", [
    field "name" .refused Decoder.string,
    field "type" .refused Decoder.string,
    field "platform" .filled (Decoder.list Decoder.string)]⟩

def decoder : Decoder Slot := fun context json => do
  let fields ← recordType.fieldsOf context json
  return {
    name := ← fields.get "name" Decoder.string
    slotType := ← fields.get "type" Decoder.string
    platforms := ← fields.getD "platform" (Decoder.list Decoder.string) [] }

end Slot

namespace Intent

/-- An intent for all platforms and environments, without slots. -/
def ofName (name : String) : Intent := ⟨name, [], [], []⟩

/-- Appends a slot. -/
def withSlot (intent : Intent) (slot : Slot) : Intent :=
  { intent with slots := intent.slots ++ [slot] }

/-- Replaces the platforms. -/
def withPlatforms (intent : Intent) (platforms : List String) : Intent :=
  { intent with platforms }

/-- Replaces the environments. -/
def withEnvironments (intent : Intent) (environments : List String) : Intent :=
  { intent with environments }

def appliesToPlatform (intent : Intent) (platform : String) : Bool :=
  appliesTo intent.platforms platform

def appliesToEnvironment (intent : Intent) (environment : String) : Bool :=
  appliesTo intent.environments environment

/-- The slots that are visible on a platform, in the order of their declaration. -/
def visibleSlots (intent : Intent) (platform : String) : List Slot :=
  intent.slots.filter fun slot => slot.appliesToPlatform platform

/-- The slot that a name stands for on a platform. -/
def slot? (intent : Intent) (platform name : String) : Option Slot :=
  intent.slots.find? fun slot => slot.appliesToPlatform platform && slot.name == name

/-- An intent as a document. -/
def document (intent : Intent) : Document :=
  .record [("intent", .string intent.name), ("platformIntent", .texts intent.platforms),
    ("environment", .texts intent.environments),
    ("slots", .list (intent.slots.map Slot.document))]

def recordType : RecordType :=
  ⟨"IntentDeclaration", [
    field "intent" .refused Decoder.string,
    field "platformIntent" .filled (Decoder.list Decoder.string),
    field "environment" .filled (Decoder.list Decoder.string),
    field "slots" .filled (Decoder.list Slot.decoder)]⟩

def decoder : Decoder Intent := fun context json => do
  let fields ← recordType.fieldsOf context json
  return {
    name := ← fields.get "intent" Decoder.string
    platforms := ← fields.getD "platformIntent" (Decoder.list Decoder.string) []
    environments := ← fields.getD "environment" (Decoder.list Decoder.string) []
    slots := ← fields.getD "slots" (Decoder.list Slot.decoder) [] }

end Intent

/-- The slots that names can stand for on one platform. -/
structure Resolver where
  slots : List Slot
deriving DecidableEq, Repr

/-- The resolver of an intent for a platform. -/
def Intent.resolver (intent : Intent) (platform : String) : Resolver :=
  ⟨intent.visibleSlots platform⟩

/-- The slot that a name stands for. -/
def Resolver.slot? (resolver : Resolver) (name : String) : Option Slot :=
  resolver.slots.find? fun slot => slot.name == name

/-! ## Samples -/

/-- The intents with samples of their own. -/
def builtinSampleTable : List (String × List String) := [
  ("LaunchIntent", ["hi", "hello", "hey there", "good morning"]),
  ("HelpIntent",
    ["help", "help me", "what can I do", "what can you do", "how does this work"]),
  ("StopIntent", ["stop", "quit", "exit", "goodbye", "that's all"]),
  ("CancelIntent", ["cancel", "never mind", "forget it", "cancel that"]),
  ("YesIntent", ["yes", "yeah", "sure", "yes please", "correct"]),
  ("NoIntent", ["no", "nope", "no thanks", "not really"])]

/-- The samples that an intent has of its own. -/
def builtinSamples (intent : String) : List String :=
  ((builtinSampleTable.find? fun entry => entry.1 == intent).map Prod.snd).getD []

/-- The samples that an intent is compiled from. -/
def mergeSamples (intent : String) (samples : List String) : List String :=
  keepFirst id ((samples ++ builtinSamples intent).filter fun s => s != "")

end VoiceSkill
