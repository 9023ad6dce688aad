import VoiceSkill.Intent
import VoiceSkill.SlotValues

/-!
# Skill definitions

A skill is defined once for all platforms: its locale and identifier, the environments it is built
for, its intents, the collections of slot values, the samples of each intent, and free content.
Everything may be left out. Samples may be grouped in lists of any depth, with nulls in between;
they are read in order as one flat list.
-/

namespace VoiceSkill

/-- A request to build the skill for an environment. -/
structure Invocation where
  environment : String
deriving DecidableEq, Repr, Inhabited

/-- The definition of a skill. -/
structure Definition where
  locale : Option String
  skillId : Option String
  leastUtterances : Option UInt64
  invocations : List Invocation
  intents : List Intent
  slots : Dict SlotValues
  utterances : Dict (List String)
  others : Dict Document
deriving Inhabited

namespace Invocation

def document (invocation : Invocation) : Document :=
  .record [("environment", .string invocation.environment)]

def recordType : RecordType :=
  ⟨"Invocation", [field "environment" .refused Decoder.string]⟩

def decoder : Decoder Invocation := fun context json => do
  let fields ← recordType.fieldsOf context json
  return { environment := ← fields.get "environment" Decoder.string }

end Invocation

mutual

/-- The samples in a value of nested lists, from left to right. -/
def samples? : Json → Option (List String)
  | .string sample => some [sample]
  | .null => some []
  | .list items => samplesOfItems? items
  | _ => none

def samplesOfItems? : List Json → Option (List String)
  | [] => some []
  | item :: items => do return (← samples? item) ++ (← samplesOfItems? items)

end

namespace Definition

/-- A definition without anything. -/
def empty : Definition := ⟨none, none, none, [], [], .empty, .empty, .empty⟩

/-- The samples given for an intent. -/
def samplesOf (definition : Definition) (intent : String) : List String :=
  (definition.utterances.get? intent).getD []

/-- A definition as a document, with all of its fields. -/
def document (definition : Definition) : Document :=
  .record [
    ("locale", .optional .string definition.locale),
    ("skillId", .optional .string definition.skillId),
    ("leastUtterances", .optional (fun n => .natural n.toNat) definition.leastUtterances),
    ("invocations", .list (definition.invocations.map Invocation.document)),
    ("intents", .list (definition.intents.map Intent.document)),
    ("slots", .object (definition.slots.map SlotValues.document).entries),
    ("utterances", .object (definition.utterances.map Document.texts).entries),
    ("others", .object definition.others.entries)]

def samplesDecoder : Decoder (List String) := Decoder.oneOf "RawTemplates" samples?

def recordType : RecordType :=
  ⟨"SkillDefinition", [
    field "locale" .filled (Decoder.optional Decoder.string),
    field "skillId" .filled (Decoder.optional Decoder.string),
    field "leastUtterances" .filled (Decoder.optional Decoder.count),
    field "invocations" .filled (Decoder.list Invocation.decoder),
    field "intents" .filled (Decoder.list Intent.decoder),
    field "slots" .filled (Decoder.dict SlotValues.decoder),
    field "utterances" .filled (Decoder.dict samplesDecoder),
    field "others" .filled (Decoder.dict Decoder.document)]⟩

def decoder : Decoder Definition := fun context json => do
  let fields ← recordType.fieldsOf context json
  return {
    locale := ← fields.getD "locale" (Decoder.optional Decoder.string) none
    skillId := ← fields.getD "skillId" (Decoder.optional Decoder.string) none
    leastUtterances := ← fields.getD "leastUtterances" (Decoder.optional Decoder.count) none
    invocations := ← fields.getD "invocations" (Decoder.list Invocation.decoder) []
    intents := ← fields.getD "intents" (Decoder.list Intent.decoder) []
    slots := ← fields.getD "slots" (Decoder.dict SlotValues.decoder) .empty
    utterances := ← fields.getD "utterances" (Decoder.dict samplesDecoder) .empty
    others := ← fields.getD "others" (Decoder.dict Decoder.document) .empty }

/-- The definition of a JSON text. -/
def ofText (text : String) : Except JsonError Definition := decoder.ofText text

end Definition

end VoiceSkill
