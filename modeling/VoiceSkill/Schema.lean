import VoiceSkill.Intent
import VoiceSkill.Kebab
import VoiceSkill.Utterance

/-!
# Schema documents

The documents that make up the schema of an environment: for each collection of slot values an
entity and its entries, for each intent a definition and its samples, and two manifests. Like
utterances they are typed by the identifiers in them, so that what a definition says about a schema
can be told apart from the identifiers that every build deals out anew.
-/

namespace VoiceSkill

/-- A slot of an intent as the schema has it. -/
structure Parameter where
  entityType : String
  name : String
deriving DecidableEq, Repr

/-- A slot as a parameter. -/
def Slot.parameter (slot : Slot) : Parameter := ⟨entityReference slot.slotType, slot.name⟩

/-- A document of a schema. -/
inductive SchemaDocument (ι : Type) where
  | entity (name : String) (id : ι)
  | entries (values : List String)
  | intent (name : String) (parameters : List Parameter) (id : ι)
  | samples (utterances : List (Utterance ι))
  | agent
  | package
deriving DecidableEq, Repr

/-! ## What the documents hold -/

/-- The intent that a conversation begins with. -/
def launchIntent : String := "LaunchIntent"

/-- The events that lead to an intent. -/
def welcomeEvents (intent : String) : List String :=
  if intent == launchIntent then ["WELCOME", "GOOGLE_ASSISTANT_WELCOME"] else []

/-- The priority of every intent. -/
def intentPriority : Nat := 500000

/-- A parameter as a document; its value is filled in from its name. -/
def Parameter.document (parameter : Parameter) : Document :=
  .record [("dataType", .string parameter.entityType), ("name", .string parameter.name),
    ("value", .string ("$" ++ parameter.name)), ("isList", .bool false)]

/-- The document of an entity. -/
def entityDocument (name : String) (id : Uuid) : Document :=
  .record [("id", .string id.text), ("name", .string name), ("isOverridable", .bool true),
    ("isEnum", .bool true), ("automatedExpansion", .bool false)]

/-- The document of an entity's entries: each value is its own only synonym. -/
def entriesDocument (values : List String) : Document :=
  .list (values.map fun value =>
    .record [("value", .string value), ("synonyms", .texts [value])])

/-- The document of an intent. -/
def intentDocument (name : String) (parameters : List Parameter) (id : Uuid) : Document :=
  .record [
    ("id", .string id.text),
    ("name", .string name),
    ("auto", .bool true),
    ("contexts", .list []),
    ("responses", .list [.record [
      ("resetContexts", .bool false),
      ("action", .string name),
      ("affectedContexts", .list []),
      ("parameters", .list (parameters.map Parameter.document)),
      ("messages", .list []),
      ("defaultResponsePlatforms", .object []),
      ("speech", .list [])]]),
    ("priority", .natural intentPriority),
    ("webhookUsed", .bool true),
    ("webhookForSlotFilling", .bool false),
    ("fallbackIntent", .bool false),
    ("events", .list ((welcomeEvents name).map fun event => .record [("name", .string event)]))]

/-- The manifest of the agent, the same for every environment. -/
def agentManifest : Document :=
  .record [
    ("description", .string ""),
    ("language", .string "en"),
    ("activeAssistantAgents", .list []),
    ("googleAssistant", .record [
      ("googleAssistantCompatible", .bool false),
      ("project", .string "somename"),
      ("welcomeIntentSignInRequired", .bool false),
      ("startIntents", .list []),
      ("systemIntents", .list []),
      ("endIntentIds", .list []),
      ("oAuthLinking", .record [
        ("required", .bool false),
        ("grantType", .string "AUTH_CODE_GRANT")]),
      ("voiceType", .string "MALE_1"),
      ("capabilities", .list []),
      ("protocolVersion", .string "V1")]),
    ("defaultTimezone", .string "America/New_York"),
    ("webhook", .record [
      ("url", .string ""),
      ("headers", .object []),
      ("available", .bool true),
      ("useForDomains", .bool true),
      ("cloudFunctionsEnabled", .bool false),
      ("cloudFunctionsInitialized", .bool false)]),
    ("isPrivate", .bool true),
    ("customClassifierMode", .string "use.after"),
    ("mlMinConfidence", .number (.decimal ⟨false, 2, -1⟩)),
    ("supportedLanguages", .list [])]

/-- The manifest of the package. -/
def packageManifest : Document := .record [("version", .string "1.0.0")]

namespace SchemaDocument

variable {ι κ : Type}

/-- The document as it is written. -/
def toDocument : SchemaDocument Uuid → Document
  | entity name id => entityDocument name id
  | entries values => entriesDocument values
  | intent name parameters id => intentDocument name parameters id
  | samples utterances => .list (utterances.map Utterance.document)
  | agent => agentManifest
  | package => packageManifest

/-- The document with its identifiers changed by a function. -/
def map (f : ι → κ) : SchemaDocument ι → SchemaDocument κ
  | entity name id => .entity name (f id)
  | entries values => .entries values
  | intent name parameters id => .intent name parameters (f id)
  | samples utterances => .samples (utterances.map (Utterance.map f))
  | agent => .agent
  | package => .package

/-- The identifiers in the document, from front to back. -/
def ids : SchemaDocument ι → List ι
  | entity _ id => [id]
  | intent _ _ id => [id]
  | samples utterances => utterances.flatMap Utterance.ids
  | _ => []

/-- Numbers the places for identifiers, from a first number on. -/
def number (first : Nat) : SchemaDocument ι → SchemaDocument Nat
  | entity name _ => .entity name first
  | entries values => .entries values
  | intent name parameters _ => .intent name parameters first
  | samples utterances => .samples (numberUtterances first utterances)
  | agent => .agent
  | package => .package

end SchemaDocument

end VoiceSkill
