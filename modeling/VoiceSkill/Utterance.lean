import VoiceSkill.SlotValues
import VoiceSkill.Uuid

/-!
# Utterances

A compiled sample is a row of tokens: literal texts, and references to slots that name the entity of
the slot's type and the slot. Every token has an identifier. Tokens are typed by their identifiers:
those without (`Unit`) are what a sample compiles to, and identifiers are dealt out afterwards.
-/

namespace VoiceSkill

/-- A part of a compiled sample. -/
inductive Token (ι : Type) where
  | literal (text : String) (id : ι) (userDefined : Bool)
  | slotRef (entityType slotName text : String) (id : ι) (userDefined : Bool)
deriving DecidableEq, Repr

/-- A compiled sample. -/
structure Utterance (ι : Type) where
  tokens : List (Token ι)
  isTemplate : Bool
  count : UInt32
  updated : UInt64
deriving DecidableEq, Repr

namespace Token

variable {ι κ : Type}

def text : Token ι → String
  | literal text _ _ => text
  | slotRef _ _ text _ _ => text

def id : Token ι → ι
  | literal _ id _ => id
  | slotRef _ _ _ id _ => id

def userDefined : Token ι → Bool
  | literal _ _ userDefined => userDefined
  | slotRef _ _ _ _ userDefined => userDefined

def isSlotRef : Token ι → Bool
  | literal .. => false
  | slotRef .. => true

/-- The slot that a reference names. -/
def slotName? : Token ι → Option String
  | literal .. => none
  | slotRef _ slotName _ _ _ => some slotName

/-- The entity that a reference names. -/
def entityType? : Token ι → Option String
  | literal .. => none
  | slotRef entityType _ _ _ _ => some entityType

/-- The token with another identifier. -/
def withId (token : Token ι) (id : κ) : Token κ :=
  match token with
  | literal text _ userDefined => .literal text id userDefined
  | slotRef entityType slotName text _ userDefined =>
    .slotRef entityType slotName text id userDefined

/-- The token with its identifier changed by a function. -/
def map (f : ι → κ) (token : Token ι) : Token κ := token.withId (f token.id)

/-- A token as a document. -/
def document : Token Uuid → Document
  | literal text id userDefined =>
    .record [("text", .string text), ("id", .string id.text), ("userDefined", .bool userDefined)]
  | slotRef entityType slotName text id userDefined =>
    .record [("meta", .string entityType), ("alias", .string slotName), ("text", .string text),
      ("id", .string id.text), ("userDefined", .bool userDefined)]

/-! ## Reading -/

/-- The only value under a key. -/
def onlyValue? (key : String) (members : List (Except Malformed String × Json)) : Option Json :=
  match SlotValues.valuesOf key members with
  | [value] => some value
  | _ => none

def bool? : Json → Option Bool
  | .bool b => some b
  | _ => none

def uuid? : Json → Option Uuid
  | .string s => Uuid.ofText? s
  | _ => none

/-- The reference to a slot that an object denotes: five keys, each once. -/
def slotRefOf? (members : List (Except Malformed String × Json)) : Option (Token Uuid) := do
  let entityType ← SlotValues.string? (← onlyValue? "meta" members)
  let slotName ← SlotValues.string? (← onlyValue? "alias" members)
  let text ← SlotValues.string? (← onlyValue? "text" members)
  let id ← uuid? (← onlyValue? "id" members)
  let userDefined ← bool? (← onlyValue? "userDefined" members)
  return .slotRef entityType slotName text id userDefined

/-- The literal text that an object denotes: three keys, each once. -/
def literalOf? (members : List (Except Malformed String × Json)) : Option (Token Uuid) := do
  let text ← SlotValues.string? (← onlyValue? "text" members)
  let id ← uuid? (← onlyValue? "id" members)
  let userDefined ← bool? (← onlyValue? "userDefined" members)
  return .literal text id userDefined

/-- The token that a JSON value denotes: a reference if it can be read as one, else a literal. -/
def ofJson? : Json → Option (Token Uuid)
  | .object members =>
    match slotRefOf? members with
    | some token => some token
    | none => literalOf? members
  | _ => none

def decoder : Decoder (Token Uuid) := Decoder.oneOf "CompiledToken" ofJson?

end Token

namespace Utterance

variable {ι κ : Type}

/-- The utterance of a row of tokens, as it is compiled. -/
def ofTokens (tokens : List (Token ι)) : Utterance ι := ⟨tokens, false, 0, 0⟩

/-- The references to slots among the tokens. -/
def slotRefs (utterance : Utterance ι) : List (Token ι) := utterance.tokens.filter Token.isSlotRef

/-- The sample that the tokens spell. -/
def sample (utterance : Utterance ι) : String := String.join (utterance.tokens.map Token.text)

/-- The identifiers of the tokens. -/
def ids (utterance : Utterance ι) : List ι := utterance.tokens.map Token.id

/-- The utterance with the identifiers changed by a function. -/
def map (f : ι → κ) (utterance : Utterance ι) : Utterance κ :=
  { utterance with tokens := utterance.tokens.map (Token.map f) }

/-- Gives the tokens consecutive numbers. -/
def number (first : Nat) (utterance : Utterance ι) : Utterance Nat :=
  { utterance with tokens := (utterance.tokens.zipIdx first).map fun t => t.1.withId t.2 }

/-- An utterance as a document. -/
def document (utterance : Utterance Uuid) : Document :=
  .record [("data", .list (utterance.tokens.map Token.document)),
    ("isTemplate", .bool utterance.isTemplate),
    ("count", .natural utterance.count.toNat),
    ("updated", .natural utterance.updated.toNat)]

/-- A number of 32 bits. -/
def count32 : Decoder UInt32 := fun context json =>
  (Decoder.below UInt32.size "u32" context json).map UInt32.ofNat

/-- A number of 64 bits. -/
def count64 : Decoder UInt64 := fun context json =>
  (Decoder.below UInt64.size "u64" context json).map UInt64.ofNat

def recordType : RecordType :=
  ⟨"CompiledUtterance", [
    field "data" .refused (Decoder.list Token.decoder),
    field "isTemplate" .refused Decoder.bool,
    field "count" .refused count32,
    field "updated" .refused count64]⟩

def decoder : Decoder (Utterance Uuid) := fun context json => do
  let fields ← recordType.fieldsOf context json
  return {
    tokens := ← fields.get "data" (Decoder.list Token.decoder)
    isTemplate := ← fields.get "isTemplate" Decoder.bool
    count := ← fields.get "count" count32
    updated := ← fields.get "updated" count64 }

end Utterance

/-- Gives the tokens of several utterances consecutive numbers. -/
def numberUtterances {ι : Type} (first : Nat) : List (Utterance ι) → List (Utterance Nat)
  | [] => []
  | u :: rest => u.number first :: numberUtterances (first + u.tokens.length) rest

end VoiceSkill
