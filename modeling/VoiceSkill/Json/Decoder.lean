import VoiceSkill.Json.Error
import VoiceSkill.Json.Reader

/-!
# Decoding JSON values

A decoder takes a value of one type from a JSON value, from the front to the back: of several faults
the first one in the text is reported. A list in place of a record gives its fields in the order of
their declaration.
-/

namespace VoiceSkill

/-- Where a value comes from, which decides about items that nobody asked for. -/
inductive Origin where
  /-- The text that is being read. -/
  | text
  /-- A value that has been read before. -/
  | value
  /-- A settings file. -/
  | settings
deriving DecidableEq, Repr

/-- The circumstances of decoding: the origin, and how many levels may still be entered and one
more. -/
structure Context where
  origin : Origin
  room : Option Nat
deriving DecidableEq, Repr

namespace Context

/-- A text may nest 127 levels deep. -/
def text : Context := ⟨.text, some 128⟩

/-- A value that has been read may nest at will. -/
def value : Context := ⟨.value, none⟩

/-- A settings file that has been read. -/
def settings : Context := ⟨.settings, none⟩

/-- Goes into a list or an object. -/
def enter (context : Context) : Except JsonError Context :=
  match Json.enter context.room with
  | .ok room => .ok { context with room }
  | .error cause => .error (.malformed cause)

end Context

/-- Takes a value from a JSON value. -/
abbrev Decoder (α : Type) := Context → Json → Except JsonError α

namespace Decoder

variable {α : Type}

/-- A text. -/
def string : Decoder String
  | _, .string s => .ok s
  | _, json => json.refuse "a string"

/-- A truth value. -/
def bool : Decoder Bool
  | _, .bool b => .ok b
  | _, json => json.refuse "a boolean"

/-- A whole number from zero up to and without a bound; `type` names its kind. -/
def below (bound : Nat) (type : String) : Decoder Nat
  | _, .number (.integer n) =>
    if 0 ≤ n && n < bound then .ok n.toNat
    else .error (.invalidValue (.number (.integer n)) type)
  | _, json => json.refuse type

/-- A whole number of 64 bits that counts things. -/
def count : Decoder UInt64 := fun context json =>
  (below UInt64.size "usize" context json).map UInt64.ofNat

/-- A value, or null for none. -/
def optional (decoder : Decoder α) : Decoder (Option α)
  | _, .null => .ok none
  | context, json => (decoder context json).map some

/-- The items of a list, one after the other. -/
def items (decoder : Decoder α) (context : Context) : List Json → Except JsonError (List α)
  | [] => .ok []
  | item :: rest => do
    let a ← decoder context item
    let as ← items decoder context rest
    return a :: as

/-- A list. -/
def list (decoder : Decoder α) : Decoder (List α)
  | context, .list js => do items decoder (← context.enter) js
  | _, json => json.refuse "a sequence"

/-- The members of an object, one after the other, added to what has been read. -/
def members (decoder : Decoder α) (context : Context) (read : Dict α) :
    List (Except Malformed String × Json) → Except JsonError (Dict α)
  | [] => .ok read
  | (.error cause, _) :: _ => .error (.malformed cause)
  | (.ok key, json) :: rest => do
    let a ← decoder context json
    members decoder context (read.insert key a) rest

/-- A dictionary; of members with one key the last stands. -/
def dict (decoder : Decoder α) : Decoder (Dict α)
  | context, .object ms => do members decoder (← context.enter) .empty ms
  | _, json => json.refuse "a map"

/-- Any value at all. -/
def document : Decoder Document := fun context json =>
  match json.document context.room with
  | .ok d => .ok d
  | .error cause => .error (.malformed cause)

/-- A value of a type with several forms: it is read as a whole before a form is sought. -/
def oneOf (type : String) (form : Json → Option α) : Decoder α := fun context json => do
  let _ ← document context json
  match form json with
  | some a => .ok a
  | none => .error (.noForm type)

end Decoder

/-! ## Records -/

/-- What becomes of a field that is absent. -/
inductive Absence where
  /-- It has to be there. -/
  | refused
  /-- It may be absent from an object, not from a list. -/
  | allowed
  /-- It may be absent. -/
  | filled
deriving DecidableEq, Repr

/-- A field of a record: its key and what its value has to be. -/
structure Field where
  key : String
  absence : Absence
  check : Decoder Unit

/-- A field with the decoder of its value. -/
def field {α : Type} (key : String) (absence : Absence) (decoder : Decoder α) : Field :=
  ⟨key, absence, fun context json => (decoder context json).map fun _ => ()⟩

/-- The fields of a record, in the order of their declaration. -/
structure RecordType where
  name : String
  fields : List Field

/-- The fields found in a value, with the context of their values. -/
structure Fields where
  context : Context
  values : List (String × Json)

namespace RecordType

/-- The words for a record. -/
def words (type : RecordType) : String := "struct " ++ type.name

/-- The words for a record given as a list. -/
def wordsAsList (type : RecordType) : String :=
  type.words ++ " with " ++ naturalText type.fields.length ++
    if type.fields.length = 1 then " element" else " elements"

/-- Checks the members of an object and keeps those that are fields. A member that is no field is
skipped, a field that stands twice is refused. -/
def checkMembers (type : RecordType) (context : Context) (seen : List String) :
    List (Except Malformed String × Json) → Except JsonError (List (String × Json))
  | [] => .ok []
  | (.error cause, _) :: _ => .error (.malformed cause)
  | (.ok key, json) :: rest =>
    match type.fields.find? fun f => f.key == key with
    | none =>
      match json.skip with
      | .error cause => .error (.malformed cause)
      | .ok () => checkMembers type context seen rest
    | some f => do
      if seen.contains key then throw (.duplicateField key)
      f.check context json
      let values ← checkMembers type context (key :: seen) rest
      return (key, json) :: values

/-- What becomes of items after the last field. -/
def surplus (context : Context) (fields : Nat) (items : List Json) : Except JsonError Unit :=
  match context.origin, items with
  | _, [] => .ok ()
  | .text, .missing cause :: _ => .error (.malformed cause)
  | .text, _ => .error (.malformed .unexpected)
  | .value, items => .error (.invalidLength (fields + items.length) "fewer elements in array")
  | .settings, _ => .ok ()

/-- Checks the items of a list against the fields from a position on. -/
def checkItems (type : RecordType) (context : Context) (position : Nat) :
    List Field → List Json → Except JsonError (List (String × Json))
  | [], items => do
    surplus context position items
    return []
  | f :: fields, [] =>
    if f.absence = .filled then checkItems type context (position + 1) fields []
    else .error (.invalidLength position type.wordsAsList)
  | f :: fields, item :: items => do
    f.check context item
    let values ← checkItems type context (position + 1) fields items
    return (f.key, item) :: values

/-- The fields of a record in a value. -/
def fieldsOf (type : RecordType) (context : Context) : Json → Except JsonError Fields
  | .object ms => do
    let inner ← context.enter
    return ⟨inner, ← type.checkMembers inner [] ms⟩
  | .list items => do
    let inner ← context.enter
    return ⟨inner, ← type.checkItems inner 0 type.fields items⟩
  | json => json.refuse type.words

end RecordType

namespace Fields

variable {α : Type}

/-- The value of a field that may be absent. -/
def get? (fields : Fields) (key : String) (decoder : Decoder α) : Except JsonError (Option α) :=
  match fields.values.find? fun v => v.1 == key with
  | none => .ok none
  | some v => (decoder fields.context v.2).map some

/-- The value of a field that has to be there. -/
def get (fields : Fields) (key : String) (decoder : Decoder α) : Except JsonError α := do
  match ← fields.get? key decoder with
  | some a => return a
  | none => throw (.missingField key)

/-- The value of a field, or one that stands in for it. -/
def getD (fields : Fields) (key : String) (decoder : Decoder α) (default : α) :
    Except JsonError α := do
  return (← fields.get? key decoder).getD default

end Fields

/-- Decodes a whole text: after the value there may only be blanks. -/
def Decoder.ofText {α : Type} (decoder : Decoder α) (text : String) : Except JsonError α :=
  let (json, more) := Json.ofText text
  match decoder .text json with
  | .error e => .error e
  | .ok a => if more then .error (.malformed .unexpected) else .ok a

/-- Decodes a value that has been read before. -/
def Decoder.ofDocument {α : Type} (decoder : Decoder α) (document : Document) :
    Except JsonError α :=
  decoder .value document.json

/-- The document of a JSON text. -/
def Document.ofText (text : String) : Except JsonError Document := Decoder.document.ofText text

end VoiceSkill
