import VoiceSkill.Dict
import VoiceSkill.Decimal

/-!
# Documents

A document is a JSON value: what an artifact holds and what a file is written from. The members of
an object are a list; in a canonical document every object's keys increase strictly, so that equal
contents are equal documents.
-/

namespace VoiceSkill

/-- A number of a document: an integer, or a decimal in double precision. -/
inductive Number where
  | integer (value : Int)
  | decimal (value : Decimal)
deriving DecidableEq, Repr

/-- A JSON value. -/
inductive Document where
  | null
  | bool (value : Bool)
  | number (value : Number)
  | string (value : String)
  | list (items : List Document)
  | object (members : List (String × Document))
deriving Repr, Inhabited

namespace Document

/-- An object with the given members, brought into the order of their keys. -/
def record (members : List (String × Document)) : Document :=
  .object (Dict.ofList members).entries

/-- A list of texts. -/
def texts (values : List String) : Document := .list (values.map .string)

/-- A natural number. -/
def natural (n : Nat) : Document := .number (.integer n)

/-- A text, or null where there is none. -/
def optional {α : Type} (value : α → Document) : Option α → Document
  | some a => value a
  | none => .null

/-- The members of an object; nothing else has members. -/
def members : Document → List (String × Document)
  | .object members => members
  | _ => []

/-- The value under a key of an object. -/
def get? (document : Document) (key : String) : Option Document :=
  (document.members.find? fun member => member.1 == key).map Prod.snd

/-! ## Canonical documents -/

mutual

/-- Every object in the document has strictly increasing keys. -/
def Canonical : Document → Prop
  | .list items => CanonicalItems items
  | .object members => KeysIncrease members ∧ CanonicalMembers members
  | _ => True

def CanonicalItems : List Document → Prop
  | [] => True
  | item :: items => Canonical item ∧ CanonicalItems items

def CanonicalMembers : List (String × Document) → Prop
  | [] => True
  | (_, value) :: members => Canonical value ∧ CanonicalMembers members

end

mutual

/-- How deep lists and objects nest. -/
def depth : Document → Nat
  | .list items => depthItems items + 1
  | .object members => depthMembers members + 1
  | _ => 0

def depthItems : List Document → Nat
  | [] => 0
  | item :: items => max (depth item) (depthItems items)

def depthMembers : List (String × Document) → Nat
  | [] => 0
  | (_, value) :: members => max (depth value) (depthMembers members)

end

end Document

end VoiceSkill
