import VoiceSkill.Document

/-!
# JSON as far as it can be read

A JSON text is read into a tree whose leaves may be flaws: the places where the text does not go on
as JSON. A flaw counts when the value it stands in is read, and not before, so a wrong value in
front of a flaw is reported first. A value that nobody asks for is skipped; skipping is less strict
than reading, which is why a flaw keeps both answers.
-/

namespace VoiceSkill

/-- Why a text is not JSON: it goes on with something else, or it ends too early. -/
inductive Malformed where
  | unexpected
  | ended
deriving DecidableEq, Repr

/-- What is wrong with a value when it is read, and when it is skipped. -/
structure Flaw where
  onRead : Malformed
  onSkip : Option Malformed
  /-- Whether it lies between quotes, so that it is clear before that the value is a text. -/
  quoted : Bool
deriving DecidableEq, Repr

/-- A JSON value as it stands in a text: members in written order, repeated keys included. -/
inductive Json where
  | null
  | bool (value : Bool)
  | number (value : Number)
  | string (value : String)
  | list (items : List Json)
  | object (members : List (Except Malformed String × Json))
  /-- A value that cannot be read. -/
  | flawed (flaw : Flaw)
  /-- Stands last in a list or an object that is not closed, and in place of a missing value. -/
  | missing (cause : Malformed)
deriving Repr, Inhabited

namespace Json

mutual

/-- Passes over a value without reading it. -/
def skip : Json → Except Malformed Unit
  | .list items => skipItems items
  | .object members => skipMembers members
  | .flawed flaw =>
    match flaw.onSkip with
    | none => .ok ()
    | some cause => .error cause
  | .missing cause => .error cause
  | _ => .ok ()

def skipItems : List Json → Except Malformed Unit
  | [] => .ok ()
  | item :: items =>
    match skip item with
    | .error cause => .error cause
    | .ok () => skipItems items

def skipMembers : List (Except Malformed String × Json) → Except Malformed Unit
  | [] => .ok ()
  | (_, value) :: members =>
    match skip value with
    | .error cause => .error cause
    | .ok () => skipMembers members

end

/-- Goes into a list or an object. `room` is how many levels may still be entered and one more;
without a bound every level may be. -/
def enter : Option Nat → Except Malformed (Option Nat)
  | none => .ok none
  | some room => if room ≤ 1 then .error .unexpected else .ok (some (room - 1))

mutual

/-- The document of a value that can be read as a whole; of members with one key the last stands. -/
def document (room : Option Nat) : Json → Except Malformed Document
  | .null => .ok .null
  | .bool b => .ok (.bool b)
  | .number n => .ok (.number n)
  | .string s => .ok (.string s)
  | .list items =>
    match enter room with
    | .error cause => .error cause
    | .ok room => (documentItems room items).map .list
  | .object members =>
    match enter room with
    | .error cause => .error cause
    | .ok room => (documentMembers room .empty members).map fun d => .object d.entries
  | .flawed flaw => .error flaw.onRead
  | .missing cause => .error cause

def documentItems (room : Option Nat) : List Json → Except Malformed (List Document)
  | [] => .ok []
  | item :: items =>
    match document room item with
    | .error cause => .error cause
    | .ok d => (documentItems room items).map (d :: ·)

def documentMembers (room : Option Nat) (read : Dict Document) :
    List (Except Malformed String × Json) → Except Malformed (Dict Document)
  | [] => .ok read
  | (.error cause, _) :: _ => .error cause
  | (.ok key, value) :: members =>
    match document room value with
    | .error cause => .error cause
    | .ok d => documentMembers room (read.insert key d) members

end

end Json

mutual

/-- A document as a JSON value. -/
def Document.json : Document → Json
  | .null => .null
  | .bool b => .bool b
  | .number n => .number n
  | .string s => .string s
  | .list items => .list (Document.jsonItems items)
  | .object members => .object (Document.jsonMembers members)

def Document.jsonItems : List Document → List Json
  | [] => []
  | item :: items => item.json :: Document.jsonItems items

def Document.jsonMembers : List (String × Document) → List (Except Malformed String × Json)
  | [] => []
  | (key, value) :: members => (.ok key, value.json) :: Document.jsonMembers members

end

end VoiceSkill
