import VoiceSkill.Json.Decoder

/-!
# Locales

The languages that a skill can be built for, each with its tag.
-/

namespace VoiceSkill

/-- A supported locale. -/
inductive Locale where
  | enUS
  | enGB
  | deDE
deriving DecidableEq, Repr, Inhabited

namespace Locale

def all : List Locale := [enUS, enGB, deDE]

/-- The tag of a locale. -/
def tag : Locale → String
  | enUS => "en-US"
  | enGB => "en-GB"
  | deDE => "de-DE"

def allTags : List String := all.map tag

/-- The locale with a tag, spelled exactly so. -/
def ofTag? (tag : String) : Option Locale := all.find? fun locale => locale.tag == tag

/-- The locale of a tag in JSON, or its error. -/
def variant (tag : String) : Except JsonError Locale :=
  match ofTag? tag with
  | some locale => .ok locale
  | none => .error (.unknownVariant tag allTags)

/-- A locale in JSON is its tag, or an object with the tag as its only key and null under it. Any
other value is not taken for a locale at all, whatever it is and whether or not it is complete. -/
def decoder : Decoder Locale
  | _, .string tag => variant tag
  | context, .object members => do
    let _ ← context.enter
    match members with
    | [] => throw (.malformed .unexpected)
    | (.error cause, _) :: _ => throw (.malformed cause)
    | (.ok tag, value) :: rest => do
      let locale ← variant tag
      match value, rest with
      | .null, [] => return locale
      | .null, (.error cause, .missing _) :: _ => throw (.malformed cause)
      | .null, _ => throw (.malformed .unexpected)
      | value, _ => Json.refuse value "unit"
  | _, .flawed flaw => .error (.malformed (if flaw.quoted then flaw.onRead else .unexpected))
  | _, .missing cause => .error (.malformed cause)
  | _, _ => .error (.malformed .unexpected)

end Locale

end VoiceSkill
