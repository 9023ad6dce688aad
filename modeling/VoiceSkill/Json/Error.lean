import VoiceSkill.Json
import VoiceSkill.Unicode.Unprintable

/-!
# Why a JSON value is refused

A text is refused because it is not JSON, or because a value in it is not what its place asks for.
The message of the second kind names what was found and what was expected.
-/

namespace VoiceSkill

/-- What stood in a place where something else was expected. -/
inductive Found where
  | null
  | bool (value : Bool)
  | number (value : Number)
  | string (value : String)
  | list
  | object
deriving DecidableEq, Repr

/-- Why a value is refused. -/
inductive JsonError where
  | malformed (cause : Malformed)
  | invalidType (found : Found) (expected : String)
  | invalidValue (found : Found) (expected : String)
  | invalidLength (length : Nat) (expected : String)
  | missingField (name : String)
  | duplicateField (name : String)
  | unknownVariant (name : String) (known : List String)
  /-- No form of a type that has several forms fits. -/
  | noForm (type : String)
deriving DecidableEq, Repr

/-- The hexadecimal digits of a code point. -/
def hexDigits (n : Nat) : List Char := Nat.toDigits 16 n

/-- A character as it is shown between quotes in a message. -/
def showChar (c : Char) : List Char :=
  if c == '\x00' then ['\\', '0']
  else if c == '\t' then ['\\', 't']
  else if c == '\r' then ['\\', 'r']
  else if c == '\n' then ['\\', 'n']
  else if c == '\x22' then ['\\', '\x22']
  else if c == '\\' then ['\\', '\\']
  else if Unicode.isUnprintable c then ['\\', 'u', '\x7b'] ++ hexDigits c.toNat ++ ['\x7d']
  else [c]

/-- A text as it is shown between quotes in a message. -/
def showText (text : String) : String :=
  String.ofList ('\x22' :: text.toList.flatMap showChar ++ ['\x22'])

/-- The words for what was found. -/
def Found.words : Found → String
  | .null => "null"
  | .bool true => "boolean `true`"
  | .bool false => "boolean `false`"
  | .number (.integer n) => "integer `" ++ String.ofList (integerDigits n) ++ "`"
  | .number (.decimal d) => "floating point `" ++ String.ofList d.render ++ "`"
  | .string s => "string " ++ showText s
  | .list => "sequence"
  | .object => "map"

/-- The text of a natural number. -/
def naturalText (n : Nat) : String := String.ofList (decimalDigits n)

/-- The message of an error; a text that is not JSON has none of its own. -/
def JsonError.message : JsonError → String
  | .malformed _ => ""
  | .invalidType found expected => "invalid type: " ++ found.words ++ ", expected " ++ expected
  | .invalidValue found expected => "invalid value: " ++ found.words ++ ", expected " ++ expected
  | .invalidLength length expected =>
    "invalid length " ++ naturalText length ++ ", expected " ++ expected
  | .missingField name => "missing field `" ++ name ++ "`"
  | .duplicateField name => "duplicate field `" ++ name ++ "`"
  | .unknownVariant name known =>
    "unknown variant `" ++ name ++ "`, expected one of " ++
      ", ".intercalate (known.map fun k => "`" ++ k ++ "`")
  | .noForm type => "data did not match any variant of untagged enum " ++ type

namespace Json

/-- What a value is, for a message; it has to be readable so far. -/
def found : Json → Except JsonError Found
  | .null => .ok .null
  | .bool b => .ok (.bool b)
  | .number n => .ok (.number n)
  | .string s => .ok (.string s)
  | .list _ => .ok .list
  | .object _ => .ok .object
  | .flawed flaw => .error (.malformed flaw.onRead)
  | .missing cause => .error (.malformed cause)

/-- Refuses a value for its type. -/
def refuse {α : Type} (json : Json) (expected : String) : Except JsonError α := do
  throw (.invalidType (← json.found) expected)

end Json

end VoiceSkill
