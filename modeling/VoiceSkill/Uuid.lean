import VoiceSkill.Text

/-!
# Identifiers

Documents carry identifiers of 128 bits. They are written as hexadecimal digits in lower case, in
groups of 8, 4, 4, 4 and 12, and read in either case, with or without hyphens, in braces or as a
URN. New ones are of version 7: a time in front, then the version, then what tells them apart.
-/

namespace VoiceSkill

/-- An identifier of 128 bits. -/
structure Uuid where
  bits : BitVec 128
deriving DecidableEq, Repr, Inhabited

namespace Uuid

/-- The last `count` hexadecimal digits of a number. -/
def hexTail : Nat → Nat → List Char
  | 0, _ => []
  | count + 1, n => hexTail count (n / 16) ++ [hexDigit (n % 16)]

/-- The 32 digits of an identifier. -/
def digits (uuid : Uuid) : List Char := hexTail 32 uuid.bits.toNat

/-- The lengths of the groups between hyphens. -/
def groupLengths : List Nat := [8, 4, 4, 4, 12]

/-- Cuts a text into groups of the given lengths. -/
def groups : List Nat → List Char → List (List Char)
  | [], _ => []
  | n :: lengths, text => text.take n :: groups lengths (text.drop n)

/-- The written form of an identifier. -/
def text (uuid : Uuid) : String :=
  String.ofList (['-'].intercalate (groups groupLengths uuid.digits))

/-- The value of a row of hexadecimal digits. -/
def hexNumber? (digits : List Char) : Option Nat :=
  digits.foldlM (fun n c => (hexDigitValue c).map (16 * n + ·)) 0

/-- The identifier of 32 digits. -/
def ofDigits? (digits : List Char) : Option Uuid :=
  if digits.length = 32 then (hexNumber? digits).map fun n => ⟨BitVec.ofNat 128 n⟩ else none

/-- The identifier of digits in groups. -/
def ofGroups? (text : List Char) : Option Uuid :=
  let parts := splitAtChar '-' text
  if parts.map List.length = groupLengths then ofDigits? parts.flatten else none

/-- What stands in front of an identifier written as a URN, in letters of either case. -/
def urnStart : List Char := "urn:uuid:".toList

/-- The identifier of a written form. -/
def ofText? (text : String) : Option Uuid :=
  let chars := text.toList
  if chars.length = 32 then ofDigits? chars
  else if chars.length = 36 then ofGroups? chars
  else if chars.length = 38 && chars.head? == some '\x7b' && chars.getLast? == some '\x7d' then
    ofGroups? (chars.drop 1).dropLast
  else if chars.length = 45 && (chars.take urnStart.length).map Char.toLower == urnStart then
    ofGroups? (chars.drop urnStart.length)
  else none

/-- The version that an identifier declares. -/
def version (uuid : Uuid) : Nat := (uuid.bits >>> 76).toNat % 16

/-- A new identifier of version 7, from a time in milliseconds and a serial number. -/
def generated (time serial : Nat) : Uuid :=
  let high :=
    (time % Nat.pow 2 48) * Nat.pow 2 16 + 7 * Nat.pow 2 12 +
      serial / Nat.pow 2 62 % Nat.pow 2 12
  ⟨BitVec.ofNat 128 (high * Nat.pow 2 64 + 2 * Nat.pow 2 62 + serial % Nat.pow 2 62)⟩

end Uuid

end VoiceSkill
