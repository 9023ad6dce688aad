import VoiceSkill.Document
import VoiceSkill.Decimal.Shortest

/-!
# Numerals

A numeral is a number as a JSON text spells it. Without fraction and exponent it denotes an integer
as long as it fits into 64 bits, with or without sign; everything else, minus zero included, is read
in double precision. Digits beyond 64 bits do not take part: those before the point only scale.
-/

namespace VoiceSkill

/-- The parts of a spelled number. -/
structure Numeral where
  negative : Bool
  whole : List Char
  fraction : Option (List Char)
  /-- Whether the exponent is negative, and its digits. -/
  exponent : Option (Bool × List Char)

namespace Numeral

/-- The greatest significand. -/
def greatestSignificand : Nat := Nat.pow 2 64 - 1

/-- The value of a digit character. -/
def digitValue (c : Char) : Nat := c.toNat - '0'.toNat

/-- The value of a row of digits. -/
def digitsValue (digits : List Char) : Nat :=
  digits.foldl (fun n c => 10 * n + digitValue c) 0

/-- Appends digits to a significand until the next one would exceed the greatest; the digits that
are left over come second. -/
def absorb (significand : Nat) : List Char → Nat × List Char
  | [] => (significand, [])
  | c :: rest =>
    let next := 10 * significand + digitValue c
    if next ≤ greatestSignificand then absorb next rest else (significand, c :: rest)

/-- The power of ten that the exponent denotes. -/
def shift (numeral : Numeral) : Int :=
  match numeral.exponent with
  | none => 0
  | some (true, digits) => -digitsValue digits
  | some (false, digits) => digitsValue digits

/-- The double nearest to what a numeral denotes, with all of its digits; none beyond the range of
doubles. -/
def nearest? (numeral : Numeral) : Option Number :=
  let fraction := numeral.fraction.getD []
  (Decimal.nearest? (digitsValue (numeral.whole ++ fraction))
    (numeral.shift - fraction.length)).map fun b => .decimal (b.shortest numeral.negative)

/-- The number in double precision with the given significand and power of ten. -/
def scaled (negative : Bool) (significand : Nat) (exponent : Int) : Option Number :=
  (Decimal.scaled? significand exponent).map fun b => .decimal (b.shortest negative)

/-- The number that a numeral denotes; none beyond the range of doubles. -/
def value? (numeral : Numeral) : Option Number :=
  let (significand, surplus) := absorb 0 numeral.whole
  match numeral.fraction, numeral.exponent, surplus with
  | none, none, [] =>
    if !numeral.negative then some (.integer significand)
    else if significand = 0 then some (.decimal (.zero true))
    else if significand ≤ Nat.pow 2 63 then some (.integer (-significand))
    else scaled true significand 0
  | fraction, _, surplus =>
    let fraction := fraction.getD []
    let (significand, left) := absorb significand fraction
    let power : Int := surplus.length - (fraction.length - left.length : Nat)
    scaled numeral.negative significand (power + numeral.shift)

end Numeral

end VoiceSkill
