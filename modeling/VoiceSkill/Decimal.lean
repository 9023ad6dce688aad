/-!
# Decimal numbers

A number that is not a whole one is kept as the decimal by which it is written: a sign, digits, and
the power of ten of the last digit. The text has a point and at least one digit after it while the
number lies between 10^-5 and 10^16, and is scientific outside, with a signed exponent.
-/

namespace VoiceSkill

/-- The digit character of a number below ten. -/
def digitChar (n : Nat) : Char := Char.ofNat ('0'.toNat + n)

/-- The decimal digits of a number, without leading zeros. -/
def decimalDigits (n : Nat) : List Char :=
  if n < 10 then [digitChar n] else decimalDigits (n / 10) ++ [digitChar (n % 10)]
termination_by n
decreasing_by omega

/-- The decimal text of an integer. -/
def integerDigits (n : Int) : List Char :=
  if n < 0 then '-' :: decimalDigits n.natAbs else decimalDigits n.natAbs

/-- The number whose value is `digits` times ten to the `exponent`. -/
structure Decimal where
  negative : Bool
  digits : Nat
  exponent : Int
deriving DecidableEq, Repr

namespace Decimal

/-- Zero of either sign. -/
def zero (negative : Bool) : Decimal := ⟨negative, 0, 0⟩

/-- Moves zeros at the end of the digits into the exponent. -/
def trimmed (digits : Nat) (exponent : Int) : Nat × Int :=
  if h : 0 < digits ∧ digits % 10 = 0 then trimmed (digits / 10) (exponent + 1)
  else (digits, exponent)
termination_by digits
decreasing_by omega

/-- How a decimal is written: the least and the greatest power of ten of a first digit that stand
in positional notation. -/
structure Format where
  least : Int
  greatest : Int

/-- The format of all decimals. -/
def format : Format := ⟨-5, 15⟩

/-- Digits with a point after the first `whole` of them; zeros fill up what is missing. -/
def positional (digits : List Char) (whole : Int) : List Char :=
  if whole ≤ 0 then ['0', '.'] ++ List.replicate whole.natAbs '0' ++ digits
  else
    let before := digits.take whole.toNat
    let after := digits.drop whole.toNat
    before ++ List.replicate (whole.toNat - digits.length) '0' ++ '.' ::
      (if after.isEmpty then ['0'] else after)

/-- Digits with a point after the first, and an exponent. -/
def scientific (digits : List Char) (power : Int) : List Char :=
  digits.take 1 ++ (if digits.length ≤ 1 then [] else '.' :: digits.drop 1) ++
    ['e', if power < 0 then '-' else '+'] ++ decimalDigits power.natAbs

/-- The text of a decimal. -/
def render (d : Decimal) : List Char :=
  let sign := if d.negative then ['-'] else []
  let digits := decimalDigits d.digits
  let power := d.exponent + digits.length - 1
  if d.digits = 0 then sign ++ ['0', '.', '0']
  else if format.least ≤ power && power ≤ format.greatest then
    sign ++ positional digits (power + 1)
  else sign ++ scientific digits power

end Decimal

end VoiceSkill
