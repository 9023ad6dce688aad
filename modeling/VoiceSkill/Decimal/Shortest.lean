import VoiceSkill.Decimal
import VoiceSkill.Decimal.Binary

/-!
# Shortest decimals

A double is written by the shortest decimal that rounds to it, and of several such by the one
nearest to it. The decimals that round to a double fill an interval around it; its ends belong to it
when the multiple is even. For 1, 2, … 17 digits the two decimals next to the double are tested.
-/

namespace VoiceSkill

namespace Binary

/-- Four times a double and four times the ends of its interval, as multiples of one unit. -/
structure Interval where
  low : Nat
  value : Nat
  high : Nat
  closed : Bool
  /-- The unit is `numerator / denominator`. -/
  numerator : Nat
  denominator : Nat

def interval (b : Binary) : Interval :=
  let step := if b.multiple = Nat.pow 2 52 && leastPower < b.power then 1 else 2
  let power := b.power - 2
  { low := 4 * b.multiple - step
    value := 4 * b.multiple
    high := 4 * b.multiple + 2
    closed := b.multiple % 2 = 0
    numerator := if power < 0 then 1 else Nat.pow 2 power.natAbs
    denominator := if power < 0 then Nat.pow 2 power.natAbs else 1 }

/-- Compares `digits` times ten to the `exponent` with a multiple of the interval's unit. -/
def Interval.compare (i : Interval) (digits : Nat) (exponent : Int) (multiple : Nat) : Ordering :=
  let left := digits * (if exponent < 0 then 1 else Nat.pow 10 exponent.natAbs) * i.denominator
  let right := multiple * i.numerator * (if exponent < 0 then Nat.pow 10 exponent.natAbs else 1)
  Ord.compare left right

/-- Whether a decimal rounds to the double of the interval. -/
def Interval.holds (i : Interval) (digits : Nat) (exponent : Int) : Bool :=
  let low := i.compare digits exponent i.low
  let high := i.compare digits exponent i.high
  if i.closed then low != .lt && high != .gt else low == .gt && high == .lt

/-- The greatest whole number of units of ten to the `exponent` in the double. -/
def Interval.floor (i : Interval) (exponent : Int) : Nat :=
  let numerator :=
    i.value * i.numerator * (if exponent < 0 then Nat.pow 10 exponent.natAbs else 1)
  let denominator := i.denominator * (if exponent < 0 then 1 else Nat.pow 10 exponent.natAbs)
  numerator / denominator

/-- The power of ten of the first digit, searched downwards from `power`. -/
def Interval.firstPower (i : Interval) : Nat → Int → Int
  | 0, power => power
  | fuel + 1, power => if 0 < i.floor power then power else i.firstPower fuel (power - 1)

/-- The decimal with its last digit at `exponent` that stands for the double, if there is one. -/
def Interval.decimalAt? (i : Interval) (exponent : Int) : Option Nat :=
  let below := i.floor exponent
  let above := below + 1
  match i.holds below exponent, i.holds above exponent with
  | false, false => none
  | true, false => some below
  | false, true => some above
  | true, true =>
    match i.compare (below + above) exponent (2 * i.value) with
    | .gt => some below
    | .lt => some above
    | .eq => some (if below % 2 = 0 then below else above)

/-- The first of the grids from `exponent` downwards that holds a decimal for the double. -/
def Interval.search (i : Interval) : Nat → Int → Nat × Int
  | 0, exponent => (i.floor exponent, exponent)
  | fuel + 1, exponent =>
    match i.decimalAt? exponent with
    | some digits => (digits, exponent)
    | none => i.search fuel (exponent - 1)

/-- The shortest decimal of a double. -/
def shortest (b : Binary) (negative : Bool) : Decimal :=
  if b.multiple = 0 then .zero negative
  else
    let i := b.interval
    let (digits, exponent) := i.search 17 (i.firstPower 700 310)
    let (digits, exponent) := Decimal.trimmed digits exponent
    ⟨negative, digits, exponent⟩

end Binary

namespace Decimal

/-- The double nearest to `digits` times ten to the `exponent`; there is none beyond the greatest
one. A number with its first digit above 10^309 is too great, one below 10^-330 is nearest to zero,
and powers of ten far outside of that are not computed. -/
def nearest? (digits : Nat) (exponent : Int) : Option Binary :=
  let power := exponent + (decimalDigits digits).length
  if digits = 0 || power < -330 then some ⟨0, Binary.leastPower⟩
  else if 310 < power then none
  else if exponent < 0 then Binary.ofQuotient? digits (Nat.pow 10 exponent.natAbs)
  else Binary.ofQuotient? (digits * Nat.pow 10 exponent.natAbs) 1

/-- Divides a double by 10^308 until the exponent that remains is within reach. -/
def scaleDown : Nat → Binary → Nat → Option Binary
  | 0, value, _ => some value
  | fuel + 1, value, exponent =>
    if value.multiple = 0 then some value
    else do
      let power ← Binary.ofQuotient? (Nat.pow 10 (min exponent 308)) 1
      let next ← value.over? power
      if exponent ≤ 308 then some next else scaleDown fuel next (exponent - 308)

/-- Scales a whole number by a power of ten in double precision: the number and the power are
rounded, and so is each product or quotient of them. There is none beyond the greatest double. -/
def scaled? (significand : Nat) (exponent : Int) : Option Binary := do
  let value ← Binary.ofQuotient? significand 1
  if exponent < 0 then scaleDown (exponent.natAbs / 308 + 1) value exponent.natAbs
  else if value.multiple = 0 then some value
  else if exponent ≤ 308 then do
    let power ← Binary.ofQuotient? (Nat.pow 10 exponent.natAbs) 1
    value.times? power
  else none

end Decimal

end VoiceSkill
