/-!
# Rounding to double precision

A number in double precision is a whole number below 2^53 times a power of two from 2^-1074 on.
Rounding takes the nearest such number, of two equally near ones the one with an even multiple.
-/

namespace VoiceSkill

/-- The number `multiple` times two to the `power`. -/
structure Binary where
  multiple : Nat
  power : Int
deriving DecidableEq, Repr

namespace Binary

/-- The least power of two of a double. -/
def leastPower : Int := -1074

/-- The greatest power of two of a double. -/
def greatestPower : Int := 971

/-- The nearest whole number to a quotient, a half going to the even neighbour. -/
def roundQuotient (numerator denominator : Nat) : Nat :=
  let floor := numerator / denominator
  let rest := 2 * (numerator % denominator)
  if rest < denominator || (rest == denominator && floor % 2 == 0) then floor else floor + 1

/-- The quotient in units of two to the `power`, as numerator and denominator. -/
def inUnits (numerator denominator : Nat) (power : Int) : Nat × Nat :=
  if power < 0 then (numerator * Nat.pow 2 power.natAbs, denominator)
  else (numerator, denominator * Nat.pow 2 power.natAbs)

/-- The power of the unit in which the quotient has 53 binary digits, or the least power. -/
def unitPower (numerator denominator : Nat) : Int :=
  let estimate := (Nat.log2 numerator : Int) - Nat.log2 denominator - 53
  let power := max leastPower estimate
  let (n, d) := inUnits numerator denominator power
  if n / d < Nat.pow 2 53 then power else power + 1

/-- The double nearest to a quotient, unless that lies beyond the greatest one. -/
def ofQuotient? (numerator denominator : Nat) : Option Binary :=
  if numerator = 0 then some ⟨0, leastPower⟩
  else
    let power := unitPower numerator denominator
    let (n, d) := inUnits numerator denominator power
    let multiple := roundQuotient n d
    let rounded : Binary :=
      if multiple = Nat.pow 2 53 then ⟨Nat.pow 2 52, power + 1⟩ else ⟨multiple, power⟩
    if rounded.power ≤ greatestPower then some rounded else none

/-- A double as a quotient of whole numbers. -/
def quotient (b : Binary) : Nat × Nat :=
  if b.power < 0 then (b.multiple, Nat.pow 2 b.power.natAbs)
  else (b.multiple * Nat.pow 2 b.power.natAbs, 1)

/-- The rounded product of two doubles. -/
def times? (a b : Binary) : Option Binary :=
  ofQuotient? (a.quotient.1 * b.quotient.1) (a.quotient.2 * b.quotient.2)

/-- The rounded quotient of a double and one that is not zero. -/
def over? (a b : Binary) : Option Binary :=
  ofQuotient? (a.quotient.1 * b.quotient.2) (a.quotient.2 * b.quotient.1)

end Binary

end VoiceSkill
