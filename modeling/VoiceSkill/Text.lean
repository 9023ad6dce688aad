/-!
# Texts

Hexadecimal digits are written in lower case and read in either case. Splitting a text gives the
stretches between the occurrences of a character, empty ones included, so that joining them with the
character gives the text back. Lines are such stretches.
-/

namespace VoiceSkill

/-! ## Hexadecimal digits -/

/-- The hexadecimal digit of a number below sixteen. -/
def hexDigit (n : Nat) : Char :=
  if n < 10 then Char.ofNat (48 + n) else Char.ofNat (87 + n)

/-- The value of a hexadecimal digit. -/
def hexDigitValue (c : Char) : Option Nat :=
  if '0' ≤ c && c ≤ '9' then some (c.toNat - 48)
  else if 'a' ≤ c && c ≤ 'f' then some (c.toNat - 87)
  else if 'A' ≤ c && c ≤ 'F' then some (c.toNat - 55)
  else none

/-! ## Splitting at a character -/

/-- The stretches of a text between the occurrences of a character. -/
def splitAtChar (separator : Char) : List Char → List (List Char)
  | [] => [[]]
  | c :: rest =>
    if c == separator then [] :: splitAtChar separator rest
    else match splitAtChar separator rest with
      | [] => [[c]]
      | piece :: pieces => (c :: piece) :: pieces

theorem splitAtChar_ne_nil (separator : Char) (text : List Char) :
    splitAtChar separator text ≠ [] := by
  cases text with
  | nil => simp [splitAtChar]
  | cons c rest =>
    rw [splitAtChar]
    split
    · simp
    · split <;> simp

/-- Joining the stretches gives the text back. -/
theorem intercalate_splitAtChar (separator : Char) (text : List Char) :
    [separator].intercalate (splitAtChar separator text) = text := by
  induction text with
  | nil => rfl
  | cons c rest ih =>
    have hne := splitAtChar_ne_nil separator rest
    rw [splitAtChar]
    split
    · rename_i hc
      rw [eq_of_beq hc]
      cases hs : splitAtChar separator rest with
      | nil => exact absurd hs hne
      | cons piece pieces =>
        rw [hs] at ih
        simpa [List.intercalate, List.intersperse] using ih
    · cases hs : splitAtChar separator rest with
      | nil => exact absurd hs hne
      | cons piece pieces =>
        rw [hs] at ih
        cases pieces with
        | nil => simpa [List.intercalate, List.intersperse] using ih
        | cons next others => simpa [List.intercalate, List.intersperse] using ih

/-- The lines of a text that is printed with a line end after it. A carriage return in front of a
line end belongs to the line end. -/
def printedLines (text : String) : List String :=
  (splitAtChar '\n' text.toList).map fun line =>
    String.ofList (if line.getLast? = some '\r' then line.dropLast else line)

end VoiceSkill
