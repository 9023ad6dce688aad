import VoiceSkill.Json
import VoiceSkill.Json.Numeral
import VoiceSkill.Text

/-!
# Lexemes of JSON

Texts between quotes, numbers and the three words of JSON. A lexeme knows its value, as reading it
gives it, and the text after it, as skipping it gives it: a lone surrogate or a number beyond the
range of doubles spoils the value, not the rest.
-/

namespace VoiceSkill.Json

/-- A lexeme at the start of a text. -/
structure Lexeme (α : Type) where
  value : Except Malformed α
  rest : Except Malformed (List Char)

namespace Lexeme

/-- No lexeme: reading and skipping stop for the same cause. -/
def broken {α : Type} (cause : Malformed) : Lexeme α := ⟨.error cause, .error cause⟩

/-- A lexeme without a value. -/
def spoiled {α : Type} (lexeme : Lexeme α) : Lexeme α := { lexeme with value := .error .unexpected }

def map {α β : Type} (f : α → β) (lexeme : Lexeme α) : Lexeme β :=
  { lexeme with value := lexeme.value.map f }

end Lexeme

/-! ## Blanks -/

/-- The blanks of JSON. -/
def isGap (c : Char) : Bool := c == ' ' || c == '\n' || c == '\t' || c == '\r'

/-- A text without the blanks in front. -/
def afterGap (text : List Char) : List Char := text.dropWhile isGap

/-! ## Texts between quotes -/

/-- The value of four hexadecimal digits. -/
def hexValue (a b c d : Char) : Option Nat := do
  return (((← hexDigitValue a) * 16 + (← hexDigitValue b)) * 16 + (← hexDigitValue c)) * 16 +
    (← hexDigitValue d)

/-- The first half of a pair of surrogates. -/
def isHighSurrogate (n : Nat) : Bool := 0xD800 ≤ n && n < 0xDC00

/-- The second half of a pair of surrogates. -/
def isLowSurrogate (n : Nat) : Bool := 0xDC00 ≤ n && n < 0xE000

/-- The character of a pair of surrogates. -/
def pairedChar (high low : Nat) : Char :=
  Char.ofNat ((high - 0xD800) * 0x400 + (low - 0xDC00) + 0x10000)

/-- The character that a letter after a backslash stands for. -/
def escapedChar (c : Char) : Option Char :=
  if c == '\x22' || c == '\\' || c == '/' then some c
  else if c == 'b' then some '\x08'
  else if c == 'f' then some '\x0c'
  else if c == 'n' then some '\n'
  else if c == 'r' then some '\r'
  else if c == 't' then some '\t'
  else none

/-- Why fewer than four characters are not four hexadecimal digits: with less than four bytes the
text has ended. -/
def shortHex (text : List Char) : Malformed :=
  if text.foldl (fun size c => size + c.utf8Size) 0 < 4 then .ended else .unexpected

/-- The text up to the closing quote. -/
def quoted : List Char → Lexeme (List Char)
  | [] => .broken .ended
  | ['\\'] => .broken .ended
  | '\\' :: 'u' :: a :: b :: c :: d :: rest =>
    match hexValue a b c d with
    | none => .broken .unexpected
    | some n =>
      if isLowSurrogate n then (quoted rest).spoiled
      else if isHighSurrogate n then
        match rest with
        | '\\' :: 'u' :: e :: f :: g :: h :: rest' =>
          match hexValue e f g h with
          | none => .broken .unexpected
          | some m =>
            if isLowSurrogate m then (quoted rest').map (pairedChar n m :: ·)
            else (quoted rest').spoiled
        | [] => .broken .ended
        | ['\\'] => .broken .ended
        | '\\' :: 'u' :: short => .broken (shortHex short)
        | rest => (quoted rest).spoiled
      else (quoted rest).map (Char.ofNat n :: ·)
  | '\\' :: 'u' :: short => .broken (shortHex short)
  | '\\' :: c :: rest =>
    match escapedChar c with
    | none => .broken .unexpected
    | some e => (quoted rest).map (e :: ·)
  | c :: rest =>
    if c == '\x22' then ⟨.ok [], .ok rest⟩
    else if c.toNat < 32 then .broken .unexpected
    else (quoted rest).map (c :: ·)

/-! ## Numbers -/

/-- Digits at the start of a text, and what comes after them. -/
def spanDigits (text : List Char) : List Char × List Char := text.span Char.isDigit

/-- Why there is no digit where one has to stand. Skipping does not tell an end from anything
else. -/
def noDigit {α : Type} (text : List Char) : Lexeme α :=
  ⟨.error (if text.isEmpty then .ended else .unexpected), .error .unexpected⟩

/-- A finished numeral. -/
def finish (numeral : Numeral) (rest : List Char) : Lexeme Number :=
  ⟨match numeral.value? with
    | some n => .ok n
    | none => .error .unexpected, .ok rest⟩

/-- The exponent of a numeral, if there is one. -/
def exponentPart (numeral : Numeral) : List Char → Lexeme Number
  | [] => finish numeral []
  | e :: rest =>
    if e == 'e' || e == 'E' then
      let (negative, rest) := match rest with
        | '-' :: rest => (true, rest)
        | '+' :: rest => (false, rest)
        | rest => (false, rest)
      match spanDigits rest with
      | ([], rest) => noDigit rest
      | (digits, rest) => finish { numeral with exponent := some (negative, digits) } rest
    else finish numeral (e :: rest)

/-- The fraction of a numeral, if there is one, and what follows it. -/
def fractionPart (numeral : Numeral) : List Char → Lexeme Number
  | '.' :: rest =>
    match spanDigits rest with
    | ([], rest) => noDigit rest
    | (digits, rest) => exponentPart { numeral with fraction := some digits } rest
  | rest => exponentPart numeral rest

/-- A number whose sign has been read. A zero in front stands alone. -/
def numeral (negative : Bool) (text : List Char) : Lexeme Number :=
  match spanDigits text with
  | ([], rest) => noDigit rest
  | ('0' :: _ :: _, _) => .broken .unexpected
  | (digits, rest) => fractionPart ⟨negative, digits, none, none⟩ rest

/-! ## Words -/

/-- A word, character by character. -/
def word {α : Type} (value : α) : List Char → List Char → Lexeme α
  | [], text => ⟨.ok value, .ok text⟩
  | _ :: _, [] => .broken .ended
  | expected :: more, c :: rest =>
    if c == expected then word value more rest else .broken .unexpected

end VoiceSkill.Json
