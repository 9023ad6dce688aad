import VoiceSkill.Json.Numeral
import VoiceSkill.Text

/-!
# Lexemes of TOML

Line ends, keys, texts, numbers and dates. Each reader takes what it reads from the front of a text
and gives the rest, or nothing where the text starts with something else.
-/

namespace VoiceSkill.Toml

/-! ## Blanks and line ends -/

def isBlank (c : Char) : Bool := c == ' ' || c == '\t'

def afterBlanks (text : List Char) : List Char := text.dropWhile isBlank

/-- The characters of comments and texts: no control character but the tab. -/
def isPrintable (c : Char) : Bool := c == '\t' || (32 ≤ c.toNat && c.toNat != 127)

/-- The text after a line end. -/
def newline? : List Char → Option (List Char)
  | '\n' :: rest => some rest
  | '\r' :: '\n' :: rest => some rest
  | _ => none

/-- The text after the end of a line: blanks, perhaps a comment, and the end of the line or of the
whole text. -/
def lineEnd? (text : List Char) : Option (List Char) :=
  let text := match afterBlanks text with
    | '#' :: comment => comment.dropWhile isPrintable
    | text => text
  if text.isEmpty then some [] else newline? text

/-- The text after blanks, line ends and comments, which may stand between the items of a list. -/
def afterGap : Bool → List Char → Option (List Char)
  | _, '\n' :: rest => afterGap false rest
  | _, '\r' :: '\n' :: rest => afterGap false rest
  | true, c :: rest => if isPrintable c then afterGap true rest else none
  | true, [] => none
  | false, c :: rest =>
    if isBlank c then afterGap false rest
    else if c == '#' then afterGap true rest
    else some (c :: rest)
  | false, [] => some []

/-! ## Texts -/

/-- The character with a code point in hexadecimal digits. -/
def charOf? (digits : List Char) : Option Char := do
  let n ← digits.foldlM (fun n c => (hexDigitValue c).map (16 * n + ·)) 0
  if n.isValidChar then some (Char.ofNat n) else none

/-- The character that a letter after a backslash stands for. -/
def escapedChar (c : Char) : Option Char :=
  if c == '\x22' || c == '\\' then some c
  else if c == 'b' then some '\x08'
  else if c == 't' then some '\t'
  else if c == 'n' then some '\n'
  else if c == 'f' then some '\x0c'
  else if c == 'r' then some '\r'
  else none

/-- Puts a character in front of the text that has been read. -/
def andThen (c : Char) (read : Option (List Char × List Char)) : Option (List Char × List Char) :=
  read.map fun r => (c :: r.1, r.2)

/-- A text up to the closing double quote. -/
def basicText : List Char → Option (List Char × List Char)
  | [] => none
  | '\\' :: 'u' :: a :: b :: c :: d :: rest => do
    andThen (← charOf? [a, b, c, d]) (basicText rest)
  | '\\' :: 'U' :: a :: b :: c :: d :: e :: f :: g :: h :: rest => do
    andThen (← charOf? [a, b, c, d, e, f, g, h]) (basicText rest)
  | '\\' :: c :: rest => do andThen (← escapedChar c) (basicText rest)
  | c :: rest =>
    if c == '\x22' then some ([], rest)
    else if isPrintable c then andThen c (basicText rest)
    else none

/-- A text up to the closing single quote. -/
def literalText : List Char → Option (List Char × List Char)
  | [] => none
  | c :: rest =>
    if c == '\x27' then some ([], rest)
    else if isPrintable c then andThen c (literalText rest)
    else none

/-- The quotes that stand in front of the three closing ones and belong to the text, at most two. -/
def closing (quote : Char) (rest : List Char) : List Char × List Char :=
  let extra := (rest.takeWhile (· == quote)).length
  (List.replicate (min extra 2) quote, rest.drop (min extra 2))

/-- A text over several lines up to three double quotes. While it is being trimmed, blanks and line
ends are left out: a backslash at the end of a line joins it with what comes next. -/
def basicLines : Bool → List Char → Option (List Char × List Char)
  | _, [] => none
  | _, '\x22' :: '\x22' :: '\x22' :: rest => some (closing '\x22' rest)
  | _, '\\' :: 'u' :: a :: b :: c :: d :: rest => do
    andThen (← charOf? [a, b, c, d]) (basicLines false rest)
  | _, '\\' :: 'U' :: a :: b :: c :: d :: e :: f :: g :: h :: rest => do
    andThen (← charOf? [a, b, c, d, e, f, g, h]) (basicLines false rest)
  | trim, '\r' :: '\n' :: rest =>
    if trim then basicLines true rest else andThen '\n' (basicLines false rest)
  | trim, '\n' :: rest =>
    if trim then basicLines true rest else andThen '\n' (basicLines false rest)
  | _, ['\\'] => none
  | _, '\\' :: c :: rest =>
    if (newline? (afterBlanks (c :: rest))).isSome then basicLines true (c :: rest)
    else do andThen (← escapedChar c) (basicLines false rest)
  | trim, c :: rest =>
    if trim && isBlank c then basicLines true rest
    else if isPrintable c then andThen c (basicLines false rest)
    else none

/-- A text over several lines up to three single quotes. -/
def literalLines : List Char → Option (List Char × List Char)
  | [] => none
  | '\x27' :: '\x27' :: '\x27' :: rest => some (closing '\x27' rest)
  | '\r' :: '\n' :: rest => andThen '\n' (literalLines rest)
  | '\n' :: rest => andThen '\n' (literalLines rest)
  | c :: rest => if isPrintable c then andThen c (literalLines rest) else none

/-- A text without the line end in front. -/
def afterNewline (text : List Char) : List Char := (newline? text).getD text

/-- A text on one line. -/
def text? : List Char → Option (List Char × List Char)
  | '\x22' :: rest => basicText rest
  | '\x27' :: rest => literalText rest
  | _ => none

/-- A text on one line or over several ones. -/
def anyText? : List Char → Option (List Char × List Char)
  | '\x22' :: '\x22' :: '\x22' :: rest => basicLines false (afterNewline rest)
  | '\x27' :: '\x27' :: '\x27' :: rest => literalLines (afterNewline rest)
  | text => text? text

/-! ## Keys -/

/-- The characters of keys without quotes. -/
def isKeyChar (c : Char) : Bool := c.isAlphanum || c == '_' || c == '-'

/-- A key. -/
def key? (text : List Char) : Option (String × List Char) :=
  match text? text with
  | some (key, rest) => some (String.ofList key, rest)
  | none =>
    match text.span isKeyChar with
    | ([], _) => none
    | (key, rest) => some (String.ofList key, rest)

/-- How many levels lists, inline tables or dotted keys may go down, and one more. -/
def levelLimit : Nat := 80

/-- Keys between dots. The fuel bounds their number. -/
def keys? : Nat → List Char → Option (List String × List Char)
  | 0, _ => none
  | fuel + 1, text => do
    let (key, rest) ← key? (afterBlanks text)
    match afterBlanks rest with
    | '.' :: rest =>
      let (keys, rest) ← keys? fuel rest
      return (key :: keys, rest)
    | rest => return ([key], rest)

/-- A dotted key: the keys in front and the last one. -/
def dottedKey? (text : List Char) : Option (List String × String × List Char) := do
  let (keys, rest) ← keys? (levelLimit - 1) text
  let last ← keys.getLast?
  return (keys.dropLast, last, rest)

/-! ## Dates and times -/

/-- A number of so many digits, between two bounds. -/
def fixed? (digits low high : Nat) (text : List Char) : Option (Nat × List Char) :=
  let taken := text.take digits
  let n := Numeral.digitsValue taken
  if taken.length = digits && taken.all Char.isDigit && low ≤ n && n ≤ high then
    some (n, text.drop digits)
  else none

/-- The text after a character. -/
def after? (c : Char) : List Char → Option (List Char)
  | d :: rest => if d == c then some rest else none
  | [] => none

/-- The length of a month. -/
def daysIn (year month : Nat) : Nat :=
  if month = 2 then if (year % 4 = 0 && year % 100 != 0) || year % 400 = 0 then 29 else 28
  else if [4, 6, 9, 11].contains month then 30 else 31

/-- The text after a date. -/
def date? (text : List Char) : Option (List Char) := do
  let (year, rest) ← fixed? 4 0 9999 text
  let (month, rest) ← fixed? 2 1 12 (← after? '-' rest)
  let (_, rest) ← fixed? 2 1 (daysIn year month) (← after? '-' rest)
  return rest

/-- The text after hours and minutes. -/
def clock? (text : List Char) : Option (List Char) := do
  let (_, rest) ← fixed? 2 0 23 text
  let (_, rest) ← fixed? 2 0 59 (← after? ':' rest)
  return rest

/-- The text after a time. -/
def time? (text : List Char) : Option (List Char) := do
  let (_, rest) ← fixed? 2 0 60 (← after? ':' (← clock? text))
  match rest with
  | '.' :: c :: more => if c.isDigit then return more.dropWhile Char.isDigit else return rest
  | _ => return rest

/-- The text after the distance from universal time, if it is given. -/
def afterOffset : List Char → List Char
  | 'Z' :: rest => rest
  | 'z' :: rest => rest
  | '+' :: rest => (clock? rest).getD ('+' :: rest)
  | '-' :: rest => (clock? rest).getD ('-' :: rest)
  | rest => rest

/-- The text after a date with a time, a date, or a time. -/
def moment? (text : List Char) : Option (List Char) :=
  match date? text with
  | none => time? text
  | some rest =>
    match rest with
    | c :: more =>
      if c == 'T' || c == 't' || c == ' ' then
        match time? more with
        | some rest => some (afterOffset rest)
        | none => some rest
      else some rest
    | [] => some []

/-! ## Numbers -/

/-- Digits, with single underscores between them; the underscores are left out. -/
def digits (isDigit : Char → Bool) : List Char → List Char × List Char
  | [] => ([], [])
  | c :: rest =>
    if isDigit c then
      match rest with
      | '_' :: d :: more =>
        if isDigit d then
          let (ds, rest) := digits isDigit (d :: more)
          (c :: ds, rest)
        else ([c], rest)
      | rest =>
        let (ds, rest) := digits isDigit rest
        (c :: ds, rest)
    else ([], c :: rest)

/-- The whole part of a decimal number: a zero in front stands alone. -/
def whole? : List Char → Option (List Char × List Char)
  | '0' :: rest => some (['0'], rest)
  | text =>
    match digits Char.isDigit text with
    | ([], _) => none
    | read => some read

/-- A sign, if there is one: whether it is a minus. -/
def sign : List Char → Bool × List Char
  | '-' :: rest => (true, rest)
  | '+' :: rest => (false, rest)
  | rest => (false, rest)

/-- The fraction of a number, if there is one. -/
def fraction? : List Char → Option (List Char) × List Char
  | '.' :: rest =>
    match digits Char.isDigit rest with
    | ([], _) => (none, '.' :: rest)
    | (ds, rest) => (some ds, rest)
  | rest => (none, rest)

/-- The exponent of a number, if there is one. -/
def exponent? : List Char → Option (Bool × List Char) × List Char
  | [] => (none, [])
  | e :: rest =>
    if e == 'e' || e == 'E' then
      let (negative, more) := sign rest
      match digits Char.isDigit more with
      | ([], _) => (none, e :: rest)
      | (ds, rest) => (some (negative, ds), rest)
    else (none, e :: rest)

/-- What stands for a number that documents do not have. -/
def noNumber : Number := .decimal ⟨false, 0, 0⟩

/-- The number of a numeral with a fraction or an exponent. Below all doubles it is taken as no
number, above them it is refused. -/
def decimalOf? (numeral : Numeral) : Option Number :=
  match numeral.nearest? with
  | some n => some n
  | none => if numeral.negative then some noNumber else none

/-- A number with a fraction or an exponent, or one of the words for what is no number. -/
def decimal? (text : List Char) : Option (Number × List Char) := do
  let (negative, rest) := sign text
  match rest with
  | 'i' :: 'n' :: 'f' :: rest => return (noNumber, rest)
  | 'n' :: 'a' :: 'n' :: rest => return (noNumber, rest)
  | _ =>
    let (whole, rest) ← whole? rest
    let (fraction, rest) := fraction? rest
    let (exponent, rest) := exponent? rest
    if fraction.isNone && exponent.isNone then none
    else return (← decimalOf? ⟨negative, whole, fraction, exponent⟩, rest)

/-- A whole number of digits to a base. -/
def based? (base : Nat) (text : List Char) : Option (Number × List Char) := do
  let isDigit (c : Char) : Bool := (hexDigitValue c).any (· < base)
  match digits isDigit text with
  | ([], _) => none
  | (ds, rest) =>
    let n := ds.foldl (fun n c => base * n + (hexDigitValue c).getD 0) 0
    if n < Nat.pow 2 63 then return (.integer n, rest) else none

/-- A whole number of 64 bits. -/
def integer? : List Char → Option (Number × List Char)
  | '0' :: 'x' :: rest => based? 16 rest
  | '0' :: 'o' :: rest => based? 8 rest
  | '0' :: 'b' :: rest => based? 2 rest
  | text => do
    let (negative, rest) := sign text
    let (whole, rest) ← whole? rest
    let n := Numeral.digitsValue whole
    if negative then
      if n ≤ Nat.pow 2 63 then return (.integer (-n), rest) else none
    else if n < Nat.pow 2 63 then return (.integer n, rest) else none

end VoiceSkill.Toml
