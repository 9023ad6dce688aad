import VoiceSkill.Toml.Lexeme
import VoiceSkill.Toml.Table

/-!
# Reading TOML texts

A text is read line by line: headers, and keys with their values, which are added to the table that
the text denotes. A text that is not well formed, or that defines something twice, denotes nothing.
-/

namespace VoiceSkill.Toml

/-- The text after a word. -/
def word? : List Char → List Char → Option (List Char)
  | [], text => some text
  | _ :: _, [] => none
  | expected :: more, c :: rest => if c == expected then word? more rest else none

/-- A value without items. A date or time, which no setting is, is kept as an object without
members. -/
def scalar? (text : List Char) : Option (Document × List Char) :=
  match text with
  | [] => none
  | c :: _ =>
    if c == '\x22' || c == '\x27' then
      (anyText? text).map fun (s, rest) => (.string (String.ofList s), rest)
    else if c == 't' then (word? ['t', 'r', 'u', 'e'] text).map fun rest => (.bool true, rest)
    else if c == 'f' then
      (word? ['f', 'a', 'l', 's', 'e'] text).map fun rest => (.bool false, rest)
    else match moment? text with
      | some rest => some (.object [], rest)
      | none =>
        match decimal? text with
        | some (n, rest) => some (.number n, rest)
        | none => (integer? text).map fun (n, rest) => (.number n, rest)

mutual

/-- The value at the start of a text. The fuel bounds the number of steps, `level` how deep the
value lies. -/
def value? : Nat → Nat → List Char → Option (Document × List Char)
  | 0, _, _ => none
  | fuel + 1, level, text =>
    match text with
    | '[' :: rest =>
      if level + 1 < levelLimit then do
        let (items, rest) ← items? fuel (level + 1) rest
        return (.list items, rest)
      else none
    | '\x7b' :: rest =>
      if level + 1 < levelLimit then do
        match afterBlanks rest with
        | '\x7d' :: rest => return (.object [], rest)
        | rest =>
          let (table, rest) ← members? fuel (level + 1) [] rest
          return (.object (Entry.documentMembers table), rest)
      else none
    | text => scalar? text

/-- The items of a list that are left, up to the closing bracket. -/
def items? : Nat → Nat → List Char → Option (List Document × List Char)
  | 0, _, _ => none
  | fuel + 1, level, text => do
    match ← afterGap false text with
    | ']' :: rest => return ([], rest)
    | text =>
      let (item, rest) ← value? fuel level text
      match ← afterGap false rest with
      | ']' :: rest => return ([item], rest)
      | ',' :: rest =>
        let (items, rest) ← items? fuel level rest
        return (item :: items, rest)
      | _ => none

/-- Adds the members of a table between braces that are left, up to the closing brace. -/
def members? : Nat → Nat → Table → List Char → Option (Table × List Char)
  | 0, _, _, _ => none
  | fuel + 1, level, table, text => do
    let (path, key, rest) ← dottedKey? text
    let (value, rest) ← value? fuel level (afterBlanks (← after? '=' rest))
    let table ← table.defineDotted path key value
    match afterBlanks rest with
    | '\x7d' :: rest => return (table, rest)
    | ',' :: rest => members? fuel level table rest
    | _ => none

end

/-- What a line says. -/
inductive Line where
  | empty
  | header (path : List String) (key : String)
  | itemHeader (path : List String) (key : String)
  | member (path : List String) (key : String) (value : Document)

/-- The line at the start of a text. -/
def line? (text : List Char) : Option (Line × List Char) :=
  match lineEnd? text with
  | some rest => some (.empty, rest)
  | none =>
    match afterBlanks text with
    | '[' :: '[' :: rest => do
      let (path, key, rest) ← dottedKey? rest
      let rest ← lineEnd? (← word? [']', ']'] rest)
      return (.itemHeader path key, rest)
    | '[' :: rest => do
      let (path, key, rest) ← dottedKey? rest
      let rest ← lineEnd? (← after? ']' rest)
      return (.header path key, rest)
    | text => do
      let (path, key, rest) ← dottedKey? text
      let rest := afterBlanks (← after? '=' rest)
      let (value, rest) ← value? (2 * rest.length + 2) 0 rest
      return (.member path key value, ← lineEnd? rest)

/-- The lines of a text. The fuel bounds their number. -/
def lines? : Nat → List Char → Option (List Line)
  | 0, _ => none
  | _ + 1, [] => some []
  | fuel + 1, text => do
    let (line, rest) ← line? text
    return line :: (← lines? fuel rest)

/-- Adds what lines say to a table, under the header that stands last. -/
def tableOf? (header : List String) (table : Table) : List Line → Option Table
  | [] => some table
  | .empty :: lines => tableOf? header table lines
  | .header path key :: lines => do tableOf? (path ++ [key]) (← table.state path key) lines
  | .itemHeader path key :: lines => do
    tableOf? (path ++ [key]) (← table.stateItem path key) lines
  | .member path key value :: lines => do
    tableOf? header (← table.defineUnder header path key value) lines

/-- A text without the mark that may stand in front of it. -/
def afterMark : List Char → List Char
  | '\uFEFF' :: rest => rest
  | text => text

/-- The document of a text. -/
def ofText? (text : String) : Option Document := do
  let text := afterMark text.toList
  let table ← tableOf? [] [] (← lines? (text.length + 1) text)
  return .object (Entry.documentMembers table)

end VoiceSkill.Toml
