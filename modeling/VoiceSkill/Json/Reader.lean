import VoiceSkill.Json.Lexeme

/-!
# Reading JSON texts

A value, a list or an object is read as far as the text allows. Where it does not go on, the tree
gets a flaw in that place, and nothing after it is looked at.
-/

namespace VoiceSkill.Json

/-- What has been read, and the text after it; there is none after a place that cannot be passed. -/
structure Reading (α : Type) where
  value : α
  rest : Option (List Char)

/-- A lexeme as a value of the tree. -/
def Lexeme.reading {α : Type} (lexeme : Lexeme α) (quoted : Bool) (value : α → Json) :
    Reading Json :=
  match lexeme.value, lexeme.rest with
  | .ok a, .ok rest => ⟨value a, some rest⟩
  | .error cause, .ok rest => ⟨.flawed ⟨cause, none, quoted⟩, some rest⟩
  | .error cause, .error cause' => ⟨.flawed ⟨cause, some cause', quoted⟩, none⟩
  | .ok _, .error cause => ⟨.flawed ⟨cause, some cause, quoted⟩, none⟩

/-- The key of a member whose name is a lexeme. -/
def Lexeme.key (lexeme : Lexeme (List Char)) : Except Malformed String :=
  match lexeme.value, lexeme.rest with
  | .error cause, _ => .error cause
  | .ok _, .error cause => .error cause
  | .ok name, .ok _ => .ok (String.ofList name)

/-- A stop in place of another member. -/
def noMember (value : Malformed → Json) (cause : Malformed) :
    Reading (List (Except Malformed String × Json)) :=
  ⟨[(.error cause, value cause)], none⟩

/-- A flaw for reading and skipping alike. -/
def broken (cause : Malformed) : Json := .flawed ⟨cause, some cause, false⟩

mutual

/-- The value at the start of a text. The fuel bounds the number of steps. -/
def readValue : Nat → List Char → Reading Json
  | 0, _ => ⟨broken .unexpected, none⟩
  | fuel + 1, text =>
    match afterGap text with
    | [] => ⟨.missing .ended, none⟩
    | c :: rest =>
      if c == '\x22' then (quoted rest).reading true fun s => .string (String.ofList s)
      else if c == '[' then
        let items := readList fuel rest
        ⟨.list items.value, items.rest⟩
      else if c == '\x7b' then
        let members := readObject fuel rest
        ⟨.object members.value, members.rest⟩
      else if c == 'n' then (word Json.null ['u', 'l', 'l'] rest).reading false id
      else if c == 't' then (word true ['r', 'u', 'e'] rest).reading false .bool
      else if c == 'f' then (word false ['a', 'l', 's', 'e'] rest).reading false .bool
      else if c == '-' then (numeral true rest).reading false .number
      else if c.isDigit then (numeral false (c :: rest)).reading false .number
      else ⟨broken .unexpected, none⟩

/-- The items after an opening bracket. -/
def readList : Nat → List Char → Reading (List Json)
  | 0, _ => ⟨[broken .unexpected], none⟩
  | fuel + 1, text =>
    match afterGap text with
    | [] => ⟨[.missing .ended], none⟩
    | ']' :: rest => ⟨[], some rest⟩
    | text => readItems fuel text

/-- An item and those after it. -/
def readItems : Nat → List Char → Reading (List Json)
  | 0, _ => ⟨[broken .unexpected], none⟩
  | fuel + 1, text =>
    let item := readValue fuel text
    match item.rest with
    | none => ⟨[item.value], none⟩
    | some rest =>
      match afterGap rest with
      | [] => ⟨[item.value, .missing .ended], none⟩
      | ']' :: rest => ⟨[item.value], some rest⟩
      | ',' :: rest =>
        match afterGap rest with
        | [] => ⟨[item.value, broken .ended], none⟩
        | rest =>
          let items := readItems fuel rest
          ⟨item.value :: items.value, items.rest⟩
      | _ => ⟨[item.value, .missing .unexpected], none⟩

/-- The members after an opening brace. -/
def readObject : Nat → List Char → Reading (List (Except Malformed String × Json))
  | 0, _ => noMember broken .unexpected
  | fuel + 1, text =>
    match afterGap text with
    | [] => noMember .missing .ended
    | '\x7d' :: rest => ⟨[], some rest⟩
    | text => readMembers fuel text

/-- A member and those after it. -/
def readMembers : Nat → List Char → Reading (List (Except Malformed String × Json))
  | 0, _ => noMember broken .unexpected
  | fuel + 1, text =>
    match text with
    | [] => noMember broken .ended
    | '\x22' :: rest =>
      let name := quoted rest
      match name.rest with
      | .error cause => ⟨[(name.key, broken cause)], none⟩
      | .ok rest =>
        match afterGap rest with
        | [] => ⟨[(name.key, broken .ended)], none⟩
        | ':' :: rest =>
          let value := readValue fuel rest
          match value.rest with
          | none => ⟨[(name.key, value.value)], none⟩
          | some rest =>
            match afterGap rest with
            | [] => ⟨[(name.key, value.value), (.error .ended, .missing .ended)], none⟩
            | '\x7d' :: rest => ⟨[(name.key, value.value)], some rest⟩
            | ',' :: rest =>
              let members := readMembers fuel (afterGap rest)
              ⟨(name.key, value.value) :: members.value, members.rest⟩
            | _ => ⟨[(name.key, value.value), (.error .unexpected, .missing .unexpected)], none⟩
        | _ => ⟨[(name.key, broken .unexpected)], none⟩
    | _ => noMember broken .unexpected

end

/-- The value of a text, and whether anything but blanks comes after it. No character takes more
than three steps: a bracket opens a value, a list in it, and the items of that. -/
def ofText (text : String) : Json × Bool :=
  let chars := text.toList
  let reading := readValue (3 * chars.length + 3) chars
  (reading.value, !(afterGap (reading.rest.getD [])).isEmpty)

end VoiceSkill.Json
