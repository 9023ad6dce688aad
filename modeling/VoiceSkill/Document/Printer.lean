import VoiceSkill.Document
import VoiceSkill.Text

/-!
# Written documents

The JSON text of a document. In the spread-out style each item stands on a line of its own, two
spaces deeper than the list or object it belongs to; in the compact style there are no blanks. Empty
lists and objects take no line break in either. Inside texts the quote, the backslash and characters
below U+0020 are escaped, and nothing else is.
-/

namespace VoiceSkill

namespace Document

/-- Where a text breaks before an item of a given depth, and what stands after a key. -/
structure Style where
  lineBreak : Nat → List Char
  colon : List Char

/-- One item a line, indented by two spaces for each level. -/
def spread : Style := ⟨fun depth => '\n' :: List.replicate (2 * depth) ' ', [':', ' ']⟩

/-- No blanks at all. -/
def dense : Style := ⟨fun _ => [], [':']⟩

/-- A character as it stands between quotes. -/
def escapeChar (c : Char) : List Char :=
  if c == '\x22' then ['\\', '\x22']
  else if c == '\\' then ['\\', '\\']
  else if c == '\x08' then ['\\', 'b']
  else if c == '\x0c' then ['\\', 'f']
  else if c == '\n' then ['\\', 'n']
  else if c == '\r' then ['\\', 'r']
  else if c == '\t' then ['\\', 't']
  else if c.toNat < 32 then ['\\', 'u', '0', '0', hexDigit (c.toNat / 16), hexDigit (c.toNat % 16)]
  else [c]

/-- A text between quotes. -/
def renderText (text : String) : List Char :=
  '\x22' :: text.toList.flatMap escapeChar ++ ['\x22']

end Document

/-- The text of a number. -/
def Number.render : Number → List Char
  | .integer n => integerDigits n
  | .decimal d => d.render

namespace Document

mutual

/-- The text of a document whose items lie at a given depth. -/
def render (style : Style) (depth : Nat) : Document → List Char
  | .null => ['n', 'u', 'l', 'l']
  | .bool true => ['t', 'r', 'u', 'e']
  | .bool false => ['f', 'a', 'l', 's', 'e']
  | .number n => n.render
  | .string s => renderText s
  | .list [] => ['[', ']']
  | .list (item :: items) =>
    '[' :: style.lineBreak (depth + 1) ++ render style (depth + 1) item ++
      renderItems style (depth + 1) items ++ style.lineBreak depth ++ [']']
  | .object [] => ['\x7b', '\x7d']
  | .object ((key, value) :: members) =>
    '\x7b' :: style.lineBreak (depth + 1) ++ renderText key ++ style.colon ++
      render style (depth + 1) value ++ renderMembers style (depth + 1) members ++
      style.lineBreak depth ++ ['\x7d']

/-- The text of the items after the first. -/
def renderItems (style : Style) (depth : Nat) : List Document → List Char
  | [] => []
  | item :: items =>
    ',' :: style.lineBreak depth ++ render style depth item ++ renderItems style depth items

/-- The text of the members after the first. -/
def renderMembers (style : Style) (depth : Nat) : List (String × Document) → List Char
  | [] => []
  | (key, value) :: members =>
    ',' :: style.lineBreak depth ++ renderText key ++ style.colon ++ render style depth value ++
      renderMembers style depth members

end

/-- The spread-out text of a document. -/
def pretty (document : Document) : String := String.ofList (render spread 0 document)

/-- The compact text of a document. -/
def compact (document : Document) : String := String.ofList (render dense 0 document)

/-- The text of a document's file: the spread-out text and a line end. -/
def fileText (document : Document) : String := document.pretty ++ "\n"

end Document

end VoiceSkill
