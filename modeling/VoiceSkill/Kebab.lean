import VoiceSkill.Unicode.Alphanumeric
import VoiceSkill.Unicode.Cased
import VoiceSkill.Unicode.Class

/-!
# Kebab-case identifiers

Entities are named in lower case with hyphens between words. A word ends at a character that is
neither letter nor digit, before an upper-case letter that follows a lower-case one, between a digit
and a letter, and before the last letter of an acronym that goes on in lower case. Apostrophes are
dropped without ending a word.
-/

namespace VoiceSkill

open Unicode

/-- The straight and the curved apostrophe. -/
def isApostrophe (c : Char) : Bool := c == '\x27' || c == '\u2019'

/-- Whether a word ends between two alphanumeric neighbours, given the character after them. -/
def endsWord (previous c : Char) (next : Option Char) : Bool :=
  (isLowercase previous && isUppercase c) ||
  (isNumeric previous != isNumeric c) ||
  (isUppercase previous && isUppercase c && next.any isLowercase)

/-- The words of a text in lower case. `word` is the part read of the current word, `previous` the
character before the text that remains. -/
def wordsFrom (word : List Char) (previous : Char) : List Char → List (List Char)
  | [] => if word.isEmpty then [] else [word]
  | c :: rest =>
    if !isAlphanumeric c then
      if word.isEmpty then wordsFrom [] c rest else word :: wordsFrom [] c rest
    else if !word.isEmpty && endsWord previous c rest.head? then
      word :: wordsFrom (toLowercase c) c rest
    else wordsFrom (word ++ toLowercase c) c rest

/-- The words of a text, in lower case and without apostrophes. -/
def kebabWords (text : List Char) : List (List Char) :=
  wordsFrom [] ' ' (text.filter fun c => !isApostrophe c)

/-- The kebab-case identifier of a text. -/
def kebabCase (text : String) : String :=
  String.ofList (['-'].intercalate (kebabWords text.toList))

/-- The reference to the entity that holds the values of a slot type. -/
def entityReference (slotType : String) : String := "@" ++ kebabCase slotType

end VoiceSkill
