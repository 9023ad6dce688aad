/-!
# Placeholder patterns

A pattern is a row of character sets, each taken once, at least once or any number of times. It is
written in a small part of the language of regular expressions: a character stands for itself, a
backslash takes the special meaning from the character after it, brackets list a set by members and
ranges (`^` in front for everything else), `+` and `*` repeat the set before them.

Reading refuses every other written form. Some of these are no regular expressions either, such as
an open bracket or a range whose ends are the wrong way round. Others are regular expressions that
lie outside of this part: groups, alternatives, anchors, `.`, other repetitions, sets within sets,
and whatever a backslash in front of a letter or digit stands for, such as `\d` and `\b`.
-/

namespace VoiceSkill

/-- A set of characters, by ranges or by what lies outside of them. -/
structure CharSet where
  negated : Bool
  ranges : List (Char × Char)
deriving DecidableEq, Repr

namespace CharSet

def contains (set : CharSet) (c : Char) : Bool :=
  set.negated != set.ranges.any fun range => range.1 ≤ c && c ≤ range.2

/-- The set of one character. -/
def singleton (c : Char) : CharSet := ⟨false, [(c, c)]⟩

end CharSet

/-- How often a set is taken. -/
inductive Repetition where
  | once
  | atLeastOnce
  | anyNumber
deriving DecidableEq, Repr

/-- A set with its repetition. -/
structure Piece where
  set : CharSet
  repetition : Repetition
deriving DecidableEq, Repr

/-- A pattern: pieces that follow each other. -/
structure Pattern where
  pieces : List Piece
deriving DecidableEq, Repr

namespace Pattern

/-! ## Matching -/

/-- Takes characters of a set as long as it can, then fewer and fewer until what follows matches.
The result counts the characters taken together with those of what follows. -/
def takeMost (set : CharSet) (follow : List Char → Option Nat) : List Char → Option Nat
  | [] => follow []
  | c :: rest =>
    if set.contains c then
      match takeMost set follow rest with
      | some n => some (n + 1)
      | none => follow (c :: rest)
    else follow (c :: rest)

/-- The length of the match of a row of pieces at the start of a text. -/
def matchPieces : List Piece → List Char → Option Nat
  | [], _ => some 0
  | piece :: pieces, text =>
    match piece.repetition, text with
    | .anyNumber, text => takeMost piece.set (matchPieces pieces) text
    | _, [] => none
    | .once, c :: rest =>
      if piece.set.contains c then (matchPieces pieces rest).map (· + 1) else none
    | .atLeastOnce, c :: rest =>
      if piece.set.contains c then (takeMost piece.set (matchPieces pieces) rest).map (· + 1)
      else none

/-- The length of the pattern's match at the start of a text. -/
def matchLength (pattern : Pattern) (text : List Char) : Option Nat :=
  matchPieces pattern.pieces text

/-! ## Written form -/

/-- A character of a written pattern, and whether a backslash stands before it. -/
structure Mark where
  char : Char
  escaped : Bool

/-- The characters that have a meaning beyond themselves somewhere in a regular expression. A
backslash in front of one of them takes it away. -/
def isMeta (c : Char) : Bool :=
  ['\\', '.', '+', '*', '?', '(', ')', '|', '[', ']', '\x7b', '\x7d', '^', '$', '#', '&', '-',
    '~'].contains c

/-- Joins backslashes to the characters after them. -/
def marks : List Char → Option (List Mark)
  | [] => some []
  | ['\\'] => none
  | '\\' :: c :: rest => if isMeta c then (marks rest).map (⟨c, true⟩ :: ·) else none
  | c :: rest => (marks rest).map (⟨c, false⟩ :: ·)

/-- Whether a mark between brackets is a member of the set. The others span ranges or combine
sets. -/
def Mark.isMember (mark : Mark) : Bool :=
  mark.escaped || !(['[', '-', '&', '~'].contains mark.char)

/-- The members of a bracketed set; `-` between two members spans a range, up from the first. -/
def rangesOf : List Mark → Option (List (Char × Char))
  | [] => some []
  | first :: ⟨'-', false⟩ :: last :: rest =>
    if first.isMember && last.isMember && first.char ≤ last.char then
      (rangesOf rest).map ((first.char, last.char) :: ·)
    else none
  | mark :: rest =>
    if mark.isMember then (rangesOf rest).map ((mark.char, mark.char) :: ·) else none

/-- The set with the given members, of which there is at least one. -/
def setOf (negated : Bool) (members : List Mark) : Option CharSet :=
  if members.isEmpty then none else (rangesOf members).map (⟨negated, ·⟩)

/-- The set written between brackets. -/
def bracketed : List Mark → Option CharSet
  | ⟨'^', false⟩ :: members => setOf true members
  | members => setOf false members

/-- What has been read of a written pattern: the pieces, last first, and the members of a set whose
bracket is still open, last first. -/
structure Draft where
  pieces : List Piece
  bracket : Option (List Mark)

/-- Gives the last piece a repetition; a piece carries one repetition only. -/
def Draft.repeatLast (draft : Draft) (repetition : Repetition) : Option Draft :=
  match draft.pieces with
  | ⟨set, .once⟩ :: pieces => some { draft with pieces := ⟨set, repetition⟩ :: pieces }
  | _ => none

/-- The characters that do not stand for themselves outside of brackets. -/
def isSpecial (c : Char) : Bool :=
  ['\\', '.', '+', '*', '?', '(', ')', '|', '[', '\x7b', '^', '$'].contains c

/-- Reads one more character of a written pattern. -/
def Draft.read (draft : Draft) (mark : Mark) : Option Draft :=
  match draft.bracket with
  | some members =>
    if mark.char == ']' && !mark.escaped then
      (bracketed members.reverse).map fun set => ⟨⟨set, .once⟩ :: draft.pieces, none⟩
    else some { draft with bracket := some (mark :: members) }
  | none =>
    if mark.escaped then some { draft with pieces := ⟨.singleton mark.char, .once⟩ :: draft.pieces }
    else if mark.char == '[' then some { draft with bracket := some [] }
    else if mark.char == '+' then draft.repeatLast .atLeastOnce
    else if mark.char == '*' then draft.repeatLast .anyNumber
    else if isSpecial mark.char then none
    else some { draft with pieces := ⟨.singleton mark.char, .once⟩ :: draft.pieces }

/-- The pattern of a written form, if it is one of the forms described above. A form that is refused
here can be a regular expression all the same. -/
def ofSource? (source : String) : Option Pattern := do
  let draft ← (← marks source.toList).foldlM Draft.read ⟨[], none⟩
  if draft.bracket.isSome then none else some ⟨draft.pieces.reverse⟩

/-- The written form of the pattern of placeholders. -/
def placeholderSource : String := "\\\x7b[^\x7b\x7d]+\\\x7d"

/-- A placeholder: an opening brace, at least one character that is no brace, a closing brace. -/
def placeholder : Pattern :=
  ⟨[⟨.singleton '\x7b', .once⟩, ⟨⟨true, [('\x7b', '\x7b'), ('\x7d', '\x7d')]⟩, .atLeastOnce⟩,
    ⟨.singleton '\x7d', .once⟩]⟩

end Pattern

end VoiceSkill
