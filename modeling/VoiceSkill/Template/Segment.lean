import VoiceSkill.Template.Pattern

/-!
# Segments of a template

A template is cut at the matches of a pattern, from left to right: each match is a segment, and so
is each stretch between matches, whole and character for character. A match may be empty where the
pattern allows it, but not at the place where the match before it ended.
-/

namespace VoiceSkill

namespace Pattern

/-- A step through a text: a match, or a character outside of any match. -/
inductive Cut where
  | hit (text : List Char)
  | plain (c : Char)
deriving DecidableEq, Repr

/-- The matches and the other characters of a text. `mayBeEmpty` is false where a match has just
ended. -/
def cuts (pattern : Pattern) (mayBeEmpty : Bool) (text : List Char) : List Cut :=
  match text with
  | [] => if mayBeEmpty && (pattern.matchLength []).isSome then [.hit []] else []
  | c :: rest =>
    match pattern.matchLength (c :: rest) with
    | some (n + 1) => .hit (c :: rest.take n) :: cuts pattern false (rest.drop n)
    | some 0 =>
      if mayBeEmpty then .hit [] :: .plain c :: cuts pattern true rest
      else .plain c :: cuts pattern true rest
    | none => .plain c :: cuts pattern true rest
termination_by text.length
decreasing_by all_goals simp only [List.length_cons, List.length_drop]; omega

/-- Gathers neighbouring characters outside of matches. -/
def gather : List Cut → List (List Char)
  | [] => []
  | .hit text :: rest => text :: gather rest
  | .plain c :: .plain d :: rest =>
    match gather (.plain d :: rest) with
    | [] => [[c]]
    | run :: runs => (c :: run) :: runs
  | .plain c :: rest => [c] :: gather rest

/-- The segments of a text. -/
def segments (pattern : Pattern) (text : List Char) : List (List Char) :=
  gather (pattern.cuts true text)

/-- The segments of a template. -/
def scan (pattern : Pattern) (template : String) : List String :=
  (pattern.segments template.toList).map String.ofList

end Pattern

end VoiceSkill
