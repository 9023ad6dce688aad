import VoiceSkill.Definition
import VoiceSkill.Proofs.Json.Written
import VoiceSkill.Writer

/-!
# Files that can be read

What is stored for a document is laid out line by line: every item of a list and every member of an
object has a line of its own, two blanks deeper than what it belongs to (`render_spread_list`,
`render_spread_object`). From this text the document is read again, if its numbers are integers of
64 bits and it nests no deeper than a text may (`fileWriter_readable`). This holds of every text in
it and of lists and objects with and without items.
-/

namespace VoiceSkill

/-! ## The layout -/

namespace Document

/-- The end of a line, and the blanks in front of the next: two for each level. -/
def newLine (depth : Nat) : List Char := '\n' :: List.replicate (2 * depth) ' '

theorem intercalate_cons (separator : Char) (first : List Char) (others : List (List Char)) :
    [separator].intercalate (first :: others) = first ++ others.flatMap (separator :: ·) := by
  induction others generalizing first with
  | nil => simp
  | cons next others ih =>
      rw [List.intercalate_cons_cons, ih, List.flatMap_cons, List.append_assoc]
      rfl

theorem renderItems_eq_flatMap (style : Style) (depth : Nat) (items : List Document) :
    renderItems style depth items =
      (items.map fun item => style.lineBreak depth ++ render style depth item).flatMap
        (',' :: ·) := by
  induction items with
  | nil => rfl
  | cons item items ih => rw [renderItems, ih, List.map_cons, List.flatMap_cons, List.cons_append]

theorem renderMembers_eq_flatMap (style : Style) (depth : Nat)
    (members : List (String × Document)) :
    renderMembers style depth members =
      (members.map fun member => style.lineBreak depth ++ renderText member.1 ++ style.colon ++
        render style depth member.2).flatMap (',' :: ·) := by
  induction members with
  | nil => rfl
  | cons member members ih =>
      rw [renderMembers, ih, List.map_cons, List.flatMap_cons, List.cons_append, List.cons_append,
        List.cons_append]

/-- **How a list is laid out.** Its items stand one level deeper, each on a line of its own, with
commas behind all but the last. A list without items takes no line. -/
theorem render_spread_list (depth : Nat) (items : List Document) :
    render spread depth (.list items) =
      if items = [] then ['[', ']']
      else '[' :: [','].intercalate (items.map fun item =>
        newLine (depth + 1) ++ render spread (depth + 1) item) ++ newLine depth ++ [']'] := by
  cases items with
  | nil => rfl
  | cons item items =>
      rw [if_neg (List.cons_ne_nil _ _), render, renderItems_eq_flatMap, List.map_cons,
        intercalate_cons]
      rfl

/-- **How an object is laid out**: as a list is, with a key, a colon and a blank before a value. -/
theorem render_spread_object (depth : Nat) (members : List (String × Document)) :
    render spread depth (.object members) =
      if members = [] then ['\x7b', '\x7d']
      else '\x7b' :: [','].intercalate (members.map fun member =>
        newLine (depth + 1) ++ renderText member.1 ++ [':', ' '] ++
          render spread (depth + 1) member.2) ++ newLine depth ++ ['\x7d'] := by
  cases members with
  | nil => rfl
  | cons member members =>
      rw [if_neg (List.cons_ne_nil _ _), render, renderMembers_eq_flatMap, List.map_cons,
        intercalate_cons]
      rfl

example : (Document.list [.null, .object [("a", .list []), ("b", .bool true)]]).pretty =
    "[\n  null,\n  \x7b\n    \x22a\x22: [],\n    \x22b\x22: true\n  \x7d\n]" := by
  decide +kernel

end Document

/-! ## Reading it again -/

/-- A canonical document with integers of 64 bits, nested at most 127 levels deep. -/
structure Document.IsPortable (document : Document) : Prop where
  canonical : document.Canonical
  integers : ∀ n ∈ document.numbers, ∃ k : Int, n = .integer k ∧ -2 ^ 63 ≤ k ∧ k < 2 ^ 64
  depth : document.depth ≤ 127

theorem Document.IsPortable.numbersReadBack {document : Document} (h : document.IsPortable) :
    document.NumbersReadBack := by
  intro n hn
  obtain ⟨k, rfl, hleast, hgreatest⟩ := h.integers n hn
  exact Number.readsBack_integer hleast hgreatest

/-- **What is stored for a document can be read.** The writer hands the store one text, which is
spread out and ends its last line. Whoever reads a value from this text reads it from the value of
the document: a definition is so read, and the document itself is read again. -/
theorem fileWriter_readable {m : Type → Type} [Monad m] (store : Path → String → m Bool)
    {root path target : Path} (hpath : root.resolve path = .ok target) {document : Document}
    (h : document.IsPortable) :
    (fileWriter store root).write path document = (do
      if ← store target (document.pretty ++ "\n") then
        return Logged.report (.documentPersisted path)
      else return ⟨.error (.unwritable target), []⟩) ∧
    Definition.ofText (document.pretty ++ "\n") = Definition.decoder .text document.json ∧
    Document.ofText (document.pretty ++ "\n") = .ok document := by
  refine ⟨?_, ?_, ?_⟩
  · rw [fileWriter]
    simp only [hpath]
    rfl
  · exact Definition.decoder.ofText_fileText h.numbersReadBack
  · exact (Document.ofText_fileText_eq_ok_iff h.numbersReadBack).2 ⟨h.canonical, h.depth⟩

/-- A document of texts that need escapes, integers at the ends of their range, and lists and
objects with nothing in them. -/
def awkward : Document :=
  .object [
    ("", .list [.null, .list [], .object [], .list [.object [("\\", .list [])]]]),
    ("\x22", .string "\x00\x07\x08\t\n\x0c\r\x1f \x22quoted\x22 \\ / \x7f"),
    ("limits", .list [.number (.integer (-2 ^ 63)), .number (.integer 0),
      .number (.integer (2 ^ 64 - 1))]),
    ("é", .string "Größe 東京 \u2028 😀"),
    ("😀", .bool true)]

theorem isPortable_awkward : awkward.IsPortable := by
  have hread : awkward.json.document (some 128) = .ok awkward := rfl
  have hfits : awkward.Fits (some 128) := Json.fits_of_document (by simp [HasRoom]) hread
  refine ⟨hfits.canonical, ?_, by decide⟩
  have hnumbers : awkward.numbers =
      [.integer (-2 ^ 63), .integer 0, .integer (2 ^ 64 - 1)] := rfl
  rw [hnumbers]
  intro n hn
  simp only [List.mem_cons, List.not_mem_nil, or_false] at hn
  rcases hn with rfl | rfl | rfl
  · exact ⟨_, rfl, by decide, by decide⟩
  · exact ⟨_, rfl, by decide, by decide⟩
  · exact ⟨_, rfl, by decide, by decide⟩

/-- A store that keeps the texts it is given has one, and the document is read from it. -/
theorem fileWriter_readable_awkward :
    (fileWriter (m := StateM (List String)) (fun _ text kept => (true, text :: kept))
      ⟨"out"⟩).write ⟨"a/b.json"⟩ awkward [] =
        (Logged.report (.documentPersisted ⟨"a/b.json"⟩), [awkward.pretty ++ "\n"]) ∧
    Document.ofText (awkward.pretty ++ "\n") = .ok awkward := by
  have hpath : Path.resolve ⟨"out"⟩ ⟨"a/b.json"⟩ = .ok ⟨"out/a/b.json"⟩ := by decide
  obtain ⟨hwrite, -, hread⟩ := fileWriter_readable (m := StateM (List String))
    (fun _ text kept => (true, text :: kept)) hpath isPortable_awkward
  refine ⟨?_, hread⟩
  rw [hwrite]
  rfl

end VoiceSkill
