import VoiceSkill.Proofs.Template.Scan
import VoiceSkill.Proofs.Template.Span

/-!
# The search for a pattern

A pattern matches at the start of a text exactly if the text begins with something that its pieces
take together (`exists_of_matchPieces`, `isSome_matchPieces`). The scan of a template cuts it at the
spans that the search for the pattern finds (`scan_eq`). So the segments spell the template, and
there is an empty one among them exactly if a match is empty; a pattern that has to take a character
leaves none in any template (`Pattern.scan_spells_template`).
-/

namespace VoiceSkill

variable {text : List Char} {span : Span}

/-! ## What a pattern stands for -/

/-- A row of characters as one piece of a pattern takes it. -/
inductive Piece.Takes : Piece → List Char → Prop
  | once {set : CharSet} {c : Char} (hset : set.contains c = true) : Takes ⟨set, .once⟩ [c]
  | atLeastOnce {set : CharSet} {c : Char} {taken : List Char}
      (hset : ∀ d ∈ c :: taken, set.contains d = true) : Takes ⟨set, .atLeastOnce⟩ (c :: taken)
  | anyNumber {set : CharSet} {taken : List Char} (hset : ∀ d ∈ taken, set.contains d = true) :
      Takes ⟨set, .anyNumber⟩ taken

namespace Pattern

/-- A text that the pieces of a pattern take together, each its share. -/
inductive Spells : List Piece → List Char → Prop
  | nil : Spells [] []
  | cons {piece : Piece} {pieces : List Piece} {taken rest : List Char} (hpiece : piece.Takes taken)
      (hrest : Spells pieces rest) : Spells (piece :: pieces) (taken ++ rest)

/-- Only pieces that may be left out can all be left out. -/
theorem spells_nil_iff {pieces : List Piece} :
    Spells pieces [] ↔ ∀ piece ∈ pieces, piece.repetition = .anyNumber := by
  induction pieces with
  | nil => exact ⟨fun _ => by simp, fun _ => .nil⟩
  | cons piece pieces ih =>
      rw [List.forall_mem_cons, ← ih]
      constructor
      · intro h
        generalize hnil : ([] : List Char) = word at h
        cases h with
        | cons hpiece hrest =>
            obtain ⟨rfl, rfl⟩ := List.append_eq_nil_iff.1 hnil.symm
            cases hpiece
            exact ⟨rfl, hrest⟩
      · rintro ⟨hany, hrest⟩
        obtain ⟨set, repetition⟩ := piece
        obtain rfl : repetition = .anyNumber := hany
        have hnothing : Piece.Takes ⟨set, .anyNumber⟩ [] := .anyNumber (by simp)
        exact .cons hnothing hrest

variable {set : CharSet} {follow : List Char → Option Nat} {n : Nat}

theorem exists_of_takeMost (h : takeMost set follow text = some n) :
    ∃ taken rest m, text = taken ++ rest ∧ (∀ c ∈ taken, set.contains c = true) ∧
      follow rest = some m ∧ n = taken.length + m := by
  induction text generalizing n with
  | nil => exact ⟨[], [], n, rfl, by simp, h, by simp⟩
  | cons c text ih =>
      have hnone (hfollow : follow (c :: text) = some n) :
          ∃ taken rest m, c :: text = taken ++ rest ∧ (∀ d ∈ taken, set.contains d = true) ∧
            follow rest = some m ∧ n = taken.length + m :=
        ⟨[], c :: text, n, rfl, by simp, hfollow, by simp⟩
      rw [takeMost] at h
      split at h
      · rename_i hset
        cases hmore : takeMost set follow text with
        | none =>
            rw [hmore] at h
            exact hnone h
        | some k =>
            rw [hmore] at h
            obtain ⟨taken, rest, m, rfl, htaken, hfollow, rfl⟩ := ih hmore
            refine ⟨c :: taken, rest, m, rfl, List.forall_mem_cons.2 ⟨hset, htaken⟩, hfollow, ?_⟩
            rw [List.length_cons]
            cases h
            omega
      · exact hnone h

/-- Where some number of characters can be taken, one is found. -/
theorem isSome_takeMost {taken rest : List Char} (htaken : ∀ c ∈ taken, set.contains c = true)
    (hfollow : (follow rest).isSome = true) :
    (takeMost set follow (taken ++ rest)).isSome = true := by
  induction taken with
  | nil =>
      cases rest with
      | nil => exact hfollow
      | cons c rest =>
          rw [List.nil_append, takeMost]
          split
          · split
            · rfl
            · exact hfollow
          · exact hfollow
  | cons c taken ih =>
      obtain ⟨hset, htaken⟩ := List.forall_mem_cons.1 htaken
      obtain ⟨k, hk⟩ := Option.isSome_iff_exists.1 (ih htaken)
      rw [List.cons_append, takeMost, if_pos hset, hk]
      rfl

theorem matchPieces_anyNumber (set : CharSet) (pieces : List Piece) (text : List Char) :
    matchPieces (⟨set, .anyNumber⟩ :: pieces) text = takeMost set (matchPieces pieces) text := rfl

/-- What a pattern matches at the start of a text, it spells. -/
theorem exists_of_matchPieces {pieces : List Piece} (h : matchPieces pieces text = some n) :
    ∃ word rest, text = word ++ rest ∧ n = word.length ∧ Spells pieces word := by
  induction pieces generalizing text n with
  | nil =>
      cases h
      exact ⟨[], text, rfl, rfl, .nil⟩
  | cons piece pieces ih =>
      obtain ⟨set, repetition⟩ := piece
      have hmost {text : List Char} {k : Nat}
          (h : takeMost set (matchPieces pieces) text = some k) :
          ∃ taken word rest, text = taken ++ word ++ rest ∧ k = (taken ++ word).length ∧
            (∀ c ∈ taken, set.contains c = true) ∧ Spells pieces word := by
        obtain ⟨taken, after, m, rfl, htaken, hfollow, rfl⟩ := exists_of_takeMost h
        obtain ⟨word, rest, rfl, rfl, hword⟩ := ih hfollow
        exact ⟨taken, word, rest, by simp, by simp, htaken, hword⟩
      cases repetition with
      | anyNumber =>
          rw [matchPieces_anyNumber] at h
          obtain ⟨taken, word, rest, rfl, rfl, htaken, hword⟩ := hmost h
          exact ⟨taken ++ word, rest, rfl, rfl, .cons (.anyNumber htaken) hword⟩
      | once =>
          cases text with
          | nil => cases h
          | cons c text =>
              rw [matchPieces_once_cons, Option.ite_none_right_eq_some] at h
              obtain ⟨hset, h⟩ := h
              obtain ⟨k, hk, rfl⟩ := Option.map_eq_some_iff.1 h
              obtain ⟨word, rest, rfl, rfl, hword⟩ := ih hk
              exact ⟨c :: word, rest, rfl, rfl, .cons (.once hset) hword⟩
      | atLeastOnce =>
          cases text with
          | nil => cases h
          | cons c text =>
              rw [matchPieces_atLeastOnce_cons, Option.ite_none_right_eq_some] at h
              obtain ⟨hset, h⟩ := h
              obtain ⟨k, hk, rfl⟩ := Option.map_eq_some_iff.1 h
              obtain ⟨taken, word, rest, rfl, rfl, htaken, hword⟩ := hmost hk
              have hall : ∀ d ∈ c :: taken, set.contains d = true :=
                List.forall_mem_cons.2 ⟨hset, htaken⟩
              exact ⟨c :: (taken ++ word), rest, rfl, rfl, .cons (.atLeastOnce hall) hword⟩

/-- Where a text begins with something that a pattern spells, the pattern matches. -/
theorem isSome_matchPieces {pieces : List Piece} {word : List Char} (h : Spells pieces word)
    (rest : List Char) : (matchPieces pieces (word ++ rest)).isSome = true := by
  induction h with
  | nil => rfl
  | cons hpiece _ ih =>
      rw [List.append_assoc]
      cases hpiece with
      | once hset =>
          rw [List.singleton_append, matchPieces_once_cons, if_pos hset, Option.isSome_map]
          exact ih
      | atLeastOnce hset =>
          obtain ⟨hfirst, htaken⟩ := List.forall_mem_cons.1 hset
          rw [List.cons_append, matchPieces_atLeastOnce_cons, if_pos hfirst, Option.isSome_map]
          exact isSome_takeMost htaken ih
      | anyNumber hset =>
          rw [matchPieces_anyNumber]
          exact isSome_takeMost hset ih

/-! ## The search for a pattern -/

/-- The characters of a step through a text. -/
def Cut.chars : Cut → List Char
  | .hit text => text
  | .plain c => [c]

/-- The spans of the hits of a row of steps that begins at a position. -/
def hitsFrom (position : Nat) : List Cut → List Span
  | [] => []
  | .hit text :: steps =>
    ⟨position, position + text.length⟩ :: hitsFrom (position + text.length) steps
  | .plain _ :: steps => hitsFrom (position + 1) steps

/-- The steps through a text spell it. -/
theorem flatMap_chars_cuts (pattern : Pattern) (mayBeEmpty : Bool) (text : List Char) :
    (pattern.cuts mayBeEmpty text).flatMap Cut.chars = text := by
  fun_induction cuts pattern mayBeEmpty text with
  | case1 => rfl
  | case2 => rfl
  | case3 mayBeEmpty c rest n hmatch ih =>
      rw [List.flatMap_cons, ih, Cut.chars, List.cons_append, List.take_append_drop]
  | case4 c rest hmatch ih =>
      rw [List.flatMap_cons, List.flatMap_cons, ih]
      rfl
  | case5 mayBeEmpty c rest hmatch hnot ih =>
      rw [List.flatMap_cons, ih]
      rfl
  | case6 mayBeEmpty c rest hmatch ih =>
      rw [List.flatMap_cons, ih]
      rfl

theorem inOrder_hitsFrom (steps : List Cut) (position : Nat) :
    InOrder (position + (steps.flatMap Cut.chars).length) position (hitsFrom position steps) := by
  induction steps generalizing position with
  | nil => exact .nil (by simp)
  | cons step steps ih =>
      cases step with
      | hit text =>
          have hrest := ih (position + text.length)
          rw [Nat.add_assoc, ← List.length_append] at hrest
          exact .cons (Nat.le_refl _) (Nat.le_add_right _ _) hrest
      | plain c =>
          have hrest := ih (position + 1)
          rw [Nat.add_assoc, Nat.add_comm 1] at hrest
          exact hrest.of_le (Nat.le_add_right _ _)

/-- The search for the matches of a pattern. -/
def finder (pattern : Pattern) : Finder where
  find text := hitsFrom 0 (pattern.cuts true text)
  inOrder text := by
    have h := inOrder_hitsFrom (pattern.cuts true text) 0
    rwa [flatMap_chars_cuts, Nat.zero_add] at h

/-- The match of a step through a text. -/
def Cut.hit? : Cut → Option (List Char)
  | .hit text => some text
  | .plain _ => none

theorem map_slice_hitsFrom (steps : List Cut) (before : List Char) :
    (hitsFrom before.length steps).map (fun span =>
      span.slice (before ++ steps.flatMap Cut.chars)) = steps.filterMap Cut.hit? := by
  induction steps generalizing before with
  | nil => rfl
  | cons step steps ih =>
      have hrest := ih (before ++ step.chars)
      rw [List.append_assoc, ← List.flatMap_cons, List.length_append] at hrest
      cases step with
      | hit text =>
          rw [hitsFrom, List.map_cons]
          have hslice : (Span.mk before.length (before.length + text.length)).slice
              (before ++ (Cut.hit text :: steps).flatMap Cut.chars) = text := by
            simp [Span.slice, Cut.chars]
          rw [hslice]
          exact congrArg (text :: ·) hrest
      | plain c => exact hrest

/-- Every match on the way through a text is spelled by the pattern. -/
theorem spells_of_hit_mem_cuts {pattern : Pattern} {mayBeEmpty : Bool} {word : List Char}
    (h : .hit word ∈ pattern.cuts mayBeEmpty text) : Spells pattern.pieces word := by
  have hempty {text : List Char} (h : pattern.matchLength text = some 0) :
      Spells pattern.pieces [] := by
    obtain ⟨word, rest, _, hlength, hword⟩ := exists_of_matchPieces h
    rwa [List.eq_nil_of_length_eq_zero hlength.symm] at hword
  fun_induction cuts pattern mayBeEmpty text with
  | case1 mayBeEmpty hsome =>
      rw [Bool.and_eq_true] at hsome
      obtain ⟨n, hn⟩ := Option.isSome_iff_exists.1 hsome.2
      obtain ⟨spelled, rest, hnil, _, hspelled⟩ := exists_of_matchPieces hn
      rw [(List.append_eq_nil_iff.1 hnil.symm).1] at hspelled
      cases List.mem_singleton.1 h
      exact hspelled
  | case2 => cases h
  | case3 mayBeEmpty c rest n hmatch ih =>
      rcases List.mem_cons.1 h with hhit | h
      · obtain ⟨spelled, after, htext, hlength, hspelled⟩ := exists_of_matchPieces hmatch
        have hword : spelled = c :: rest.take n := by
          rw [← List.take_succ_cons, htext]
          exact (List.take_left' hlength.symm).symm
        cases hhit
        exact hword ▸ hspelled
      · exact ih h
  | case4 c rest hmatch ih =>
      rcases List.mem_cons.1 h with hhit | h
      · cases hhit
        exact hempty hmatch
      · exact ih ((List.mem_cons.1 h).resolve_left nofun)
  | case5 mayBeEmpty c rest hmatch hnot ih => exact ih ((List.mem_cons.1 h).resolve_left nofun)
  | case6 mayBeEmpty c rest hmatch ih => exact ih ((List.mem_cons.1 h).resolve_left nofun)

/-- What the search finds, the pattern spells. -/
theorem spells_slice_of_mem_find {pattern : Pattern} (h : span ∈ pattern.finder.find text) :
    Spells pattern.pieces (span.slice text) := by
  have hslices := map_slice_hitsFrom (pattern.cuts true text) []
  rw [List.nil_append, flatMap_chars_cuts] at hslices
  have hmem : span.slice text ∈ (pattern.cuts true text).filterMap Cut.hit? := by
    rw [← hslices]
    exact List.mem_map_of_mem h
  obtain ⟨step, hstep, hhit⟩ := List.mem_filterMap.1 hmem
  cases step with
  | hit word =>
      cases hhit
      exact spells_of_hit_mem_cuts hstep
  | plain c => cases hhit

/-! ## The scan of a pattern -/

/-- The characters before a match are gathered into one segment, unless there are none. -/
theorem gather_plains_hit (run text : List Char) (steps : List Cut) :
    gather (run.map .plain ++ .hit text :: steps) =
      (if run = [] then [] else [run]) ++ text :: gather steps := by
  induction run with
  | nil => rfl
  | cons c run ih =>
      cases run with
      | nil => exact gather_plain_hit c text steps
      | cons d run =>
          obtain ⟨first, others, hgather, hgathered⟩ :=
            gather_plain_plain c d (run.map .plain ++ .hit text :: steps)
          rw [List.map_cons, List.cons_append, hgather] at ih
          simp only [List.map_cons, List.cons_append, hgathered]
          simpa using ih

theorem gather_plains (run : List Char) :
    gather (run.map .plain) = if run = [] then [] else [run] := by
  induction run with
  | nil => rfl
  | cons c run ih =>
      cases run with
      | nil => rfl
      | cons d run =>
          obtain ⟨first, others, hgather, hgathered⟩ := gather_plain_plain c d (run.map .plain)
          rw [List.map_cons, hgather] at ih
          simp only [List.map_cons, hgathered]
          simpa using ih

/-- Gathering what the steps of a search leave over is cutting at what the search finds. A run of
characters that stand in front of the steps, outside of any match, begins the first segment. -/
theorem cutAt_hitsFrom (steps : List Cut) (before run : List Char) :
    cutAt (before ++ run ++ steps.flatMap Cut.chars) before.length
        (hitsFrom (before.length + run.length) steps) = gather (run.map .plain ++ steps) := by
  have hgap (before run after : List Char) : gap (before ++ run ++ after) before.length
      (before.length + run.length) = if run = [] then [] else [run] := by
    cases run with
    | nil => simp [gap]
    | cons c run => simp [gap, Span.slice]
  induction steps generalizing before run with
  | nil =>
      have hlength : (before ++ run ++ [].flatMap Cut.chars).length =
          before.length + run.length := by simp
      rw [hitsFrom, cutAt, hlength, hgap, List.append_nil, gather_plains]
  | cons step steps ih =>
      cases step with
      | hit word =>
          have hrest := ih (before ++ run ++ word) []
          have hslice : (Span.mk (before.length + run.length)
              (before.length + run.length + word.length)).slice
                (before ++ run ++ (word ++ steps.flatMap Cut.chars)) = word := by
            rw [← List.length_append]
            simp [Span.slice]
          rw [List.append_nil, List.length_nil, Nat.add_zero, List.length_append,
            List.length_append, List.append_assoc] at hrest
          rw [hitsFrom, cutAt, List.flatMap_cons, Cut.chars, hgap, hslice, hrest,
            gather_plains_hit]
          rfl
      | plain c =>
          have hrest := ih before (run ++ [c])
          rw [List.length_append, List.map_append, ← List.append_assoc, List.append_assoc] at hrest
          rw [hitsFrom]
          simpa [Cut.chars, Nat.add_assoc] using hrest

/-- The scan of a pattern cuts a template at the matches that the search for it finds. -/
theorem scan_eq (pattern : Pattern) : pattern.scan = pattern.finder.scan := by
  funext template
  have h := cutAt_hitsFrom (pattern.cuts true template.toList) [] []
  rw [flatMap_chars_cuts] at h
  exact (congrArg (List.map String.ofList) h).symm

/-- A pattern makes an empty segment of some template exactly if it spells nothing. -/
theorem exists_empty_mem_scan_iff {pattern : Pattern} :
    (∃ template, "" ∈ pattern.scan template) ↔ Spells pattern.pieces [] := by
  rw [scan_eq]
  constructor
  · rintro ⟨template, hempty⟩
    obtain ⟨span, hspan, hsame⟩ := (pattern.finder.empty_mem_scan_iff template).1 hempty
    have hspells := spells_slice_of_mem_find hspan
    rwa [Span.slice, hsame, Nat.sub_self, List.take_zero] at hspells
  · intro hspells
    -- in front of nothing the search finds it
    have hmatch : (pattern.matchLength []).isSome = true := isSome_matchPieces hspells []
    refine ⟨"", (pattern.finder.empty_mem_scan_iff "").2 ⟨⟨0, 0⟩, ?_, rfl⟩⟩
    show _ ∈ hitsFrom 0 (pattern.cuts true [])
    rw [cuts, hmatch]
    exact List.mem_singleton_self _

/-- **The segments of a template spell it, and only an empty match is an empty segment.** This holds
for every search from left to right. The scan of a pattern is such a search, and what it finds is
spelled by the pattern; so all segments of all templates have characters exactly if some piece of
the pattern has to be there. -/
theorem scan_spells_template (finder : Finder) (pattern : Pattern) (template : String) :
    (String.join (finder.scan template) = template ∧
      ((∀ segment ∈ finder.scan template, segment ≠ "") ↔
        ∀ span ∈ finder.find template.toList, span.start ≠ span.stop)) ∧
    pattern.scan template = pattern.finder.scan template ∧
    (∀ span ∈ pattern.finder.find template.toList,
      Spells pattern.pieces (span.slice template.toList)) ∧
    ((∀ text, ∀ segment ∈ pattern.scan text, segment ≠ "") ↔
      ∃ piece ∈ pattern.pieces, piece.repetition ≠ .anyNumber) := by
  refine ⟨⟨finder.join_scan template, ?_⟩, by rw [scan_eq],
    fun _ => spells_slice_of_mem_find, ?_⟩
  · have hempty := not_congr (finder.empty_mem_scan_iff template)
    push Not at hempty
    rw [← hempty]
    exact ⟨fun h hmem => h "" hmem rfl, fun h segment hmem heq => h (heq ▸ hmem)⟩
  · have hempty := not_congr (@exists_empty_mem_scan_iff pattern)
    rw [spells_nil_iff] at hempty
    push Not at hempty
    rw [← hempty]
    exact ⟨fun h text hmem => h text "" hmem rfl,
      fun h text segment hmem heq => h text (heq ▸ hmem)⟩

/-- Placeholders in braces, in angle brackets and in square brackets leave no segment empty. -/
theorem scan_spells_template_brackets :
    ∀ source ∈ [placeholderSource, "<[^<>]+>", "\\[[a-z]+\\]"], ∃ pattern,
      ofSource? source = some pattern ∧ ∀ template,
        String.join (pattern.scan template) = template ∧
        ∀ segment ∈ pattern.scan template, segment ≠ "" := by
  have hpattern {pattern : Pattern}
      (h : ∃ piece ∈ pattern.pieces, piece.repetition ≠ .anyNumber) (template : String) :
      String.join (pattern.scan template) = template ∧
        ∀ segment ∈ pattern.scan template, segment ≠ "" := by
    obtain ⟨⟨hspells, _⟩, hscan, _, hnonempty⟩ :=
      scan_spells_template pattern.finder pattern template
    refine ⟨?_, hnonempty.2 h template⟩
    rw [hscan, hspells]
  intro source hsource
  simp only [List.mem_cons, List.not_mem_nil, or_false] at hsource
  rcases hsource with rfl | rfl | rfl
  · exact ⟨_, ofSource?_placeholderSource, hpattern (by decide)⟩
  · exact ⟨_, rfl, hpattern (by decide)⟩
  · exact ⟨_, rfl, hpattern (by decide)⟩

/-- A letter any number of times matches in front of another letter and behind it, each time
nothing: two segments are empty. -/
theorem scan_anyNumber_empty :
    (∃ pattern, ofSource? "x*" = some pattern ∧ pattern.scan "a" = ["", "a", ""]) ∧
      ¬ ∀ source pattern, ofSource? source = some pattern → ∀ template,
        String.join (pattern.scan template) = template ∧
          ∀ segment ∈ pattern.scan template, segment ≠ "" := by
  have hscan : ∃ pattern, ofSource? "x*" = some pattern ∧ pattern.scan "a" = ["", "a", ""] :=
    ⟨_, rfl, by decide +kernel⟩
  refine ⟨hscan, fun hall => ?_⟩
  obtain ⟨pattern, hpattern, hsegments⟩ := hscan
  exact (hall "x*" pattern hpattern "a").2 "" (by simp [hsegments]) rfl

end Pattern

end VoiceSkill
