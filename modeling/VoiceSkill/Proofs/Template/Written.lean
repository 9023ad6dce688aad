import VoiceSkill.Proofs.Template.Placeholder
import Mathlib.Data.List.Basic
import Mathlib.Tactic.SplitIfs

/-!
# Written patterns

What the reader of written patterns makes of them. A backslash is read in front of special
characters only (`isMeta_of_escaped`). With one in front of each of them, any text is read as the
pattern of just this text (`ofSource?_flatMap_escape`, `matchLength_literal_eq_some_iff`). Whatever
is read consists of sets with some member and with ranges that go upwards
(`isWritten_of_ofSource?`).
-/

namespace VoiceSkill

/-- A set that can be written: it lists something, and its ranges go upwards. -/
structure CharSet.IsWritten (set : CharSet) : Prop where
  nonempty : set.ranges ≠ []
  upwards : ∀ range ∈ set.ranges, range.1 ≤ range.2

theorem CharSet.isWritten_singleton (c : Char) : (CharSet.singleton c).IsWritten where
  nonempty := by simp [singleton]
  upwards := by simp [singleton]

namespace Pattern

/-! ## Texts -/

/-- A character as it is written to stand for itself. -/
def escape (c : Char) : List Char := if isMeta c then ['\\', c] else [c]

/-- The pattern of one text. -/
def literal (text : List Char) : Pattern := ⟨text.map fun c => ⟨.singleton c, .once⟩⟩

theorem matchLength_literal_eq_some_iff {word text : List Char} {n : Nat} :
    (literal word).matchLength text = some n ↔ word <+: text ∧ n = word.length := by
  induction word generalizing text n with
  | nil => simp [literal, matchLength, matchPieces, eq_comm]
  | cons c word ih =>
      cases text with
      | nil => simp [literal, matchLength, matchPieces]
      | cons d text =>
          have hstep : (literal (c :: word)).matchLength (d :: text) =
              if d = c then ((literal word).matchLength text).map (· + 1) else none := by
            rw [literal, List.map_cons, matchLength, matchPieces_once_cons,
              CharSet.contains_singleton]
            simp [literal, matchLength]
          rw [hstep, Option.ite_none_right_eq_some, Option.map_eq_some_iff, List.cons_prefix_cons,
            List.length_cons, eq_comm (a := d)]
          simp only [ih]
          constructor
          · rintro ⟨rfl, k, ⟨hword, rfl⟩, rfl⟩
            exact ⟨⟨rfl, hword⟩, rfl⟩
          · rintro ⟨⟨rfl, hword⟩, rfl⟩
            exact ⟨rfl, word.length, ⟨hword, rfl⟩, rfl⟩

/-- Nothing but a special character is read behind a backslash. -/
theorem isMeta_of_escaped {text : List Char} {read : List Mark} (h : marks text = some read) :
    ∀ mark ∈ read, mark.escaped = true → isMeta mark.char = true := by
  fun_induction marks text generalizing read with
  | case1 =>
      cases h
      simp
  | case2 => cases h
  | case3 c rest hmeta ih =>
      obtain ⟨others, hothers, rfl⟩ := Option.map_eq_some_iff.1 h
      exact List.forall_mem_cons.2 ⟨fun _ => hmeta, ih hothers⟩
  | case4 => cases h
  | case5 c rest _ _ ih =>
      obtain ⟨others, hothers, rfl⟩ := Option.map_eq_some_iff.1 h
      exact List.forall_mem_cons.2 ⟨nofun, ih hothers⟩

example : ofSource? "\\d" = none := rfl

theorem marks_cons {c : Char} (hc : c ≠ '\\') (rest : List Char) :
    marks (c :: rest) = (marks rest).map (⟨c, false⟩ :: ·) := by
  rw [marks] <;> simp [hc]

theorem marks_flatMap_escape (text : List Char) :
    marks (text.flatMap escape) = some (text.map fun c => ⟨c, isMeta c⟩) := by
  induction text with
  | nil => rfl
  | cons c text ih =>
      rw [List.flatMap_cons, escape]
      split
      · rename_i hmeta
        rw [List.cons_append, List.singleton_append, marks, if_pos hmeta, ih, List.map_cons, hmeta]
        rfl
      · rename_i hmeta
        -- without a special meaning it is no backslash
        have hplain : c ≠ '\\' := by
          rintro rfl
          exact hmeta (by decide)
        rw [List.singleton_append, marks_cons hplain, ih, List.map_cons,
          Bool.eq_false_iff.2 hmeta]
        rfl

theorem isMeta_of_isSpecial {c : Char} (h : isSpecial c = true) : isMeta c = true := by
  simp only [isSpecial, isMeta, List.contains_eq_mem, List.mem_cons, decide_eq_true_eq] at h ⊢
  grind

/-- Outside of brackets a character that is written to stand for itself is one more piece. -/
theorem read_literal (pieces : List Piece) (c : Char) :
    Draft.read ⟨pieces, none⟩ ⟨c, isMeta c⟩ = some ⟨⟨.singleton c, .once⟩ :: pieces, none⟩ := by
  cases hmeta : isMeta c with
  | true => rfl
  | false =>
      have hplain (d : Char) (hd : isMeta d = true) : (c == d) = false := by
        rw [beq_eq_false_iff_ne]
        rintro rfl
        rw [hd] at hmeta
        cases hmeta
      have hspecial : isSpecial c = false := by
        by_contra h
        rw [Bool.not_eq_false] at h
        rw [isMeta_of_isSpecial h] at hmeta
        cases hmeta
      simp [Draft.read, hplain, hspecial, isMeta]

theorem foldlM_read_literal (text : List Char) (pieces : List Piece) :
    (text.map fun c => Mark.mk c (isMeta c)).foldlM Draft.read ⟨pieces, none⟩ =
      some ⟨(literal text).pieces.reverse ++ pieces, none⟩ := by
  induction text generalizing pieces with
  | nil => rfl
  | cons c text ih =>
      rw [List.map_cons, List.foldlM_cons, read_literal]
      refine (ih _).trans ?_
      simp [literal]

/-- **Every text can be written as a pattern**, with a backslash in front of its characters that
have a special meaning somewhere. -/
theorem ofSource?_flatMap_escape (text : List Char) :
    ofSource? (String.ofList (text.flatMap escape)) = some (literal text) := by
  have hread := foldlM_read_literal text []
  rw [List.append_nil] at hread
  simp [ofSource?, marks_flatMap_escape, hread]

/-! ## Sets -/

/-- Ranges that are read go upwards, and no member is lost. -/
theorem upwards_of_rangesOf {members : List Mark} {ranges : List (Char × Char)}
    (h : rangesOf members = some ranges) :
    (members ≠ [] → ranges ≠ []) ∧ ∀ range ∈ ranges, range.1 ≤ range.2 := by
  fun_induction rangesOf members generalizing ranges with
  | case1 =>
      cases h
      simp
  | case2 first last rest hends ih =>
      obtain ⟨others, hothers, rfl⟩ := Option.map_eq_some_iff.1 h
      simp only [Bool.and_eq_true, decide_eq_true_eq] at hends
      exact ⟨by simp, List.forall_mem_cons.2 ⟨hends.2, (ih hothers).2⟩⟩
  | case3 => cases h
  | case4 mark rest _ hmember ih =>
      obtain ⟨others, hothers, rfl⟩ := Option.map_eq_some_iff.1 h
      exact ⟨by simp, List.forall_mem_cons.2 ⟨Char.le_refl _, (ih hothers).2⟩⟩
  | case5 => cases h

theorem isWritten_of_setOf {negated : Bool} {members : List Mark} {set : CharSet}
    (h : setOf negated members = some set) : set.IsWritten := by
  rw [setOf, Option.ite_none_left_eq_some] at h
  obtain ⟨hmembers, h⟩ := h
  obtain ⟨ranges, hranges, rfl⟩ := Option.map_eq_some_iff.1 h
  obtain ⟨hnonempty, hupwards⟩ := upwards_of_rangesOf hranges
  exact ⟨hnonempty (by simpa using hmembers), hupwards⟩

theorem isWritten_of_bracketed {members : List Mark} {set : CharSet}
    (h : bracketed members = some set) : set.IsWritten := by
  rw [bracketed.eq_def] at h
  split at h <;> exact isWritten_of_setOf h

/-- The pieces read so far have sets that can be written. -/
def Draft.IsWritten (draft : Draft) : Prop := ∀ piece ∈ draft.pieces, piece.set.IsWritten

theorem Draft.IsWritten.repeatLast {draft next : Draft} {repetition : Repetition}
    (hdraft : draft.IsWritten) (h : draft.repeatLast repetition = some next) :
    next.IsWritten := by
  rw [Draft.repeatLast] at h
  split at h
  · rename_i set pieces hpieces
    cases h
    rw [Draft.IsWritten, hpieces] at hdraft
    exact List.forall_mem_cons.2 (List.forall_mem_cons.1 hdraft)
  · cases h

theorem Draft.IsWritten.read {draft next : Draft} {mark : Mark} (hdraft : draft.IsWritten)
    (h : draft.read mark = some next) : next.IsWritten := by
  have hsingleton :
      Draft.IsWritten ⟨⟨.singleton mark.char, .once⟩ :: draft.pieces, draft.bracket⟩ :=
    List.forall_mem_cons.2 ⟨CharSet.isWritten_singleton _, hdraft⟩
  rw [Draft.read] at h
  split at h
  · split at h
    · obtain ⟨set, hset, rfl⟩ := Option.map_eq_some_iff.1 h
      exact List.forall_mem_cons.2 ⟨isWritten_of_bracketed hset, hdraft⟩
    · cases h
      exact hdraft
  · split_ifs at h
    · cases h
      exact hsingleton
    · cases h
      exact hdraft
    · exact hdraft.repeatLast h
    · exact hdraft.repeatLast h
    · cases h
      exact hsingleton

theorem Draft.IsWritten.foldlM_read {marks : List Mark} {draft next : Draft}
    (hdraft : draft.IsWritten) (h : marks.foldlM Draft.read draft = some next) :
    next.IsWritten := by
  induction marks generalizing draft with
  | nil =>
      cases h
      exact hdraft
  | cons mark marks ih =>
      rw [List.foldlM_cons] at h
      obtain ⟨between, hbetween, hnext⟩ := Option.bind_eq_some_iff.1 h
      exact ih (hdraft.read hbetween) hnext

/-- **Every set of a pattern that has been read lists some range, and its ranges go upwards.** -/
theorem isWritten_of_ofSource? {source : String} {pattern : Pattern}
    (h : ofSource? source = some pattern) : ∀ piece ∈ pattern.pieces, piece.set.IsWritten := by
  obtain ⟨marks, _, h⟩ := Option.bind_eq_some_iff.1 h
  obtain ⟨draft, hdraft, h⟩ := Option.bind_eq_some_iff.1 h
  rw [Option.ite_none_left_eq_some] at h
  obtain ⟨_, h⟩ := h
  cases h
  have hempty : Draft.IsWritten ⟨[], none⟩ := by simp [Draft.IsWritten]
  have hwritten := hempty.foldlM_read hdraft
  exact fun piece hpiece => hwritten piece (List.mem_reverse.1 hpiece)

example : ofSource? "[z-a]" = none := rfl

end Pattern

end VoiceSkill
