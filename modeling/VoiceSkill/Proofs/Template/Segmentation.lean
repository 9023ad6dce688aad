import VoiceSkill.Proofs.Template.Placeholder
import Mathlib.Data.List.Chain

/-!
# Cutting a text at its placeholders

What it means that a text is cut into segments at its placeholders (`Segmentation`), that this can
be done in one way only (`Segmentation.unique`), and how the segments of a text come from those of
the text behind its first placeholder or character (`cons_placeholder`, `cons_literal`,
`grow_literal`) or from those on both sides of any placeholder (`around`).
-/

namespace VoiceSkill

/-- **The cutting of a text at its placeholders**: the segments spell the text (`spells`), none is
empty (`nonempty`), every placeholder that occurs in the text is a segment at its own place
(`whole`), no other segment has a placeholder in it (`free`), and of two neighbours one is a
placeholder, so that the text between placeholders is not cut further (`separated`). -/
structure Segmentation (text : List Char) (segments : List (List Char)) : Prop where
  spells : segments.flatten = text
  nonempty : ∀ segment ∈ segments, segment ≠ []
  whole : ∀ before p after, IsPlaceholder p → text = before ++ p ++ after →
    ∃ front back, segments = front ++ p :: back ∧ front.flatten = before ∧ back.flatten = after
  free : ∀ segment ∈ segments, ¬ IsPlaceholder segment → ∀ p, p <:+: segment → ¬ IsPlaceholder p
  separated : segments.IsChain fun a b => IsPlaceholder a ∨ IsPlaceholder b

namespace Segmentation

variable {text segment : List Char} {segments segments' : List (List Char)}

/-! ## There is one cutting only -/

/-- What is left of a cutting after its first segment is a cutting of what is left of the text. -/
theorem tail {rest : List Char} (h : Segmentation (segment ++ rest) (segment :: segments)) :
    Segmentation rest segments where
  spells := List.append_cancel_left h.spells
  nonempty := fun s hs => h.nonempty s (by simp [hs])
  whole := by
    rintro before p after hp rfl
    obtain ⟨front, back, hsegments, hbefore, hafter⟩ :=
      h.whole (segment ++ before) p after hp (by simp)
    cases front with
    | nil =>
        have hempty : segment = [] := by
          have := congrArg List.length hbefore
          rw [List.flatten_nil, List.length_append, List.length_nil] at this
          exact List.eq_nil_of_length_eq_zero (by omega)
        exact absurd hempty (h.nonempty segment (by simp))
    | cons s front =>
        simp only [List.cons_append, List.cons.injEq] at hsegments
        obtain ⟨rfl, hsegments⟩ := hsegments
        exact ⟨front, back, hsegments, List.append_cancel_left hbefore, hafter⟩
  free := fun s hs => h.free s (by simp [hs])
  separated := h.separated.tail

/-- A placeholder at the front of a text is the first segment of every cutting. -/
theorem head_of_placeholder {p rest : List Char} (h : Segmentation text segments)
    (hp : IsPlaceholder p) (htext : text = p ++ rest) : ∃ back, segments = p :: back := by
  obtain ⟨front, back, hsegments, hfront, _⟩ := h.whole [] p rest hp (by simpa using htext)
  cases front with
  | nil => exact ⟨back, hsegments⟩
  | cons s front =>
      have hs : s = [] := by
        have := congrArg List.length hfront
        rw [List.flatten_cons, List.length_append, List.length_nil] at this
        exact List.eq_nil_of_length_eq_zero (by omega)
      exact absurd hs (h.nonempty s (by rw [hsegments]; simp))

/-- The first segments of two cuttings, where neither is a placeholder: the one is not shorter,
since a placeholder would have to follow it, in the midst of the other. -/
theorem length_head_le {a b : List Char} (h : Segmentation text (a :: segments))
    (h' : Segmentation text (b :: segments')) (ha : ¬ IsPlaceholder a) :
    b.length ≤ a.length := by
  by_contra hlt
  have htext : a ++ segments.flatten = b ++ segments'.flatten := h.spells.trans h'.spells.symm
  cases segments with
  | nil =>
      have := congrArg List.length htext
      simp only [List.flatten_nil, List.append_nil, List.length_append] at this
      omega
  | cons p segments =>
      have hp : IsPlaceholder p :=
        (List.isChain_cons_cons.1 h.separated).1.resolve_left ha
      obtain ⟨front, back, hsegments, hfront, _⟩ :=
        h'.whole a p segments.flatten hp (by rw [← h.spells]; simp)
      cases front with
      | nil => exact h.nonempty a (by simp) hfront.symm
      | cons s front =>
          simp only [List.cons_append, List.cons.injEq] at hsegments
          obtain ⟨rfl, _⟩ := hsegments
          have := congrArg List.length hfront
          rw [List.flatten_cons, List.length_append] at this
          omega

/-- **A text is cut at its placeholders in one way only.** -/
theorem unique (h : Segmentation text segments) (h' : Segmentation text segments') :
    segments = segments' := by
  induction segments generalizing text segments' with
  | nil =>
      cases segments' with
      | nil => rfl
      | cons b segments' =>
          have hb : b ++ segments'.flatten = [] := h'.spells.trans h.spells.symm
          exact absurd (List.append_eq_nil_iff.1 hb).1 (h'.nonempty b (by simp))
  | cons a segments ih =>
      cases segments' with
      | nil =>
          have ha : a ++ segments.flatten = [] := h.spells.trans h'.spells.symm
          exact absurd (List.append_eq_nil_iff.1 ha).1 (h.nonempty a (by simp))
      | cons b segments' =>
          have htext : a ++ segments.flatten = b ++ segments'.flatten :=
            h.spells.trans h'.spells.symm
          have hab : a = b := by
            by_cases ha : IsPlaceholder a
            · obtain ⟨back, hback⟩ := h'.head_of_placeholder ha h.spells.symm
              exact (List.cons.inj hback).1.symm
            · by_cases hb : IsPlaceholder b
              · obtain ⟨back, hback⟩ := h.head_of_placeholder hb h'.spells.symm
                exact (List.cons.inj hback).1
              · have hlen : a.length = b.length :=
                  Nat.le_antisymm (h'.length_head_le h hb) (h.length_head_le h' ha)
                exact (List.append_inj htext hlen).1
          subst hab
          have hleft : Segmentation (a ++ segments.flatten) (a :: segments) := by
            rw [← List.flatten_cons, h.spells]
            exact h
          have hright : Segmentation (a ++ segments.flatten) (a :: segments') := by
            rw [← List.flatten_cons, h.spells]
            exact h'
          rw [ih hleft.tail hright.tail]

/-! ## How a cutting grows to the left -/

theorem nil : Segmentation [] [] where
  spells := rfl
  nonempty := by simp
  whole := by
    intro before p after hp h
    have hnil := List.append_eq_nil_iff.1 h.symm
    exact absurd (List.append_eq_nil_iff.1 hnil.1).2 hp.ne_nil
  free := by simp
  separated := List.isChain_nil

/-- A text without placeholders is one segment. -/
theorem single (hne : text ≠ []) (hfree : ∀ p, p <:+: text → ¬ IsPlaceholder p) :
    Segmentation text [text] where
  spells := by simp
  nonempty := by simpa using hne
  whole := by
    rintro before p after hp rfl
    exact absurd hp (hfree p ⟨before, after, rfl⟩)
  free := by simpa using fun _ => hfree
  separated := List.isChain_singleton text

/-- A placeholder in front is a segment of its own. -/
theorem cons_placeholder {p rest : List Char} (h : Segmentation rest segments)
    (hp : IsPlaceholder p) : Segmentation (p ++ rest) (p :: segments) where
  spells := by rw [List.flatten_cons, h.spells]
  nonempty := by
    intro s hs
    rcases List.mem_cons.1 hs with rfl | hs
    · exact hp.ne_nil
    · exact h.nonempty s hs
  whole := by
    intro before q after hq htext
    rcases hp.same_or_apart hq htext with ⟨rfl, rfl, rfl⟩ | ⟨between, rfl, rfl⟩
    · exact ⟨[], segments, rfl, rfl, h.spells⟩
    · obtain ⟨front, back, rfl, rfl, rfl⟩ := h.whole between q after hq rfl
      exact ⟨p :: front, back, rfl, rfl, rfl⟩
  free := by
    intro s hs hfree
    rcases List.mem_cons.1 hs with rfl | hs
    · exact absurd hp hfree
    · exact h.free s hs hfree
  separated := by
    cases segments with
    | nil => exact List.isChain_singleton p
    | cons s segments => exact List.isChain_cons_cons.2 ⟨Or.inl hp, h.separated⟩

/-- In front of a placeholder, or of nothing, a character where no placeholder begins is a segment
of its own. -/
theorem cons_literal {c : Char} {rest : List Char} (h : Segmentation rest segments)
    (hnone : ∀ p tail, IsPlaceholder p → c :: rest ≠ p ++ tail)
    (hnext : ∀ s ∈ segments.head?, IsPlaceholder s) :
    Segmentation (c :: rest) ([c] :: segments) where
  spells := by rw [List.flatten_cons, h.spells, List.singleton_append]
  nonempty := by
    intro s hs
    rcases List.mem_cons.1 hs with rfl | hs
    · simp
    · exact h.nonempty s hs
  whole := by
    intro before p after hp htext
    cases before with
    | nil => exact absurd (by simpa using htext) (hnone p after hp)
    | cons d before =>
        simp only [List.cons_append, List.cons.injEq] at htext
        obtain ⟨rfl, rfl⟩ := htext
        obtain ⟨front, back, rfl, rfl, rfl⟩ := h.whole before p after hp rfl
        exact ⟨[c] :: front, back, rfl, rfl, rfl⟩
  free := by
    intro s hs hfree p hp
    rcases List.mem_cons.1 hs with rfl | hs
    · rintro hplaceholder
      rcases List.infix_cons_iff.1 hp with ⟨tail, htail⟩ | hinfix
      · exact hnone p (tail ++ rest) hplaceholder
          (by rw [← List.append_assoc, htail, List.singleton_append])
      · exact hplaceholder.ne_nil (List.infix_nil.1 hinfix)
    · exact h.free s hs hfree p hp
  separated := by
    cases segments with
    | nil => exact List.isChain_singleton [c]
    | cons s segments => exact List.isChain_cons_cons.2 ⟨Or.inr (hnext s rfl), h.separated⟩

/-- In front of a segment that is no placeholder, a character where no placeholder begins belongs to
that segment. -/
theorem grow_literal {c : Char} {rest run : List Char} (h : Segmentation rest (run :: segments))
    (hnone : ∀ p tail, IsPlaceholder p → c :: rest ≠ p ++ tail) (hrun : ¬ IsPlaceholder run) :
    Segmentation (c :: rest) ((c :: run) :: segments) where
  spells := by rw [← h.spells, List.flatten_cons, List.flatten_cons, List.cons_append]
  nonempty := by
    intro s hs
    rcases List.mem_cons.1 hs with rfl | hs
    · simp
    · exact h.nonempty s (by simp [hs])
  whole := by
    intro before p after hp htext
    cases before with
    | nil => exact absurd (by simpa using htext) (hnone p after hp)
    | cons d before =>
        simp only [List.cons_append, List.cons.injEq] at htext
        obtain ⟨rfl, rfl⟩ := htext
        obtain ⟨front, back, hsegments, hfront, rfl⟩ := h.whole before p after hp rfl
        cases front with
        | nil =>
            simp only [List.nil_append, List.cons.injEq] at hsegments
            exact absurd (hsegments.1 ▸ hp) hrun
        | cons s front =>
            simp only [List.cons_append, List.cons.injEq] at hsegments
            obtain ⟨rfl, rfl⟩ := hsegments
            refine ⟨(c :: run) :: front, back, rfl, ?_, rfl⟩
            rw [List.flatten_cons, List.cons_append, ← List.flatten_cons, hfront]
  free := by
    intro s hs hfree p hp
    rcases List.mem_cons.1 hs with rfl | hs
    · rintro hplaceholder
      rcases List.infix_cons_iff.1 hp with ⟨tail, htail⟩ | hinfix
      · refine hnone p (tail ++ segments.flatten) hplaceholder ?_
        rw [← List.append_assoc, htail, ← h.spells, List.flatten_cons, List.cons_append]
      · exact h.free run (by simp) hrun p hinfix hplaceholder
    · exact h.free s (by simp [hs]) hfree p hp
  separated := by
    cases segments with
    | nil => exact List.isChain_singleton _
    | cons s segments =>
        have hchain := List.isChain_cons_cons.1 h.separated
        exact List.isChain_cons_cons.2 ⟨Or.inr (hchain.1.resolve_left hrun), hchain.2⟩

/-! ## Cuttings around a placeholder -/

/-- **A placeholder keeps what stands in front of it apart from what stands behind**: the cuttings
of both sides, with the placeholder in between, are the cutting of the whole. -/
theorem around {p other : List Char} {others : List (List Char)} (h : Segmentation text segments)
    (hp : IsPlaceholder p) (h' : Segmentation other others) :
    Segmentation (text ++ p ++ other) (segments ++ p :: others) where
  spells := by
    rw [List.flatten_append, List.flatten_cons, h.spells, h'.spells, List.append_assoc]
  nonempty := by
    intro s hs
    rcases List.mem_append.1 hs with hs | hs
    · exact h.nonempty s hs
    · exact (h'.cons_placeholder hp).nonempty s hs
  whole := by
    intro before q after hq htext
    rcases hp.before_same_or_behind hq htext with
      ⟨between, hbefore, rfl⟩ | ⟨rfl, rfl, rfl⟩ | ⟨between, rfl, hafter⟩
    · obtain ⟨front, back, rfl, rfl, rfl⟩ := h.whole before q between hq hbefore
      exact ⟨front, back ++ p :: others, by simp, rfl, by simp [h'.spells]⟩
    · exact ⟨segments, others, rfl, h.spells, h'.spells⟩
    · obtain ⟨front, back, rfl, rfl, rfl⟩ := h'.whole between q after hq hafter
      exact ⟨segments ++ p :: front, back, by simp, by simp [h.spells], rfl⟩
  free := by
    intro s hs
    rcases List.mem_append.1 hs with hs | hs
    · exact h.free s hs
    · exact (h'.cons_placeholder hp).free s hs
  separated := by
    rw [List.isChain_append]
    refine ⟨h.separated, (h'.cons_placeholder hp).separated, ?_⟩
    intro a _ b hb
    rw [List.head?_cons, Option.mem_some_iff] at hb
    exact Or.inr (hb ▸ hp)

end Segmentation

end VoiceSkill
