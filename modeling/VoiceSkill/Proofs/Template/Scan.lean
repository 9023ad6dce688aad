import VoiceSkill.Proofs.Template.Segmentation

/-!
# The scan of a template

The scan cuts a template at its placeholders, and there is no other way to do that
(`scan_placeholder_eq_iff`). A text is read as a row of placeholders and of characters where none
begins (`placeholder_induction`); each of them is one step of the scan.
-/

namespace VoiceSkill

/-- A text is empty, or begins with a placeholder, or with a character where none begins. -/
theorem placeholder_induction {motive : List Char → Prop} (nil : motive [])
    (placeholder : ∀ p rest, IsPlaceholder p → motive rest → motive (p ++ rest))
    (literal : ∀ c rest, (∀ p tail, IsPlaceholder p → c :: rest ≠ p ++ tail) → motive rest →
      motive (c :: rest)) (text : List Char) : motive text := by
  induction hn : text.length using Nat.strong_induction_on generalizing text with
  | _ n ih =>
      by_cases hp : ∃ p rest, IsPlaceholder p ∧ text = p ++ rest
      · obtain ⟨p, rest, hp, rfl⟩ := hp
        have hpos : 0 < p.length := List.length_pos_of_ne_nil hp.ne_nil
        rw [List.length_append] at hn
        exact placeholder p rest hp (ih rest.length (by omega) rest rfl)
      · cases text with
        | nil => exact nil
        | cons c rest =>
            rw [List.length_cons] at hn
            exact literal c rest (fun p tail h h' => hp ⟨p, tail, h, h'⟩)
              (ih rest.length (by omega) rest rfl)

namespace Pattern

/-! ## The steps of the scan -/

theorem cuts_placeholder_nil (mayBeEmpty : Bool) : placeholder.cuts mayBeEmpty [] = [] := by
  rw [cuts, matchLength_placeholder_nil]
  simp

theorem cuts_placeholder_append {p : List Char} (hp : IsPlaceholder p) (mayBeEmpty : Bool)
    (rest : List Char) :
    placeholder.cuts mayBeEmpty (p ++ rest) = .hit p :: placeholder.cuts false rest := by
  have hmatch : placeholder.matchLength (p ++ rest) = some p.length :=
    matchLength_placeholder_eq_some_iff.2 ⟨p, rest, hp, rfl, rfl⟩
  obtain ⟨c, tail, rfl⟩ := List.exists_cons_of_ne_nil hp.ne_nil
  rw [List.cons_append, List.length_cons] at hmatch
  rw [List.cons_append, cuts]
  simp [hmatch]

theorem cuts_placeholder_cons {c : Char} {rest : List Char}
    (hnone : ∀ p tail, IsPlaceholder p → c :: rest ≠ p ++ tail) (mayBeEmpty : Bool) :
    placeholder.cuts mayBeEmpty (c :: rest) = .plain c :: placeholder.cuts true rest := by
  rw [cuts, matchLength_placeholder_eq_none_iff.2 hnone]

/-! ## Gathering characters -/

theorem gather_plain_hit (c : Char) (text : List Char) (steps : List Cut) :
    gather (.plain c :: .hit text :: steps) = [c] :: text :: gather steps := rfl

/-- A character in front of a character joins the run of that one. -/
theorem gather_plain_plain (c d : Char) (steps : List Cut) :
    ∃ run runs, gather (.plain d :: steps) = run :: runs ∧
      gather (.plain c :: .plain d :: steps) = (c :: run) :: runs := by
  cases hd : gather (.plain d :: steps) with
  | nil =>
      -- a character never vanishes
      cases steps with
      | nil => cases hd
      | cons step steps =>
          cases step with
          | hit text => cases hd
          | plain e =>
              rw [gather] at hd
              split at hd <;> cases hd
  | cons run runs =>
      refine ⟨run, runs, rfl, ?_⟩
      rw [gather, hd]

/-! ## The scan is the cutting at placeholders -/

/-- Each step of the scan takes a cutting of what remains to one of the text. -/
theorem segmentation_gather_cuts (text : List Char) :
    ∀ mayBeEmpty, Segmentation text (gather (placeholder.cuts mayBeEmpty text)) := by
  induction text using placeholder_induction with
  | nil =>
      intro mayBeEmpty
      rw [cuts_placeholder_nil]
      exact .nil
  | placeholder p rest hp ih =>
      intro mayBeEmpty
      rw [cuts_placeholder_append hp]
      exact (ih false).cons_placeholder hp
  | literal c rest hnone ih =>
      intro mayBeEmpty
      rw [cuts_placeholder_cons hnone]
      have hrest := ih true
      -- what stands behind the character decides whether it begins a segment
      cases rest using placeholder_induction with
      | nil =>
          rw [cuts_placeholder_nil] at hrest ⊢
          exact hrest.cons_literal hnone (by simp [gather])
      | placeholder p rest hp _ =>
          rw [cuts_placeholder_append hp] at hrest ⊢
          rw [gather_plain_hit]
          refine hrest.cons_literal hnone ?_
          intro s hs
          rw [gather, List.head?_cons, Option.mem_some_iff] at hs
          exact hs ▸ hp
      | literal d rest hnone' _ =>
          rw [cuts_placeholder_cons hnone'] at hrest ⊢
          obtain ⟨run, runs, hgather, hgrown⟩ :=
            gather_plain_plain c d (placeholder.cuts true rest)
          rw [hgather] at hrest
          rw [hgrown]
          refine hrest.grow_literal hnone ?_
          intro hrun
          exact hnone' run runs.flatten hrun hrest.spells.symm

theorem segmentation_scan (template : String) :
    Segmentation template.toList ((placeholder.scan template).map String.toList) := by
  have htoList : (placeholder.scan template).map String.toList =
      gather (placeholder.cuts true template.toList) := by
    rw [scan, Pattern.segments, List.map_map]
    exact List.map_id'' (fun _ => String.toList_ofList) _
  rw [htoList]
  exact segmentation_gather_cuts template.toList true

/-- **The scan of a template is its one and only cutting at placeholders.** -/
theorem scan_placeholder_eq_iff (template : String) (segments : List String) :
    placeholder.scan template = segments ↔
      Segmentation template.toList (segments.map String.toList) := by
  have hscan := segmentation_scan template
  constructor
  · rintro rfl
    exact hscan
  · intro h
    exact (List.map_inj_right fun _ _ => String.toList_inj.1).1 (hscan.unique h)

/-- A stray brace takes no part: the inner pair stands for the placeholder. -/
example : placeholder.scan "x \x7b\x7bcity\x7d\x7d y" = ["x \x7b", "\x7bcity\x7d", "\x7d y"] := by
  decide +kernel

theorem scan_empty : placeholder.scan "" = [] :=
  List.map_eq_nil_iff.1 ((segmentation_scan "").unique .nil)

/-- The segments on both sides of a placeholder are those of each side by itself. -/
theorem scan_around {p : String} (hp : IsPlaceholder p.toList) (before after : String) :
    placeholder.scan (before ++ p ++ after) =
      placeholder.scan before ++ p :: placeholder.scan after := by
  have hcut := (segmentation_scan before).around hp (segmentation_scan after)
  rw [← List.map_cons, ← List.map_append, ← String.toList_append, ← String.toList_append] at hcut
  exact (List.map_inj_right fun _ _ => String.toList_inj.1).1
    ((segmentation_scan (before ++ p ++ after)).unique hcut)

end Pattern

end VoiceSkill
