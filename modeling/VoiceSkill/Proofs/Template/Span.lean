import VoiceSkill.Template.Segment
import Mathlib.Data.List.Basic

/-!
# Cutting a text at spans

A search from left to right finds spans of a text in order and without overlaps (`InOrder`). They
may be empty, and touch each other or the ends of the text. Whatever the search is for, cutting the
text at its spans loses nothing of it (`flatten_cutAt`), and makes an empty segment of every empty
span and of nothing else (`nil_mem_cutAt_iff`).
-/

namespace VoiceSkill

/-! ## Spans -/

/-- A stretch of a text, from a position up to another one. -/
structure Span where
  start : Nat
  stop : Nat
deriving DecidableEq, Repr

/-- The characters of a span. -/
def Span.slice (span : Span) (text : List Char) : List Char :=
  (text.drop span.start).take (span.stop - span.start)

/-- Spans as a search from left to right finds them behind a position of a text. -/
inductive InOrder (length : Nat) : Nat → List Span → Prop
  | nil {position : Nat} (hend : position ≤ length) : InOrder length position []
  | cons {position : Nat} {span : Span} {rest : List Span} (hgap : position ≤ span.start)
      (hspan : span.start ≤ span.stop) (hrest : InOrder length span.stop rest) :
      InOrder length position (span :: rest)

variable {text : List Char} {length position start stop : Nat} {span : Span} {spans : List Span}

theorem InOrder.le_length (h : InOrder length position spans) : position ≤ length := by
  induction h with
  | nil hend => exact hend
  | cons hgap hspan _ ih => omega

theorem InOrder.of_le {earlier : Nat} (h : InOrder length position spans)
    (hle : earlier ≤ position) : InOrder length earlier spans := by
  cases h with
  | nil hend => exact .nil (by omega)
  | cons hgap hspan hrest => exact .cons (by omega) hspan hrest

theorem length_slice (hstop : span.stop ≤ text.length) :
    (span.slice text).length = span.stop - span.start := by
  rw [Span.slice, List.length_take, List.length_drop]
  omega

/-- Two spans that touch each other are one span together. -/
theorem slice_append_slice (hstart : position ≤ start) (hstop : start ≤ stop) :
    (Span.mk position start).slice text ++ (Span.mk start stop).slice text =
      (Span.mk position stop).slice text := by
  have hlength : stop - position = (start - position) + (stop - start) := by omega
  have hdrop : position + (start - position) = start := by omega
  simp only [Span.slice]
  rw [hlength, List.take_add, List.drop_drop, hdrop]

/-! ## Cutting at spans -/

/-- What lies between two positions, unless that is nothing. -/
def gap (text : List Char) (start stop : Nat) : List (List Char) :=
  if start < stop then [(Span.mk start stop).slice text] else []

/-- Cuts what lies behind a position at spans: each span is a segment, and so is what lies between
spans and behind the last one, unless that is nothing. -/
def cutAt (text : List Char) (position : Nat) : List Span → List (List Char)
  | [] => gap text position text.length
  | span :: rest => gap text position span.start ++ span.slice text :: cutAt text span.stop rest

theorem flatten_gap (text : List Char) (start stop : Nat) :
    (gap text start stop).flatten = (Span.mk start stop).slice text := by
  rw [gap]
  split
  · simp
  · rename_i hnot
    have hlength : stop - start = 0 := by omega
    simp [Span.slice, hlength]

theorem nil_not_mem_gap (hstop : stop ≤ text.length) : [] ∉ gap text start stop := by
  rw [gap]
  split
  · rename_i hlt
    rw [List.mem_singleton]
    intro hnil
    have hlength : ((Span.mk start stop).slice text).length = stop - start := length_slice hstop
    rw [← hnil, List.length_nil] at hlength
    omega
  · exact List.not_mem_nil

/-- **Nothing is lost.** The segments spell what lies behind the position. -/
theorem flatten_cutAt (h : InOrder text.length position spans) :
    (cutAt text position spans).flatten = text.drop position := by
  induction h with
  | nil hend =>
      rw [cutAt, flatten_gap, Span.slice]
      exact List.take_of_length_le (by simp)
  | @cons position span rest hgap hspan hrest ih =>
      have hrest' : (Span.mk span.stop text.length).slice text = text.drop span.stop :=
        List.take_of_length_le (by simp)
      calc (cutAt text position (span :: rest)).flatten
          = (Span.mk position span.start).slice text ++
              (span.slice text ++ (Span.mk span.stop text.length).slice text) := by
            rw [cutAt, List.flatten_append, flatten_gap, List.flatten_cons, ih, hrest']
        _ = (Span.mk position text.length).slice text := by
            rw [slice_append_slice hspan hrest.le_length,
              slice_append_slice hgap (Nat.le_trans hspan hrest.le_length)]
        _ = text.drop position := List.take_of_length_le (by simp)

/-- **Only an empty span makes an empty segment.** -/
theorem nil_mem_cutAt_iff (h : InOrder text.length position spans) :
    [] ∈ cutAt text position spans ↔ ∃ span ∈ spans, span.start = span.stop := by
  induction h with
  | nil hend =>
      rw [cutAt]
      simp [nil_not_mem_gap (Nat.le_refl _)]
  | @cons position span rest hgap hspan hrest ih =>
      have hstop := hrest.le_length
      have hempty : [] = span.slice text ↔ span.start = span.stop := by
        rw [eq_comm, ← List.length_eq_zero_iff, length_slice hstop]
        omega
      rw [cutAt, List.mem_append, List.mem_cons, ih, hempty]
      simp [nil_not_mem_gap (Nat.le_trans hspan hstop)]

/-! ## Searches -/

/-- A search for spans, from left to right: what it finds in a text comes in order, without
overlaps. -/
structure Finder where
  find : List Char → List Span
  inOrder : ∀ text, InOrder text.length 0 (find text)

namespace Finder

/-- The segments of a template: what the search finds in it, and what lies in between. -/
def scan (finder : Finder) (template : String) : List String :=
  (cutAt template.toList 0 (finder.find template.toList)).map String.ofList

theorem map_toList_scan (finder : Finder) (template : String) :
    (finder.scan template).map String.toList =
      cutAt template.toList 0 (finder.find template.toList) := by
  rw [scan, List.map_map]
  exact List.map_id'' (fun _ => String.toList_ofList) _

theorem join_scan (finder : Finder) (template : String) :
    String.join (finder.scan template) = template := by
  apply String.toList_inj.1
  rw [String.toList_join, List.flatMap_def, map_toList_scan, flatten_cutAt (finder.inOrder _),
    List.drop_zero]

theorem empty_mem_scan_iff (finder : Finder) (template : String) :
    "" ∈ finder.scan template ↔
      ∃ span ∈ finder.find template.toList, span.start = span.stop := by
  rw [← nil_mem_cutAt_iff (finder.inOrder _), ← map_toList_scan, List.mem_map]
  constructor
  · intro hempty
    exact ⟨"", hempty, rfl⟩
  · rintro ⟨segment, hsegment, hnil⟩
    rwa [String.toList_inj.1 (hnil.trans String.toList_empty.symm)] at hsegment

end Finder

end VoiceSkill
