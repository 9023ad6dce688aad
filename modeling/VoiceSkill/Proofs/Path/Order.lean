import VoiceSkill.Path
import Mathlib.Data.Prod.Lex
import Mathlib.Data.String.Basic

/-!
# The order of paths

Paths are compared as words in a dictionary, with components for letters: the root comes first, then
`.` and `..`, then the names by code point, which is the order of their bytes (`Path.le_iff`). Paths
to different places are never level, so that sorting them puts each strictly before the next
(`Path.pairwise_lt_mergeSort`).
-/

namespace VoiceSkill

namespace Component

/-- What components are compared by, the rank before the text. -/
def orderKey (component : Component) : ℕ ×ₗ String := toLex (component.rank, component.label)

theorem before_iff {a b : Component} : a.before b = true ↔ a.orderKey < b.orderKey := by
  rw [orderKey, orderKey, Prod.Lex.toLex_lt_toLex, before, Bool.or_eq_true, Bool.and_eq_true,
    decide_eq_true_iff, decide_eq_true_iff, beq_iff_eq]

theorem orderKey_injective : Function.Injective orderKey := by
  intro a b h
  have hpair : (a.rank, a.label) = (b.rank, b.label) := toLex.injective h
  cases a <;> cases b <;> simp_all [rank, label]

end Component

namespace Path

theorem notAfter_iff {as bs : List Component} :
    notAfter as bs = true ↔ as.map Component.orderKey ≤ bs.map Component.orderKey := by
  induction as generalizing bs with
  | nil => exact iff_of_true rfl (by cases bs <;> simp [le_iff_lt_or_eq])
  | cons a as ih =>
      cases bs with
      | nil => simp [notAfter, le_iff_lt_or_eq]
      | cons b bs =>
          rw [notAfter, List.map_cons, List.map_cons, le_iff_lt_or_eq, List.cons_lt_cons_iff,
            List.cons.injEq]
          cases h : a == b with
          | true =>
              obtain rfl := beq_iff_eq.1 h
              rw [if_pos rfl, ih, le_iff_lt_or_eq]
              simp
          | false =>
              have hne : a.orderKey ≠ b.orderKey :=
                Component.orderKey_injective.ne (beq_eq_false_iff_ne.1 h)
              rw [if_neg (by decide), Component.before_iff]
              simp [hne]

/-- What paths are compared by. -/
def orderKey (path : Path) : List (ℕ ×ₗ String) := path.components.map Component.orderKey

theorem le_iff {path other : Path} : path.le other = true ↔ path.orderKey ≤ other.orderKey :=
  notAfter_iff

theorem orderKey_eq_iff {path other : Path} :
    path.orderKey = other.orderKey ↔ path.components = other.components :=
  (List.map_injective_iff.2 Component.orderKey_injective).eq_iff

/-- **Sorted paths to different places are each strictly before the next.** -/
theorem pairwise_lt_mergeSort {paths : List Path} (h : (paths.map components).Nodup) :
    (paths.mergeSort le).Pairwise fun a b => a.orderKey < b.orderKey := by
  have htrans (a b c : Path) (hab : a.le b = true) (hbc : b.le c = true) : a.le c = true := by
    rw [le_iff] at hab hbc ⊢
    exact hab.trans hbc
  have htotal (a b : Path) : (a.le b || b.le a) = true := by
    rw [Bool.or_eq_true, le_iff, le_iff]
    exact le_total _ _
  have hordered := List.pairwise_mergeSort htrans htotal paths
  have happart : (paths.mergeSort le).Pairwise fun a b => a.components ≠ b.components :=
    List.pairwise_map.1 (((List.mergeSort_perm paths le).map components).nodup_iff.2 h)
  exact hordered.imp₂ (fun a b hle hne => (le_iff.1 hle).lt_of_ne (orderKey_eq_iff.not.2 hne))
    happart

end Path

end VoiceSkill
