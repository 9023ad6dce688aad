import VoiceSkill.Unicode.Class
import Mathlib.Data.List.Chain
import Mathlib.Data.List.TakeWhile
import Mathlib.Algebra.Order.Group.Nat

/-!
# Runs against runs

Tables of runs are compared by walking through them side by side. As long as each run ends before
the next one begins (`Precedes`), every run has to be held only against those of the other table
that it meets (`allApart`, `allWithin`), and the outcome speaks for every code point
(`covers_eq_false_of_allApart`, `exists_covers_of_allWithin`).
-/

namespace VoiceSkill.Unicode.Run

variable {run other : Run} {runs others : List Run} {code : Nat}

theorem covers_iff :
    covers run code = true ↔
      run.1 ≤ code ∧ code ≤ run.2.1 ∧ ∃ i, code = run.1 + run.2.2 * i := by
  simp only [covers, Bool.and_eq_true, decide_eq_true_eq, beq_iff_eq, and_assoc]
  refine and_congr_right fun hfirst => and_congr_right fun _ => ?_
  rw [← Nat.dvd_iff_mod_eq_zero]
  constructor
  · rintro ⟨i, hi⟩
    exact ⟨i, by omega⟩
  · rintro ⟨i, rfl⟩
    exact ⟨i, by omega⟩

/-- The code points of a run. -/
def members (run : Run) : List Nat :=
  (List.range ((run.2.1 - run.1) / run.2.2 + 1)).map fun i => run.1 + run.2.2 * i

theorem mem_members (h : covers run code = true) : code ∈ members run := by
  obtain ⟨hfirst, hlast, i, rfl⟩ := covers_iff.1 h
  rw [members, List.mem_map]
  by_cases hstep : run.2.2 = 0
  · exact ⟨0, by simp, by simp [hstep]⟩
  · refine ⟨i, ?_, rfl⟩
    have hi : i ≤ (run.2.1 - run.1) / run.2.2 := by
      rw [Nat.le_div_iff_mul_le (Nat.pos_of_ne_zero hstep), Nat.mul_comm]
      omega
    exact List.mem_range.2 (by omega)

/-! ## Two runs -/

/-- Whether two runs have no code point in common. -/
def apart (run other : Run) : Bool := (members run).all fun code => !covers other code

theorem covers_of_apart (hapart : apart run other = true) (h : covers run code = true) :
    covers other code = false := by
  simpa using List.all_eq_true.1 hapart code (mem_members h)

/-- Whether a run lies on another one: its ends do, and its steps are none or fit. -/
def within (run other : Run) : Bool :=
  covers other run.1 && covers other run.2.1 && (run.1 == run.2.1 || run.2.2 % other.2.2 == 0)

theorem covers_of_within (hwithin : within run other = true) (h : covers run code = true) :
    covers other code = true := by
  simp only [within, Bool.and_eq_true, Bool.or_eq_true, beq_iff_eq] at hwithin
  obtain ⟨⟨hfirst, hlast⟩, hstep⟩ := hwithin
  obtain ⟨hbelow, habove, i, hcode⟩ := covers_iff.1 h
  rcases hstep with hsingle | hstep
  · obtain rfl : code = run.1 := by omega
    exact hfirst
  · obtain ⟨hother, _, k, hk⟩ := covers_iff.1 hfirst
    obtain ⟨_, hotherLast, _⟩ := covers_iff.1 hlast
    obtain ⟨l, hl⟩ := Nat.dvd_of_mod_eq_zero hstep
    refine covers_iff.2 ⟨by omega, by omega, k + l * i, ?_⟩
    rw [Nat.mul_add, ← Nat.mul_assoc, ← hl, ← Nat.add_assoc, ← hk, hcode]

/-- The run with every code point moved by an offset. -/
def shift (run : Run) (offset : Int) : Run :=
  ((run.1 + offset).toNat, (run.2.1 + offset).toNat, run.2.2)

theorem covers_shift {offset : Int} (hoffset : 0 ≤ run.1 + offset) (h : covers run code = true) :
    covers (shift run offset) (code + offset).toNat = true := by
  obtain ⟨hfirst, hlast, i, rfl⟩ := covers_iff.1 h
  refine covers_iff.2 ⟨?_, ?_, i, ?_⟩ <;> simp only [shift] <;> omega

/-! ## Two tables -/

/-- The first run ends before the second one begins. -/
def Precedes (run other : Run) : Prop := run.1 ≤ run.2.1 ∧ run.2.1 < other.1

instance : DecidableRel Precedes := fun run other =>
  inferInstanceAs (Decidable (run.1 ≤ run.2.1 ∧ run.2.1 < other.1))

instance : Trans Precedes Precedes Precedes where
  trans h h' := ⟨h.1, h.2.trans (h'.1.trans_lt h'.2)⟩

/-- Runs that end before another one begins. -/
def below (run other : Run) : Bool := Nat.blt other.2.1 run.1

theorem not_covers_of_below (hbelow : below run other = true) (hcode : run.1 ≤ code) :
    covers other code = false := by
  rw [below, Nat.blt_eq] at hbelow
  rw [← Bool.not_eq_true, covers_iff]
  rintro ⟨_, hlast, _⟩
  omega

/-- Whether two tables have no code point in common. -/
def allApart : List Run → List Run → Bool
  | [], _ => true
  | run :: runs, others =>
    let others := others.dropWhile (below run)
    (others.takeWhile fun other => Nat.ble other.1 run.2.1).all (apart run) && allApart runs others

/-- A run that is apart from those it meets in a table is apart from all of the table. -/
theorem covers_eq_false_of_all_apart (hothers : others.Pairwise Precedes)
    (h : (others.takeWhile fun other => Nat.ble other.1 run.2.1).all (apart run) = true)
    (hcovers : covers run code = true) : ∀ other ∈ others, covers other code = false := by
  intro other hother
  rw [← List.takeWhile_append_dropWhile (p := fun other => Nat.ble other.1 run.2.1) (l := others)]
    at hothers hother
  rcases List.mem_append.1 hother with hmeets | hbehind
  · exact covers_of_apart (List.all_eq_true.1 h other hmeets) hcovers
  · -- the first run behind begins too late, and the others begin later still
    obtain ⟨next, rest, hdrop⟩ := List.exists_cons_of_ne_nil (List.ne_nil_of_mem hbehind)
    have hnext : ¬ next.1 ≤ run.2.1 := by
      have hhead := List.head?_dropWhile_not (fun other => Nat.ble other.1 run.2.1) others
      rw [hdrop, List.head?_cons] at hhead
      rw [← Nat.ble_eq, Bool.not_eq_true]
      exact hhead
    rw [hdrop] at hbehind hothers
    have hlater : next.1 ≤ other.1 := by
      rcases List.mem_cons.1 hbehind with rfl | hbehind
      · exact Nat.le_refl _
      · obtain ⟨hends, hbegins⟩ :=
          List.rel_of_pairwise_cons (List.pairwise_append.1 hothers).2.1 hbehind
        omega
    have hcode := (covers_iff.1 hcovers).2.1
    rw [← Bool.not_eq_true, covers_iff]
    rintro ⟨hfirst, _⟩
    omega

/-- **A code point on a run of one table is on no run of another one that is apart from it.** -/
theorem covers_eq_false_of_allApart (hruns : runs.Pairwise Precedes)
    (hothers : others.Pairwise Precedes) (h : allApart runs others = true) (hmem : run ∈ runs)
    (hcovers : covers run code = true) : ∀ other ∈ others, covers other code = false := by
  induction runs generalizing others with
  | nil => cases hmem
  | cons first runs ih =>
      rw [allApart, Bool.and_eq_true] at h
      have hkept : (others.dropWhile (below first)).Pairwise Precedes :=
        hothers.sublist (List.dropWhile_sublist _)
      obtain ⟨hfirst, hruns⟩ := List.pairwise_cons.1 hruns
      have hcode : first.1 ≤ code := by
        have hbegins := (covers_iff.1 hcovers).1
        rcases List.mem_cons.1 hmem with rfl | hmem
        · exact hbegins
        · obtain ⟨hends, hnext⟩ := hfirst run hmem
          omega
      intro other hother
      rw [← List.takeWhile_append_dropWhile (p := below first) (l := others)] at hother
      rcases List.mem_append.1 hother with hdropped | hother
      · exact not_covers_of_below (List.mem_takeWhile_imp hdropped) hcode
      · rcases List.mem_cons.1 hmem with rfl | hmem
        · exact covers_eq_false_of_all_apart hkept h.1 hcovers other hother
        · exact ih hruns hkept h.2 hmem other hother

/-- Whether each run of a table lies on one of another table. -/
def allWithin : List Run → List Run → Bool
  | [], _ => true
  | run :: runs, others =>
    let others := others.dropWhile (below run)
    others.head?.any (within run) && allWithin runs others

/-- **A code point on a run of a table is on one of any table that the first lies within.** -/
theorem exists_covers_of_allWithin (h : allWithin runs others = true) (hmem : run ∈ runs)
    (hcovers : covers run code = true) : ∃ other ∈ others, covers other code = true := by
  induction runs generalizing others with
  | nil => cases hmem
  | cons first runs ih =>
      rw [allWithin, Bool.and_eq_true] at h
      have hrest : ∃ other ∈ others.dropWhile (below first), covers other code = true := by
        rcases List.mem_cons.1 hmem with rfl | hmem
        · obtain ⟨other, hother, hwithin⟩ := (Option.any_eq_true _ _).1 h.1
          exact ⟨other, List.mem_of_mem_head? hother, covers_of_within hwithin hcovers⟩
        · exact ih h.2 hmem
      obtain ⟨other, hother, hcovers⟩ := hrest
      exact ⟨other, (List.dropWhile_sublist _).mem hother, hcovers⟩

end VoiceSkill.Unicode.Run
