import VoiceSkill.Json.Numeral
import Mathlib.Data.List.Basic

/-!
# Decimal digits

The digits of a number are digits, have no zero in front, and denote the number
(`digitsValue_decimalDigits`). A numeral of digits alone therefore denotes the integer that it was
written for, as long as it fits into 64 bits (`Numeral.value?_of_le`).
-/

namespace VoiceSkill

/-! ## Digits -/

theorem isDigit_digitChar : ∀ n < 10, (digitChar n).isDigit = true := by decide

theorem digitValue_digitChar : ∀ n < 10, Numeral.digitValue (digitChar n) = n := by decide

theorem decimalDigits_of_lt {n : Nat} (h : n < 10) : decimalDigits n = [digitChar n] := by
  rw [decimalDigits, if_pos h]

theorem decimalDigits_of_le {n : Nat} (h : 10 ≤ n) :
    decimalDigits n = decimalDigits (n / 10) ++ [digitChar (n % 10)] := by
  rw [decimalDigits, if_neg (by omega)]

theorem decimalDigits_ne_nil (n : Nat) : decimalDigits n ≠ [] := by
  rw [decimalDigits]
  split <;> simp

theorem isDigit_of_mem_decimalDigits (n : Nat) : ∀ c ∈ decimalDigits n, c.isDigit = true := by
  induction n using decimalDigits.induct with
  | case1 n h =>
      rw [decimalDigits_of_lt h]
      simpa using isDigit_digitChar n h
  | case2 n h ih =>
      rw [decimalDigits_of_le (by omega), List.forall_mem_append]
      exact ⟨ih, by simpa using isDigit_digitChar (n % 10) (by omega)⟩

theorem digitsValue_decimalDigits (n : Nat) : Numeral.digitsValue (decimalDigits n) = n := by
  induction n using decimalDigits.induct with
  | case1 n h =>
      rw [decimalDigits_of_lt h]
      simpa [Numeral.digitsValue] using digitValue_digitChar n h
  | case2 n h ih =>
      have hlast := digitValue_digitChar (n % 10) (by omega)
      rw [Numeral.digitsValue] at ih
      rw [decimalDigits_of_le (by omega), Numeral.digitsValue, List.foldl_append, ih,
        List.foldl_cons, List.foldl_nil, hlast]
      omega

/-- The digits of a number begin with a zero only where they are a single zero. -/
theorem decimalDigits_ne_zero_cons (n : Nat) (c : Char) (rest : List Char) :
    decimalDigits n ≠ '0' :: c :: rest := by
  induction n using decimalDigits.induct generalizing c rest with
  | case1 n h => simp [decimalDigits_of_lt h]
  | case2 n h ih =>
      intro hdigits
      rw [decimalDigits_of_le (by omega)] at hdigits
      match hfirst : decimalDigits (n / 10) with
      | [] => exact decimalDigits_ne_nil _ hfirst
      | [d] =>
          rw [hfirst] at hdigits
          have hzero : n / 10 = 0 := by
            rw [← digitsValue_decimalDigits (n / 10), hfirst]
            simp_all [Numeral.digitsValue, Numeral.digitValue]
          omega
      | d :: e :: others =>
          rw [hfirst] at hdigits
          obtain ⟨rfl, -⟩ := List.cons_eq_cons.1 hdigits
          exact ih e others hfirst

/-! ## Numerals -/

namespace Numeral

theorem le_foldl_digits (significand : Nat) (digits : List Char) :
    significand ≤ digits.foldl (fun n c => 10 * n + digitValue c) significand := by
  induction digits generalizing significand with
  | nil => exact Nat.le_refl _
  | cons c digits ih =>
      have := ih (10 * significand + digitValue c)
      simp only [List.foldl_cons]
      omega

/-- Digits of a number of 64 bits are all absorbed. -/
theorem absorb_of_le {significand : Nat} {digits : List Char}
    (h : digits.foldl (fun n c => 10 * n + digitValue c) significand ≤ greatestSignificand) :
    absorb significand digits =
      (digits.foldl (fun n c => 10 * n + digitValue c) significand, []) := by
  induction digits generalizing significand with
  | nil => rfl
  | cons c digits ih =>
      rw [List.foldl_cons] at h ⊢
      have hnext := Nat.le_trans (le_foldl_digits _ digits) h
      rw [absorb, if_pos hnext, ih h]

theorem value?_of_le (negative : Bool) {n : Nat} (h : n ≤ greatestSignificand) :
    value? ⟨negative, decimalDigits n, none, none⟩ =
      if !negative then some (.integer n)
      else if n = 0 then some (.decimal (.zero true))
      else if n ≤ Nat.pow 2 63 then some (.integer (-n))
      else scaled true n 0 := by
  have habsorb : absorb 0 (decimalDigits n) = (n, []) := by
    have hvalue := digitsValue_decimalDigits n
    rw [digitsValue] at hvalue
    rw [absorb_of_le (by rwa [hvalue]), hvalue]
  rw [value?, habsorb]

end Numeral

end VoiceSkill
