import VoiceSkill.Document.Printer
import VoiceSkill.Json.Lexeme

/-!
# Texts between quotes

A text that was written between quotes is read back, whatever its characters and whatever comes
after it (`quoted_escape`). Each character is read back from its own escape.
-/

namespace VoiceSkill.Json

/-! ## Blanks -/

theorem afterGap_append {gap : List Char} (h : ∀ c ∈ gap, isGap c = true) (text : List Char) :
    afterGap (gap ++ text) = afterGap text := List.dropWhile_append_of_pos h

theorem afterGap_cons {c : Char} (h : isGap c = false) (text : List Char) :
    afterGap (c :: text) = c :: text := List.dropWhile_cons_of_neg (by simp [h])

/-! ## Escapes -/

theorem hexDigitValue_hexDigit : ∀ n < 16, hexDigitValue (hexDigit n) = some n := by decide

/-- A control character is read back from its code point. -/
theorem quoted_unicode {c : Char} (h : c.toNat < 32) (text : List Char) :
    quoted ('\\' :: 'u' :: '0' :: '0' :: hexDigit (c.toNat / 16) :: hexDigit (c.toNat % 16) ::
      text) = (quoted text).map (c :: ·) := by
  have hvalue : hexValue '0' '0' (hexDigit (c.toNat / 16)) (hexDigit (c.toNat % 16)) =
      some c.toNat := by
    have hzero : hexDigitValue '0' = some 0 := by decide
    rw [hexValue, hzero, hexDigitValue_hexDigit _ (by omega), hexDigitValue_hexDigit _ (by omega)]
    simp
    omega
  have hlow : isLowSurrogate c.toNat = false := by simp [isLowSurrogate]; omega
  have hhigh : isHighSurrogate c.toNat = false := by simp [isHighSurrogate]; omega
  rw [quoted, hvalue]
  simp only [hlow, hhigh, Bool.false_eq_true, if_false, Char.ofNat_toNat]

theorem quoted_plain {c : Char} (hquote : c ≠ '\x22') (hslash : c ≠ '\\') (h : 32 ≤ c.toNat)
    (text : List Char) : quoted (c :: text) = (quoted text).map (c :: ·) := by
  have hcontrol : ¬ c.toNat < 32 := Nat.not_lt.2 h
  rw [quoted]
  · simp [hquote, hcontrol]
  all_goals simp [hslash]

theorem quoted_escaped {letter c : Char} (hletter : letter ≠ 'u') (h : escapedChar letter = some c)
    (text : List Char) :
    quoted ('\\' :: letter :: text) = (quoted text).map (c :: ·) := by
  rw [quoted]
  · simp only [h]
  all_goals simp [hletter]

/-- A character is written with a letter that stands for it, with its code point, or as it is. -/
theorem escapeChar_cases (c : Char) :
    (∃ letter ≠ 'u', escapedChar letter = some c ∧ Document.escapeChar c = ['\\', letter]) ∨
    (c.toNat < 32 ∧ Document.escapeChar c =
      ['\\', 'u', '0', '0', hexDigit (c.toNat / 16), hexDigit (c.toNat % 16)]) ∨
    (c ≠ '\x22' ∧ c ≠ '\\' ∧ 32 ≤ c.toNat ∧ Document.escapeChar c = [c]) := by
  fun_cases Document.escapeChar c with
  | case1 | case2 | case3 | case4 | case5 | case6 | case7 =>
    rename_i h
    obtain rfl := eq_of_beq h
    exact .inl ⟨_, by decide, by decide, rfl⟩
  | case8 _ _ _ _ _ _ _ h => exact .inr (.inl ⟨h, rfl⟩)
  | case9 hquote hslash _ _ _ _ _ h =>
    exact .inr (.inr ⟨by simpa using hquote, by simpa using hslash, by omega, rfl⟩)

theorem quoted_escapeChar_append (c : Char) (text : List Char) :
    quoted (Document.escapeChar c ++ text) = (quoted text).map (c :: ·) := by
  rcases escapeChar_cases c with ⟨letter, hletter, hc, heq⟩ | ⟨hc, heq⟩ | ⟨hquote, hslash, hc, heq⟩
  · rw [heq]
    exact quoted_escaped hletter hc text
  · rw [heq]
    exact quoted_unicode hc text
  · rw [heq]
    exact quoted_plain hquote hslash hc text

/-- **A text between quotes is read back.** -/
theorem quoted_escape (text rest : List Char) :
    quoted (text.flatMap Document.escapeChar ++ '\x22' :: rest) = ⟨.ok text, .ok rest⟩ := by
  induction text with
  | nil =>
      show quoted ('\x22' :: rest) = _
      rw [quoted] <;> simp
  | cons c text ih =>
      rw [List.flatMap_cons, List.append_assoc, quoted_escapeChar_append, ih]
      rfl

end VoiceSkill.Json
