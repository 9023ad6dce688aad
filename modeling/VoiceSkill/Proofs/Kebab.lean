import VoiceSkill.Kebab
import VoiceSkill.Proofs.Unicode.LetterCase
import Mathlib.Data.List.Basic

/-!
# What identifiers are made of

The characters of a kebab-case identifier are hyphens, letters and digits of ASCII, and characters
beyond ASCII (`mem_kebabCase`). So no identifier has a slash, a dot or an underscore in it, whatever
text it comes from.
-/

namespace VoiceSkill

open Unicode

/-- A character that can stand in a word of an identifier. -/
def IsWordChar (c : Char) : Prop := c.isAlphanum = true ∨ 128 ≤ c.toNat

instance (c : Char) : Decidable (IsWordChar c) := inferInstanceAs (Decidable (_ ∨ _))

theorem isWordChar_of_isAlphanumeric {c : Char} (h : isAlphanumeric c = true) : IsWordChar c := by
  by_cases hascii : isAscii c = true
  · rw [isAlphanumeric, if_pos hascii] at h
    exact Or.inl h
  · exact Or.inr (by simpa [isAscii] using hascii)

theorem isWordChar_of_mem_toLowercase {c d : Char} (hc : isAlphanumeric c = true)
    (hd : d ∈ toLowercase c) : IsWordChar d := by
  rcases toLowercase_cases c with hsame | rfl | ⟨e, hform, hlower, _⟩
  · rw [hsame, List.mem_singleton] at hd
    exact isWordChar_of_isAlphanumeric (hd ▸ hc)
  · -- a small letter i, with the dot as a character of its own
    rw [toLowercase_dottedCapital] at hd
    rcases List.mem_pair.1 hd with rfl | rfl <;> decide
  · rw [hform, List.mem_singleton] at hd
    exact isWordChar_of_isAlphanumeric (hd ▸ isAlphanumeric_of_isLowercase hlower)

/-! ## Words and identifiers -/

/-- Whatever stands in the words of a text stood in the word begun before it, or is the lower-case
form of a letter or digit of the text. -/
theorem mem_of_mem_wordsFrom {text word w : List Char} {previous d : Char}
    (hw : w ∈ wordsFrom word previous text) (hd : d ∈ w) :
    d ∈ word ∨ ∃ c ∈ text, isAlphanumeric c = true ∧ d ∈ toLowercase c := by
  induction text generalizing word previous with
  | nil =>
      rw [wordsFrom] at hw
      split at hw
      · cases hw
      · rw [List.mem_singleton] at hw
        exact Or.inl (hw ▸ hd)
  | cons c text ih =>
      have hlater {begun : List Char} (hmem : w ∈ wordsFrom begun c text) :
          d ∈ begun ∨ ∃ e ∈ c :: text, isAlphanumeric e = true ∧ d ∈ toLowercase e :=
        (ih hmem).imp id fun ⟨e, he, hrest⟩ => ⟨e, List.mem_cons_of_mem c he, hrest⟩
      -- a break begins a new word, any other character goes on with one
      rw [wordsFrom] at hw
      cases hc : isAlphanumeric c with
      | false =>
          have hnew (hmem : w ∈ wordsFrom [] c text) :
              d ∈ word ∨ ∃ e ∈ c :: text, isAlphanumeric e = true ∧ d ∈ toLowercase e :=
            (hlater hmem).imp (fun hnil => nomatch hnil) id
          rw [hc] at hw
          simp only [Bool.not_false, if_true] at hw
          split at hw
          · exact hnew hw
          · rcases List.mem_cons.1 hw with rfl | hw
            · exact Or.inl hd
            · exact hnew hw
      | true =>
          have hlower (hmem : d ∈ toLowercase c) :
              ∃ e ∈ c :: text, isAlphanumeric e = true ∧ d ∈ toLowercase e :=
            ⟨c, List.mem_cons_self, hc, hmem⟩
          rw [hc] at hw
          simp only [Bool.not_true, Bool.false_eq_true, if_false] at hw
          split at hw
          · rcases List.mem_cons.1 hw with rfl | hw
            · exact Or.inl hd
            · exact Or.inr ((hlater hw).elim hlower id)
          · rcases hlater hw with hword | hrest
            · exact (List.mem_append.1 hword).imp id hlower
            · exact Or.inr hrest

theorem mem_intercalate {separator : Char} {words : List (List Char)} {d : Char}
    (h : d ∈ [separator].intercalate words) : d = separator ∨ ∃ w ∈ words, d ∈ w := by
  induction words with
  | nil => cases h
  | cons w words ih =>
      cases words with
      | nil =>
          rw [List.intercalate_singleton] at h
          exact Or.inr ⟨w, by simp, h⟩
      | cons v words =>
          rw [List.intercalate_cons_cons, List.append_assoc, List.mem_append] at h
          rcases h with h | h
          · exact Or.inr ⟨w, by simp, h⟩
          · rcases List.mem_append.1 h with h | h
            · exact Or.inl (List.mem_singleton.1 h)
            · rcases ih h with h | ⟨u, hu, hd⟩
              · exact Or.inl h
              · exact Or.inr ⟨u, by simp [hu], hd⟩

/-- The characters of an identifier are hyphens and the lower-case forms of letters and digits. -/
theorem mem_kebabCase_cases {text : String} {d : Char} (h : d ∈ (kebabCase text).toList) :
    d = '-' ∨ ∃ c, isAlphanumeric c = true ∧ d ∈ toLowercase c := by
  rw [kebabCase, String.toList_ofList] at h
  rcases mem_intercalate h with h | ⟨w, hw, hd⟩
  · exact Or.inl h
  · rcases mem_of_mem_wordsFrom hw hd with hnil | ⟨c, _, hc, hlower⟩
    · cases hnil
    · exact Or.inr ⟨c, hc, hlower⟩

/-- **The characters of identifiers.** -/
theorem mem_kebabCase {text : String} {d : Char} (h : d ∈ (kebabCase text).toList) :
    d = '-' ∨ IsWordChar d :=
  (mem_kebabCase_cases h).imp_right fun ⟨_, hc, hd⟩ => isWordChar_of_mem_toLowercase hc hd

theorem slash_not_mem_kebabCase (text : String) : '/' ∉ (kebabCase text).toList := by
  intro h
  exact absurd (mem_kebabCase h) (by decide)

theorem underscore_not_mem_kebabCase (text : String) : '_' ∉ (kebabCase text).toList := by
  intro h
  exact absurd (mem_kebabCase h) (by decide)

end VoiceSkill
