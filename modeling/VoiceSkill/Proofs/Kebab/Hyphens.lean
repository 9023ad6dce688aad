import VoiceSkill.Proofs.Kebab.Words

/-!
# Where an identifier has its hyphens

An identifier is spelled letter by letter from its text, and whether a hyphen comes in front of a
letter or digit is told by the characters next to it. No letter or digit is lost, and no hyphen
comes first, last or next to another one (`kebabCase_spelled`).
-/

namespace VoiceSkill

open Unicode

/-! ## What is spelled -/

/-- Whether a new word begins with a letter or digit, given the characters around it. -/
def Parts (previous c : Char) (next : Option Char) : Prop :=
  isAlphanumeric previous = false ∨
    (isLowercase previous = true ∧ isUppercase c = true) ∨
    isNumeric previous ≠ isNumeric c ∨
    (isUppercase previous = true ∧ isUppercase c = true ∧ ∃ n ∈ next, isLowercase n = true)

instance (previous c : Char) (next : Option Char) : Decidable (Parts previous c next) :=
  inferInstanceAs (Decidable (_ ∨ _))

/-- Whether a hyphen comes in front of the letter or digit at a place of a text: it is not the first
one, and begins a new word. -/
def HyphenBefore (text : List Char) (i : Nat) : Prop :=
  (∃ b ∈ text.take i, isAlphanumeric b = true) ∧
    ∃ previous ∈ text[i - 1]?, ∃ c ∈ text[i]?, Parts previous c text[i + 1]?

instance (text : List Char) (i : Nat) : Decidable (HyphenBefore text i) :=
  inferInstanceAs (Decidable (_ ∧ _))

/-- What the letter or digit at a place of a text contributes to the identifier. -/
def spelled (text : List Char) (place : Char × Nat) : List Char :=
  if HyphenBefore text place.2 then '-' :: toLowercase place.1 else toLowercase place.1

/-- What the rest of a text contributes, given what stands before it. -/
def spelledFrom (before rest : List Char) : List Char :=
  ((rest.zipIdx before.length).filter fun place => isAlphanumeric place.1).flatMap
    (spelled (before ++ rest))

theorem spelledFrom_cons_of_not {c : Char} (hc : isAlphanumeric c = false)
    (before rest : List Char) :
    spelledFrom before (c :: rest) = spelledFrom (before ++ [c]) rest := by
  simp [spelledFrom, hc]

theorem spelledFrom_cons {c : Char} (hc : isAlphanumeric c = true) (before rest : List Char) :
    spelledFrom before (c :: rest) =
      spelled (before ++ c :: rest) (c, before.length) ++ spelledFrom (before ++ [c]) rest := by
  simp [spelledFrom, hc]

/-! ## Hyphens and the ends of words -/

theorem parts_iff {previous c : Char} {next : Option Char} :
    Parts previous c next ↔ isAlphanumeric previous = false ∨ endsWord previous c next = true := by
  simp only [Parts, endsWord, Bool.or_eq_true, Bool.and_eq_true, bne_iff_ne, Option.any_eq_true,
    Option.mem_def, or_assoc, and_assoc]

/-- No hyphen comes in front of the first letter or digit. -/
theorem not_hyphenBefore_of_first {before rest : List Char}
    (hfirst : ∀ b ∈ before, isAlphanumeric b = false) :
    ¬ HyphenBefore (before ++ rest) before.length := by
  rintro ⟨⟨b, hb, halphanumeric⟩, _⟩
  rw [List.take_left] at hb
  rw [hfirst b hb] at halphanumeric
  cases halphanumeric

/-- In front of any other one a hyphen comes exactly if its neighbours say so. -/
theorem hyphenBefore_iff {before rest : List Char} {previous c : Char}
    (hlater : ∃ b ∈ before ++ [previous], isAlphanumeric b = true) :
    HyphenBefore (before ++ [previous] ++ c :: rest) (before ++ [previous]).length ↔
      Parts previous c rest.head? := by
  have hprevious : (before ++ [previous] ++ c :: rest)[(before ++ [previous]).length - 1]? =
      some previous := by simp
  have hc : (before ++ [previous] ++ c :: rest)[(before ++ [previous]).length]? = some c := by
    simp
  have hnext : (before ++ [previous] ++ c :: rest)[(before ++ [previous]).length + 1]? =
      rest.head? := by
    rw [List.getElem?_append_right (by omega), Nat.add_sub_cancel_left, List.getElem?_cons_succ,
      List.head?_eq_getElem?]
  rw [HyphenBefore, hprevious, hc, hnext, List.take_left, and_iff_right hlater]
  simp

/-! ## Words put together -/

/-- Words with a hyphen in front of each. -/
def hyphened (words : List (List Char)) : List Char := words.flatMap ('-' :: ·)

theorem hyphened_cons (word : List Char) (words : List (List Char)) :
    hyphened (word :: words) = '-' :: word ++ hyphened words := List.flatMap_cons

/-- A hyphen in front of each word is one in front of the first and one between any two. -/
theorem intercalate_of_hyphened {words : List (List Char)} {text : List Char}
    (h : hyphened words = '-' :: text) : ['-'].intercalate words = text := by
  induction words generalizing text with
  | nil => cases h
  | cons word words ih =>
      rw [hyphened_cons, List.cons_append, List.cons.injEq] at h
      rw [← h.2]
      cases words with
      | nil => simp [hyphened]
      | cons next words =>
          rw [intercalate_cons_cons, ih (hyphened_cons next words), hyphened_cons]
          rfl

/-- **Reading on behind the first letter or digit.** In the midst of a word what follows is spelled
behind what was read of it; between two words a new one is spelled with its hyphen. -/
theorem hyphened_wordsFrom (before : List Char) (previous : Char) (rest : List Char) :
    (isAlphanumeric previous = true → ∀ word ≠ [],
      hyphened (wordsFrom word previous rest) =
        '-' :: word ++ spelledFrom (before ++ [previous]) rest) ∧
    (isAlphanumeric previous = false → (∃ b ∈ before, isAlphanumeric b = true) →
      hyphened (wordsFrom [] previous rest) = spelledFrom (before ++ [previous]) rest) := by
  induction rest generalizing before previous with
  | nil =>
      constructor
      · intro _ word hword
        rw [wordsFrom, List.isEmpty_eq_false_iff.2 hword]
        rfl
      · exact fun _ _ => rfl
  | cons c rest ih =>
      obtain ⟨hwithin, hbetween⟩ := ih (before ++ [previous]) c
      constructor
      · intro hprevious word hword
        have hlater : ∃ b ∈ before ++ [previous], isAlphanumeric b = true :=
          ⟨previous, by simp, hprevious⟩
        rw [wordsFrom, List.isEmpty_eq_false_iff.2 hword]
        cases hc : isAlphanumeric c with
        | false =>
            rw [spelledFrom_cons_of_not hc, ← hbetween hc hlater]
            exact hyphened_cons word _
        | true =>
            rw [spelledFrom_cons hc, spelled]
            simp only [hyphenBefore_iff hlater, parts_iff, hprevious, Bool.true_eq_false, false_or,
              Bool.not_true, Bool.not_false, Bool.true_and, Bool.false_eq_true, if_false]
            split
            · rw [hyphened_cons, hwithin hc _ (toLowercase_ne_nil c)]
            · rw [hwithin hc _ (List.append_ne_nil_of_left_ne_nil hword _)]
              simp
      · rintro hprevious ⟨b, hb, halphanumeric⟩
        have hlater : ∃ b ∈ before ++ [previous], isAlphanumeric b = true :=
          ⟨b, List.mem_append_left _ hb, halphanumeric⟩
        rw [wordsFrom]
        cases hc : isAlphanumeric c with
        | false =>
            rw [spelledFrom_cons_of_not hc]
            exact hbetween hc hlater
        | true =>
            rw [spelledFrom_cons hc, spelled,
              if_pos ((hyphenBefore_iff hlater).2 (parts_iff.2 (Or.inl hprevious)))]
            exact hwithin hc _ (toLowercase_ne_nil c)

/-- Reading up to the first letter or digit. -/
theorem intercalate_wordsFrom (before : List Char) (previous : Char) (rest : List Char)
    (hfirst : ∀ b ∈ before, isAlphanumeric b = false) :
    ['-'].intercalate (wordsFrom [] previous rest) = spelledFrom before rest := by
  induction rest generalizing before previous with
  | nil => rfl
  | cons c rest ih =>
      rw [wordsFrom]
      cases hc : isAlphanumeric c with
      | false =>
          rw [spelledFrom_cons_of_not hc]
          refine ih (before ++ [c]) c fun b hb => ?_
          rcases List.mem_append.1 hb with hb | hb
          · exact hfirst b hb
          · rw [List.mem_singleton.1 hb, hc]
      | true =>
          rw [spelledFrom_cons hc, spelled, if_neg (not_hyphenBefore_of_first hfirst)]
          exact intercalate_of_hyphened
            ((hyphened_wordsFrom before c rest).1 hc _ (toLowercase_ne_nil c))

/-! ## Letters and hyphens -/

theorem filter_intercalate {words : List (List Char)} (h : ∀ word ∈ words, '-' ∉ word) :
    (['-'].intercalate words).filter (· != '-') = words.flatten := by
  induction words with
  | nil => rfl
  | cons word words ih =>
      obtain ⟨hword, hwords⟩ := List.forall_mem_cons.1 h
      have hkept : word.filter (· != '-') = word := by
        rw [List.filter_eq_self]
        intro c hc
        exact bne_iff_ne.2 fun heq => hword (heq ▸ hc)
      cases words with
      | nil => simpa using hkept
      | cons next words =>
          rw [intercalate_cons_cons, List.filter_append, List.filter_cons_of_neg (by simp), hkept,
            ih hwords]
          rfl

/-- Hyphens apart, an identifier is the lower-case form of the letters and digits of its text. -/
theorem filter_kebabCase (text : String) :
    (kebabCase text).toList.filter (· != '-') =
      ((text.toList.filter fun c => !isApostrophe c).filter isAlphanumeric).flatMap
        toLowercase := by
  rw [kebabCase, String.toList_ofList,
    filter_intercalate fun _ => hyphen_not_mem_of_mem_kebabWords, kebabWords_eq_map,
    ← flatten_writtenWords]
  induction writtenWords text.toList with
  | nil => rfl
  | cons word words ih =>
      rw [List.map_cons, List.flatten_cons, List.flatten_cons, List.flatMap_append, ih]
      rfl

/-- Something stands on both sides of a hyphen, and it is no other hyphen. -/
theorem nil_not_mem_of_kebabCase_eq_append {text : String} {front back : List Char}
    (h : (kebabCase text).toList = front ++ '-' :: back) :
    [] ∉ splitAtChar '-' front ∧ [] ∉ splitAtChar '-' back := by
  have hne : (kebabCase text).toList ≠ [] := by
    rw [h]
    simp
  have hwords := splitAtChar_kebabCase hne
  rw [h, splitAtChar_append] at hwords
  constructor
  · intro hnil
    exact ne_nil_of_mem_kebabWords (hwords ▸ List.mem_append_left _ hnil) rfl
  · intro hnil
    exact ne_nil_of_mem_kebabWords (hwords ▸ List.mem_append_right _ hnil) rfl

/-- **Where an identifier has its hyphens.** Apostrophes apart, the identifier of a text is spelled
from the letters and digits of the text in their order, each in lower case and with a hyphen in
front of it where its neighbours ask for one. So none of them is lost, and no hyphen comes first,
last or next to another one. -/
theorem kebabCase_spelled (text : String) :
    let kept := text.toList.filter fun c => !isApostrophe c
    (kebabCase text).toList =
        (kept.zipIdx.filter fun place => isAlphanumeric place.1).flatMap (spelled kept) ∧
      (kebabCase text).toList.filter (· != '-') =
        (kept.filter isAlphanumeric).flatMap toLowercase ∧
      (∀ c, toLowercase c ≠ []) ∧
      (kebabCase text).toList.head? ≠ some '-' ∧
      (kebabCase text).toList.getLast? ≠ some '-' ∧
      ¬ ['-', '-'] <:+: (kebabCase text).toList := by
  intro kept
  refine ⟨?_, filter_kebabCase text, toLowercase_ne_nil, ?_, ?_, ?_⟩
  · rw [kebabCase, String.toList_ofList, kebabWords]
    exact intercalate_wordsFrom [] ' ' kept fun _ hb => absurd hb List.not_mem_nil
  · intro hhead
    obtain ⟨back, hback⟩ := List.head?_eq_some_iff.1 hhead
    have hsplit : (kebabCase text).toList = [] ++ '-' :: back := hback
    exact (nil_not_mem_of_kebabCase_eq_append hsplit).1 (by decide)
  · intro hlast
    obtain ⟨front, hfront⟩ := List.getLast?_eq_some_iff.1 hlast
    exact (nil_not_mem_of_kebabCase_eq_append hfront).2 (by decide)
  · rintro ⟨front, back, hdouble⟩
    have hsplit : (kebabCase text).toList = front ++ '-' :: ('-' :: back) := by
      rw [← hdouble, List.append_assoc]
      rfl
    exact (nil_not_mem_of_kebabCase_eq_append hsplit).2 (by simp [splitAtChar])

example : kebabCase "don't stop HTMLParser2" = "dont-stop-html-parser-2" := by decide +kernel

end VoiceSkill
