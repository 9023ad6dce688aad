import VoiceSkill.Proofs.Kebab
import VoiceSkill.Proofs.Uuid

/-!
# The words of an identifier

An identifier is put together from the words of a text (`writtenWords`), each in lower case
(`kebabWords_eq_map`). A word is not empty, is made of letters and digits, and does not break
between two of its characters (`isWhole_of_mem_writtenWords`). Whatever is whole is one word to the
reader again (`wordsFrom_eq_singleton_iff`).
-/

namespace VoiceSkill

open Unicode

/-! ## Lower case -/

theorem toLowercase_ne_nil (c : Char) : toLowercase c ≠ [] := by
  rcases toLowercase_cases c with hsame | rfl | ⟨d, hform, _⟩
  · rw [hsame]
    exact List.cons_ne_nil _ _
  · rw [toLowercase_dottedCapital]
    exact List.cons_ne_nil _ _
  · rw [hform]
    exact List.cons_ne_nil _ _

/-- A text in lower case, character by character. -/
def lowered (text : List Char) : List Char := text.flatMap toLowercase

theorem lowered_append (text more : List Char) :
    lowered (text ++ more) = lowered text ++ lowered more := List.flatMap_append

theorem lowered_eq_nil_iff {text : List Char} : lowered text = [] ↔ text = [] := by
  cases text with
  | nil => exact iff_of_true rfl rfl
  | cons c text => simp [lowered, toLowercase_ne_nil]

/-! ## Words as they are written -/

/-- The words of a text as they are written. `word` is the part read of the current word, `previous`
the character before the text that remains. -/
def writtenFrom (word : List Char) (previous : Char) : List Char → List (List Char)
  | [] => if word.isEmpty then [] else [word]
  | c :: rest =>
    if !isAlphanumeric c then
      if word.isEmpty then writtenFrom [] c rest else word :: writtenFrom [] c rest
    else if !word.isEmpty && endsWord previous c rest.head? then word :: writtenFrom [c] c rest
    else writtenFrom (word ++ [c]) c rest

/-- The words of a text as they are written, but for its apostrophes. -/
def writtenWords (text : List Char) : List (List Char) :=
  writtenFrom [] ' ' (text.filter fun c => !isApostrophe c)

theorem wordsFrom_lowered (word : List Char) (previous : Char) (text : List Char) :
    wordsFrom (lowered word) previous text = (writtenFrom word previous text).map lowered := by
  have hempty (word : List Char) : (lowered word).isEmpty = word.isEmpty := by
    rw [Bool.eq_iff_iff, List.isEmpty_iff, List.isEmpty_iff, lowered_eq_nil_iff]
  induction text generalizing word previous with
  | nil =>
      rw [wordsFrom, writtenFrom, hempty]
      split <;> rfl
  | cons c text ih =>
      have hnone := ih [] c
      have hsingle : wordsFrom (toLowercase c) c text = (writtenFrom [c] c text).map lowered := by
        rw [← ih [c] c, lowered, List.flatMap_singleton]
      have hlonger : wordsFrom (lowered word ++ toLowercase c) c text =
          (writtenFrom (word ++ [c]) c text).map lowered := by
        rw [← ih (word ++ [c]) c, lowered_append, lowered, lowered, List.flatMap_singleton]
      rw [wordsFrom, writtenFrom, hempty]
      split
      · split
        · exact hnone
        · rw [List.map_cons, ← hnone]
          rfl
      · split
        · rw [List.map_cons, hsingle]
        · exact hlonger

/-- **An identifier is made of the words of its text in lower case.** -/
theorem kebabWords_eq_map (text : List Char) :
    kebabWords text = (writtenWords text).map lowered :=
  wordsFrom_lowered [] ' ' _

theorem flatten_writtenFrom (word : List Char) (previous : Char) (text : List Char) :
    (writtenFrom word previous text).flatten = word ++ text.filter isAlphanumeric := by
  induction text generalizing word previous with
  | nil =>
      rw [writtenFrom]
      split
      · rename_i hword
        rw [List.isEmpty_iff.1 hword]
        rfl
      · simp
  | cons c text ih =>
      rw [writtenFrom]
      cases hc : isAlphanumeric c with
      | false =>
          rw [List.filter_cons_of_neg (by simp [hc])]
          cases hword : word.isEmpty with
          | true =>
              rw [List.isEmpty_iff.1 hword]
              exact ih [] c
          | false => exact congrArg (word ++ ·) (ih [] c)
      | true =>
          rw [List.filter_cons_of_pos hc]
          split
          · rename_i hfalse
            cases hfalse
          · split
            · rw [List.flatten_cons, ih, List.singleton_append]
            · rw [ih, List.append_assoc, List.singleton_append]

/-- **The words of a text are its letters and digits**, in their order. -/
theorem flatten_writtenWords (text : List Char) :
    (writtenWords text).flatten =
      (text.filter fun c => !isApostrophe c).filter isAlphanumeric :=
  flatten_writtenFrom [] ' ' _

theorem mem_of_mem_writtenWords {text word : List Char} {c : Char}
    (hword : word ∈ writtenWords text) (hc : c ∈ word) : c ∈ text := by
  have hmem : c ∈ (writtenWords text).flatten := List.mem_flatten.2 ⟨word, hword, hc⟩
  rw [flatten_writtenWords] at hmem
  exact (List.mem_filter.1 (List.mem_filter.1 hmem).1).1

/-! ## Whole words -/

/-- No word ends between two neighbours of a row of characters. -/
def Unbroken : List Char → Prop
  | previous :: c :: rest => endsWord previous c rest.head? = false ∧ Unbroken (c :: rest)
  | _ => True

/-- A word in one piece: not empty, of letters and digits, and not broken. -/
structure IsWhole (word : List Char) : Prop where
  nonempty : word ≠ []
  alphanumeric : ∀ c ∈ word, isAlphanumeric c = true
  unbroken : Unbroken word

/-- A word ends earlier, if at all, when it is known what follows. -/
theorem endsWord_none {previous c : Char} {next : Option Char}
    (h : endsWord previous c next = false) : endsWord previous c none = false := by
  simp only [endsWord, Bool.or_eq_false_iff, Option.any_none, Bool.and_false] at h ⊢
  exact ⟨h.1, trivial⟩

/-- Reading on from the midst of a word: some of the text belongs to the word, and the other words
have nothing to do with how it began. -/
theorem exists_rest_writtenFrom (previous : Char) (text : List Char) :
    (∃ rest words, rest <+: text ∧ (∀ c ∈ rest, isAlphanumeric c = true) ∧
      Unbroken (previous :: rest) ∧ (∀ w ∈ words, IsWhole w) ∧
      ∀ word ≠ [], writtenFrom word previous text = (word ++ rest) :: words) ∧
    ∀ w ∈ writtenFrom [] previous text, IsWhole w := by
  induction text generalizing previous with
  | nil =>
      refine ⟨⟨[], [], List.prefix_refl [], ?_, trivial, ?_, ?_⟩, ?_⟩
      · exact fun c hc => absurd hc List.not_mem_nil
      · exact fun w hw => absurd hw List.not_mem_nil
      · intro word hword
        rw [writtenFrom, List.isEmpty_eq_false_iff.2 hword, List.append_nil]
        rfl
      · exact fun w hw => absurd hw List.not_mem_nil
  | cons c text ih =>
      obtain ⟨⟨rest, words, hprefix, hrest, hunbroken, hwords, hwritten⟩, hnew⟩ := ih c
      -- the words of a text that begins with a letter or digit
      have hbegun (hc : isAlphanumeric c = true) : ∀ w ∈ writtenFrom [c] c text, IsWhole w := by
        rw [hwritten [c] (List.cons_ne_nil _ _)]
        intro w hw
        rcases List.mem_cons.1 hw with rfl | hw
        · exact ⟨List.cons_ne_nil _ _, List.forall_mem_cons.2 ⟨hc, hrest⟩, hunbroken⟩
        · exact hwords w hw
      cases hc : isAlphanumeric c with
      | false =>
          refine ⟨⟨[], writtenFrom [] c text, List.nil_prefix, ?_, trivial, hnew, ?_⟩, ?_⟩
          · exact fun d hd => absurd hd List.not_mem_nil
          · intro word hword
            rw [writtenFrom, hc, List.isEmpty_eq_false_iff.2 hword, List.append_nil]
            rfl
          · rw [writtenFrom, hc]
            exact hnew
      | true =>
          constructor
          · cases hends : endsWord previous c text.head? with
            | true =>
                refine ⟨[], writtenFrom [c] c text, List.nil_prefix, ?_, trivial, hbegun hc, ?_⟩
                · exact fun d hd => absurd hd List.not_mem_nil
                · intro word hword
                  rw [writtenFrom, hc, hends, List.isEmpty_eq_false_iff.2 hword, List.append_nil]
                  rfl
            | false =>
                refine ⟨c :: rest, words, (List.prefix_cons_inj c).2 hprefix,
                  List.forall_mem_cons.2 ⟨hc, hrest⟩, ⟨?_, hunbroken⟩, hwords, ?_⟩
                · -- within the word the same character follows, or none
                  cases rest with
                  | nil => exact endsWord_none hends
                  | cons d rest =>
                      obtain ⟨more, rfl⟩ := hprefix
                      exact hends
                · intro word hword
                  rw [List.append_cons word c rest, writtenFrom, hc, hends, Bool.and_false]
                  exact hwritten _ (List.append_ne_nil_of_left_ne_nil hword _)
          · rw [writtenFrom, hc]
            exact hbegun hc

/-- **The words of a text are whole.** -/
theorem isWhole_of_mem_writtenWords {text word : List Char} (h : word ∈ writtenWords text) :
    IsWhole word :=
  (exists_rest_writtenFrom ' ' _).2 word h

/-! ## Whole words read again -/

/-- The first word goes on with what was read of it. -/
theorem exists_wordsFrom_eq_cons {word : List Char} (hword : word ≠ []) (previous : Char)
    (text : List Char) : ∃ rest words, wordsFrom word previous text = (word ++ rest) :: words := by
  induction text generalizing word previous with
  | nil => exact ⟨[], [], by rw [wordsFrom, List.isEmpty_eq_false_iff.2 hword]; simp⟩
  | cons c text ih =>
      rw [wordsFrom, List.isEmpty_eq_false_iff.2 hword]
      split
      · exact ⟨[], _, by rw [List.append_nil]; rfl⟩
      · split
        · exact ⟨[], _, by rw [List.append_nil]⟩
        · obtain ⟨rest, words, hwords⟩ := ih (List.append_ne_nil_of_left_ne_nil hword _) c
          exact ⟨toLowercase c ++ rest, words, by rw [hwords, List.append_assoc]⟩

/-- Letters and digits behind what was read of a word belong to it exactly if nothing breaks it. -/
theorem wordsFrom_eq_iff_unbroken {word text : List Char} {previous : Char} (hword : word ≠ [])
    (htext : ∀ c ∈ text, isAlphanumeric c = true) :
    wordsFrom word previous text = [word ++ lowered text] ↔ Unbroken (previous :: text) := by
  induction text generalizing word previous with
  | nil =>
      rw [wordsFrom, List.isEmpty_eq_false_iff.2 hword]
      exact iff_of_true (by simp [lowered]) trivial
  | cons c text ih =>
      obtain ⟨hc, htext⟩ := List.forall_mem_cons.1 htext
      rw [wordsFrom, hc, List.isEmpty_eq_false_iff.2 hword, Unbroken]
      cases hends : endsWord previous c text.head? with
      | true =>
          -- a second word follows
          obtain ⟨rest, words, hwords⟩ := exists_wordsFrom_eq_cons (toLowercase_ne_nil c) c text
          simp [hwords]
      | false =>
          have hlonger : wordsFrom (word ++ toLowercase c) c text =
              [word ++ toLowercase c ++ lowered text] ↔ Unbroken (c :: text) :=
            ih (List.append_ne_nil_of_left_ne_nil hword _) htext
          rw [List.append_assoc] at hlonger
          simpa [lowered] using hlonger

/-- **Letters and digits are one word exactly if nothing breaks them.** -/
theorem wordsFrom_eq_singleton_iff {text : List Char} (hne : text ≠ [])
    (htext : ∀ c ∈ text, isAlphanumeric c = true) (previous : Char) :
    wordsFrom [] previous text = [lowered text] ↔ Unbroken text := by
  obtain ⟨c, rest, rfl⟩ := List.exists_cons_of_ne_nil hne
  obtain ⟨hc, hrest⟩ := List.forall_mem_cons.1 htext
  rw [← wordsFrom_eq_iff_unbroken (toLowercase_ne_nil c) hrest, wordsFrom, hc]
  rfl

/-! ## Words and identifiers -/

theorem ne_nil_of_mem_kebabWords {text word : List Char} (h : word ∈ kebabWords text) :
    word ≠ [] := by
  rw [kebabWords_eq_map] at h
  obtain ⟨written, hwritten, rfl⟩ := List.mem_map.1 h
  exact mt lowered_eq_nil_iff.1 (isWhole_of_mem_writtenWords hwritten).nonempty

theorem hyphen_not_mem_of_mem_kebabWords {text word : List Char} (h : word ∈ kebabWords text) :
    '-' ∉ word := by
  intro hhyphen
  rcases mem_of_mem_wordsFrom h hhyphen with hnil | ⟨c, _, hc, hlower⟩
  · exact absurd hnil List.not_mem_nil
  · exact absurd (isWordChar_of_mem_toLowercase hc hlower) (by decide)

/-- Words are not empty, so an empty identifier has none. -/
theorem kebabCase_eq_nil_iff {text : String} :
    (kebabCase text).toList = [] ↔ kebabWords text.toList = [] := by
  rw [kebabCase, String.toList_ofList]
  cases hcases : kebabWords text.toList with
  | nil => exact iff_of_true rfl rfl
  | cons word rest =>
      refine iff_of_false ?_ (List.cons_ne_nil word rest)
      cases rest with
      | nil =>
          rw [List.intercalate_singleton]
          exact ne_nil_of_mem_kebabWords (hcases ▸ List.mem_cons_self)
      | cons next rest =>
          rw [intercalate_cons_cons]
          simp

/-- The words of an identifier are what stands between its hyphens. -/
theorem splitAtChar_kebabCase {text : String} (hne : (kebabCase text).toList ≠ []) :
    splitAtChar '-' (kebabCase text).toList = kebabWords text.toList := by
  have hwords := mt kebabCase_eq_nil_iff.2 hne
  rw [kebabCase, String.toList_ofList]
  exact splitAtChar_intercalate hwords fun _ => hyphen_not_mem_of_mem_kebabWords

/-- An identifier tells its words. -/
theorem kebabCase_eq_iff {text other : String} :
    kebabCase text = kebabCase other ↔ kebabWords text.toList = kebabWords other.toList := by
  constructor
  · intro h
    by_cases hne : (kebabCase text).toList = []
    · rw [kebabCase_eq_nil_iff.1 hne]
      rw [h] at hne
      rw [kebabCase_eq_nil_iff.1 hne]
    · rw [← splitAtChar_kebabCase hne]
      rw [h] at hne ⊢
      exact splitAtChar_kebabCase hne
  · intro h
    rw [kebabCase, kebabCase, h]

end VoiceSkill
