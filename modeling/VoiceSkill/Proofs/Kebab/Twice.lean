import VoiceSkill.Proofs.Kebab.Words

/-!
# Identifiers made into identifiers

An identifier that is put through once more is cut into words by its own characters, which need not
fall apart where those of the text did. It stays as it is exactly if each word of the text keeps
together in lower case, and after the second time it always does (`kebabCase_kebabCase`).
-/

namespace VoiceSkill

open Unicode

/-! ## Characters in lower case -/

/-- A character with a lower-case form other than itself. -/
def hasSmallForm (c : Char) : Bool := toLowercase c != [c]

/-- An upper-case character without a lower-case form. -/
def isBareCapital (c : Char) : Bool := isUppercase c && !hasSmallForm c

/-- A character is its own lower-case form from the first one on. -/
theorem toLowercase_of_mem_toLowercase {c d : Char} (h : d ∈ toLowercase c) :
    toLowercase d = [d] := by
  rcases toLowercase_cases c with hsame | rfl | ⟨e, hform, hlower, _⟩
  · rw [hsame, List.mem_singleton] at h
    rw [h, hsame]
  · rw [toLowercase_dottedCapital] at h
    rcases List.mem_pair.1 h with rfl | rfl
    · decide
    · exact combiningDot.2
  · rw [hform, List.mem_singleton] at h
    rw [h, toLowercase_of_isLowercase hlower]

theorem lowered_lowered (text : List Char) : lowered (lowered text) = lowered text := by
  have hself : ∀ d ∈ lowered text, toLowercase d = [d] := by
    intro d hd
    obtain ⟨c, _, hd⟩ := List.mem_flatMap.1 hd
    exact toLowercase_of_mem_toLowercase hd
  rw [lowered, List.flatMap_congr hself, List.flatMap_singleton']

/-- What the lower-case form of a character is, if it is a single character. -/
theorem exists_form {c : Char} (hc : c ≠ dottedCapital) :
    ∃ d, toLowercase c = [d] ∧ isNumeric d = isNumeric c ∧
      isLowercase d = (isLowercase c || hasSmallForm c) ∧ isUppercase d = isBareCapital c ∧
      (isAlphanumeric c = true → isAlphanumeric d = true) := by
  rcases toLowercase_cases c with hsame | rfl | ⟨d, hform, hlower, hnumeric⟩
  · have hsmall : hasSmallForm c = false := by rw [hasSmallForm, hsame, bne_self_eq_false]
    exact ⟨c, hsame, rfl, by rw [hsmall, Bool.or_false], by rw [isBareCapital, hsmall]; simp, id⟩
  · exact absurd rfl hc
  · refine ⟨d, hform, hnumeric, ?_, ?_, fun _ => isAlphanumeric_of_isLowercase hlower⟩
    all_goals
      by_cases hsame : d = c
      · rw [hsame] at hlower
        simp [hsame, hlower, isBareCapital, isUppercase_of_isLowercase hlower]
      · have hsmall : hasSmallForm c = true := by simp [hasSmallForm, hform, hsame]
        simp [hlower, hsmall, isBareCapital, isUppercase_of_isLowercase hlower]

/-! ## Words that keep together -/

/-- A word keeps together in lower case: it has no dotted capital, no character with a small form in
front of a bare capital, and no two bare capitals in front of a character with a small form. -/
structure KeepsTogether (word : List Char) : Prop where
  undotted : dottedCapital ∉ word
  pairs : ∀ p c, [p, c] <:+: word → hasSmallForm p = true → isBareCapital c = false
  triples : ∀ p c n, [p, c, n] <:+: word → isBareCapital p = true → isBareCapital c = true →
    hasSmallForm n = false

theorem keepsTogether_cons_cons_iff {p c : Char} {rest : List Char} :
    KeepsTogether (p :: c :: rest) ↔
      p ≠ dottedCapital ∧ (hasSmallForm p = true → isBareCapital c = false) ∧
        (isBareCapital p = true → isBareCapital c = true → rest.head?.any hasSmallForm = false) ∧
        KeepsTogether (c :: rest) := by
  constructor
  · rintro ⟨hundotted, hpairs, htriples⟩
    rw [List.mem_cons, not_or] at hundotted
    refine ⟨Ne.symm hundotted.1, hpairs p c (List.infix_append [] [p, c] rest), ?_,
      hundotted.2, ?_, ?_⟩
    · intro hp hc
      cases rest with
      | nil => rfl
      | cons n rest => exact htriples p c n (List.infix_append [] [p, c, n] rest) hp hc
    · exact fun q d h => hpairs q d (h.trans (List.infix_cons_iff.2 (Or.inr (List.infix_refl _))))
    · exact fun q d n h =>
        htriples q d n (h.trans (List.infix_cons_iff.2 (Or.inr (List.infix_refl _))))
  · rintro ⟨hp, hpair, htriple, hundotted, hpairs, htriples⟩
    refine ⟨?_, ?_, ?_⟩
    · rw [List.mem_cons, not_or]
      exact ⟨Ne.symm hp, hundotted⟩
    · intro q d h
      rcases List.infix_cons_iff.1 h with h | h
      · simp only [List.cons_prefix_cons] at h
        obtain ⟨rfl, rfl, _⟩ := h
        exact hpair
      · exact hpairs q d h
    · intro q d n h
      rcases List.infix_cons_iff.1 h with h | h
      · simp only [List.cons_prefix_cons] at h
        obtain ⟨rfl, rfl, more, rfl⟩ := h
        exact htriple
      · exact htriples q d n h

theorem keepsTogether_of_length_lt {word : List Char} (h : word.length < 2)
    (hundotted : dottedCapital ∉ word) : KeepsTogether word := by
  refine ⟨hundotted, ?_, ?_⟩
  · intro p c hinfix
    have hlength := hinfix.length_le
    simp only [List.length_cons, List.length_nil] at hlength
    omega
  · intro p c n hinfix
    have hlength := hinfix.length_le
    simp only [List.length_cons, List.length_nil] at hlength
    omega

/-- Where a word does not end as it is written, its lower-case form breaks for two reasons only. -/
theorem endsWord_forms {p c p' c' : Char} {next next' : Option Char}
    (hunbroken : endsWord p c next = false)
    (hnumeric : isNumeric p' = isNumeric p) (hnumeric' : isNumeric c' = isNumeric c)
    (hlower : isLowercase p' = (isLowercase p || hasSmallForm p))
    (hupper : isUppercase p' = isBareCapital p) (hupper' : isUppercase c' = isBareCapital c)
    (hnext : next'.any isLowercase = (next.any isLowercase || next.any hasSmallForm)) :
    endsWord p' c' next' = ((hasSmallForm p && isBareCapital c) ||
      (isBareCapital p && isBareCapital c && next.any hasSmallForm)) := by
  simp only [endsWord, hnumeric, hnumeric', hlower, hupper, hupper', hnext]
  simp only [endsWord, Bool.or_eq_false_iff, bne_eq_false_iff_eq] at hunbroken
  obtain ⟨⟨hcamel, hdigits⟩, hacronym⟩ := hunbroken
  simp only [hdigits, bne_self_eq_false, Bool.or_false, isBareCapital]
  revert hcamel hacronym
  cases isLowercase p <;> cases isUppercase p <;> cases isUppercase c <;>
    cases next.any isLowercase <;> simp

theorem head?_lowered_any {text : List Char} (hundotted : dottedCapital ∉ text) :
    (lowered text).head?.any isLowercase =
      (text.head?.any isLowercase || text.head?.any hasSmallForm) := by
  cases text with
  | nil => rfl
  | cons c text =>
      rw [List.mem_cons, not_or] at hundotted
      obtain ⟨d, hform, _, hlower, _⟩ := exists_form (Ne.symm hundotted.1)
      rw [lowered, List.flatMap_cons, hform]
      exact hlower

/-- **A word is whole in lower case exactly if it keeps together.** -/
theorem unbroken_lowered_iff {word : List Char} (hunbroken : Unbroken word)
    (hundotted : dottedCapital ∉ word) : Unbroken (lowered word) ↔ KeepsTogether word := by
  induction word with
  | nil => exact iff_of_true trivial (keepsTogether_of_length_lt (by simp) hundotted)
  | cons p word ih =>
      have hrest := hundotted
      rw [List.mem_cons, not_or] at hrest
      obtain ⟨p', hp', hnumeric, hlower, hupper, _⟩ := exists_form (Ne.symm hrest.1)
      cases word with
      | nil =>
          refine iff_of_true ?_ (keepsTogether_of_length_lt (by simp) hundotted)
          rw [lowered, List.flatMap_singleton, hp']
          trivial
      | cons c word =>
          have hundottedRest := hrest.2
          rw [List.mem_cons, not_or] at hundottedRest
          obtain ⟨c', hc', hnumeric', _, hupper', _⟩ := exists_form (Ne.symm hundottedRest.1)
          have htail : lowered (c :: word) = c' :: lowered word := by
            rw [lowered, List.flatMap_cons, hc']
            rfl
          have hall : lowered (p :: c :: word) = p' :: c' :: lowered word := by
            rw [← htail, lowered, List.flatMap_cons, hp']
            rfl
          obtain ⟨hpair, hunbroken⟩ := hunbroken
          rw [keepsTogether_cons_cons_iff, ← ih hunbroken hrest.2, htail, hall, Unbroken,
            endsWord_forms hpair hnumeric hnumeric' hlower hupper hupper'
              (head?_lowered_any hundottedRest.2)]
          simp [Ne.symm hrest.1, and_assoc]

/-! ## Words read again -/

theorem isAlphanumeric_of_mem_toLowercase {c d : Char} (hundotted : c ≠ dottedCapital)
    (hc : isAlphanumeric c = true) (hd : d ∈ toLowercase c) : isAlphanumeric d = true := by
  obtain ⟨e, hform, _, _, _, halphanumeric⟩ := exists_form hundotted
  rw [hform, List.mem_singleton] at hd
  rw [hd]
  exact halphanumeric hc

theorem isAlphanumeric_of_mem_lowered {word : List Char} (hundotted : dottedCapital ∉ word)
    (hword : ∀ c ∈ word, isAlphanumeric c = true) :
    ∀ d ∈ lowered word, isAlphanumeric d = true := by
  intro d hd
  obtain ⟨c, hc, hd⟩ := List.mem_flatMap.1 hd
  exact isAlphanumeric_of_mem_toLowercase (fun heq => hundotted (heq ▸ hc)) (hword c hc) hd

/-- The lower-case form of a whole word is one word again exactly if the word keeps together. -/
theorem wordsFrom_lowered_eq_iff {word : List Char} (h : IsWhole word) :
    wordsFrom [] ' ' (lowered word) = [lowered word] ↔ KeepsTogether word := by
  by_cases hdotted : dottedCapital ∈ word
  · refine iff_of_false ?_ fun htogether => htogether.undotted hdotted
    intro hsame
    -- the dot of the dotted capital is no letter, so it is lost
    have hdot : '\u0307' ∈ lowered word :=
      List.mem_flatMap.2 ⟨dottedCapital, hdotted, by rw [toLowercase_dottedCapital]; simp⟩
    have hmem : lowered word ∈ wordsFrom [] ' ' (lowered word) := by
      rw [hsame]
      exact List.mem_singleton_self _
    rcases mem_of_mem_wordsFrom hmem hdot with hnil | ⟨c, hc, halphanumeric, hlower⟩
    · exact absurd hnil List.not_mem_nil
    · obtain ⟨e, _, hc⟩ := List.mem_flatMap.1 hc
      rw [toLowercase_of_mem_toLowercase hc, List.mem_singleton] at hlower
      rw [← hlower, combiningDot.1] at halphanumeric
      cases halphanumeric
  · have hne : lowered word ≠ [] := mt lowered_eq_nil_iff.1 h.nonempty
    rw [← unbroken_lowered_iff h.unbroken hdotted,
      ← wordsFrom_eq_singleton_iff hne (isAlphanumeric_of_mem_lowered hdotted h.alphanumeric) ' ',
      lowered_lowered]

/-- A letter or digit begins a word. -/
theorem wordsFrom_lowered_ne_nil {word : List Char} (h : IsWhole word) :
    wordsFrom [] ' ' (lowered word) ≠ [] := by
  obtain ⟨c, rest, rfl⟩ := List.exists_cons_of_ne_nil h.nonempty
  have hhead : ∃ d more, toLowercase c = d :: more ∧ isAlphanumeric d = true := by
    by_cases hc : c = dottedCapital
    · rw [hc]
      exact ⟨'i', ['\u0307'], toLowercase_dottedCapital, by decide⟩
    · obtain ⟨d, hform, _, _, _, halphanumeric⟩ := exists_form hc
      exact ⟨d, [], hform, halphanumeric (h.alphanumeric c List.mem_cons_self)⟩
  obtain ⟨d, more, hform, hd⟩ := hhead
  obtain ⟨_, _, hwords⟩ :=
    exists_wordsFrom_eq_cons (toLowercase_ne_nil d) d (more ++ lowered rest)
  have hlowered : lowered (c :: rest) = d :: (more ++ lowered rest) := by
    rw [lowered, List.flatMap_cons, hform]
    rfl
  rw [hlowered, wordsFrom, hd]
  simp [hwords]

/-- With no word begun it does not matter what stands in front. -/
theorem wordsFrom_nil_congr (previous other : Char) (text : List Char) :
    wordsFrom [] previous text = wordsFrom [] other text := by
  cases text with
  | nil => rfl
  | cons c text => simp [wordsFrom]

theorem wordsFrom_append_hyphen (word : List Char) (previous : Char) (text more : List Char) :
    wordsFrom word previous (text ++ '-' :: more) =
      wordsFrom word previous text ++ wordsFrom [] ' ' more := by
  have hhyphen : isAlphanumeric '-' = false := by decide
  induction text generalizing word previous with
  | nil =>
      rw [wordsFrom, List.nil_append, wordsFrom.eq_2, hhyphen, wordsFrom_nil_congr '-' ' ']
      cases word.isEmpty <;> rfl
  | cons c text ih =>
      -- a hyphen behind a character ends no word in front of it
      have hnext : endsWord previous c (text ++ '-' :: more).head? =
          endsWord previous c text.head? := by
        cases text with
        | nil =>
            have hlower : isLowercase '-' = false := by decide
            simp [endsWord, hlower]
        | cons d text => rfl
      rw [List.cons_append, wordsFrom, wordsFrom, hnext, ih, ih, ih]
      split
      · split <;> rfl
      · split <;> rfl

theorem wordsFrom_intercalate (words : List (List Char)) :
    wordsFrom [] ' ' (['-'].intercalate words) = words.flatMap (wordsFrom [] ' ') := by
  induction words with
  | nil => rfl
  | cons word words ih =>
      cases words with
      | nil => rw [List.intercalate_singleton, List.flatMap_singleton]
      | cons next rest =>
          rw [intercalate_cons_cons, wordsFrom_append_hyphen, ih]
          rfl

/-! ## Identifiers read again -/

theorem isApostrophe_of_isAlphanumeric {c : Char} (h : isAlphanumeric c = true) :
    isApostrophe c = false := by
  rw [isApostrophe, Bool.or_eq_false_iff]
  refine ⟨beq_false_of_ne ?_, beq_false_of_ne ?_⟩
  · rintro rfl
    exact absurd h (by decide)
  · rintro rfl
    exact absurd h (by decide +kernel)

theorem isApostrophe_of_mem_kebabCase {text : String} {d : Char}
    (h : d ∈ (kebabCase text).toList) : isApostrophe d = false := by
  rcases mem_kebabCase_cases h with rfl | ⟨c, hc, hd⟩
  · decide
  · by_cases hdotted : c = dottedCapital
    · rw [hdotted, toLowercase_dottedCapital] at hd
      rcases List.mem_pair.1 hd with rfl | rfl <;> decide
    · exact isApostrophe_of_isAlphanumeric (isAlphanumeric_of_mem_toLowercase hdotted hc hd)

/-- The words of an identifier are those of its words. -/
theorem kebabWords_kebabCase (text : String) :
    kebabWords (kebabCase text).toList = (kebabWords text.toList).flatMap (wordsFrom [] ' ') := by
  have hkept : ((kebabCase text).toList.filter fun c => !isApostrophe c) =
      (kebabCase text).toList := by
    rw [List.filter_eq_self]
    intro d hd
    rw [isApostrophe_of_mem_kebabCase hd]
    rfl
  rw [kebabWords, hkept, kebabCase, String.toList_ofList, wordsFrom_intercalate]

theorem length_le_length_flatMap {α : Type} {f : α → List α} {l : List α}
    (hne : ∀ a ∈ l, f a ≠ []) : l.length ≤ (l.flatMap f).length := by
  induction l with
  | nil => exact Nat.le_refl 0
  | cons a l ih =>
      obtain ⟨ha, hl⟩ := List.forall_mem_cons.1 hne
      have hpos := List.length_pos_iff.2 ha
      have hrest := ih hl
      rw [List.flatMap_cons, List.length_append, List.length_cons]
      omega

/-- Where nothing is lost, a list stays as it is exactly if each of its elements does. -/
theorem flatMap_eq_self_iff {α : Type} {f : α → List α} {l : List α} (hne : ∀ a ∈ l, f a ≠ []) :
    l.flatMap f = l ↔ ∀ a ∈ l, f a = [a] := by
  induction l with
  | nil => exact iff_of_true rfl fun _ h => absurd h List.not_mem_nil
  | cons a l ih =>
      obtain ⟨ha, hl⟩ := List.forall_mem_cons.1 hne
      rw [List.forall_mem_cons, ← ih hl, List.flatMap_cons]
      constructor
      · intro h
        -- were there two elements for the first one, there would be too few for the rest
        obtain ⟨b, more, hcons⟩ := List.exists_cons_of_ne_nil ha
        rw [hcons, List.cons_append, List.cons.injEq] at h
        have hlength := congrArg List.length h.2
        rw [List.length_append] at hlength
        have hmore : more = [] := by
          rw [← List.length_eq_zero_iff]
          have hle := length_le_length_flatMap hl
          omega
        rw [hmore, List.nil_append] at h
        exact ⟨by rw [hcons, hmore, h.1], h.2⟩
      · rintro ⟨hfirst, hrest⟩
        rw [hfirst, hrest, List.singleton_append]

/-- An identifier stays as it is exactly if the words it was made of keep together. -/
theorem kebabCase_settled_iff (text : String) :
    kebabCase (kebabCase text) = kebabCase text ↔
      ∀ word ∈ writtenWords text.toList, KeepsTogether word := by
  have hwhole {word : List Char} (hword : word ∈ writtenWords text.toList) : IsWhole word :=
    isWhole_of_mem_writtenWords hword
  rw [kebabCase_eq_iff, kebabWords_kebabCase, kebabWords_eq_map, flatMap_eq_self_iff,
    List.forall_mem_map]
  · exact forall₂_congr fun word hword => wordsFrom_lowered_eq_iff (hwhole hword)
  · exact List.forall_mem_map.2 fun word hword => wordsFrom_lowered_ne_nil (hwhole hword)

theorem KeepsTogether.of_forall_not_isBareCapital {word : List Char}
    (h : ∀ c ∈ word, c ≠ dottedCapital ∧ isBareCapital c = false) : KeepsTogether word := by
  refine ⟨fun hdotted => (h _ hdotted).1 rfl, ?_, ?_⟩
  · exact fun p c hpair _ => (h c (hpair.subset (by simp))).2
  · intro p c n htriple hp _
    rw [(h p (htriple.subset (by simp))).2] at hp
    cases hp

theorem KeepsTogether.of_forall_not_hasSmallForm {word : List Char}
    (h : ∀ c ∈ word, hasSmallForm c = false) : KeepsTogether word := by
  refine ⟨fun hdotted => absurd (h _ hdotted) ?_, ?_, ?_⟩
  · rw [hasSmallForm, toLowercase_dottedCapital]
    decide
  · intro p c hpair hp
    rw [h p (hpair.subset (by simp))] at hp
    cases hp
  · exact fun p c n htriple _ _ => h n (htriple.subset (by simp))

theorem hasSmallForm_of_mem_kebabCase {text : String} {d : Char}
    (h : d ∈ (kebabCase text).toList) : hasSmallForm d = false := by
  rw [hasSmallForm, bne_eq_false_iff_eq]
  rcases mem_kebabCase_cases h with rfl | ⟨c, _, hd⟩
  · decide
  · exact toLowercase_of_mem_toLowercase hd

/-- **Identifiers made of identifiers.** An identifier stays as it is exactly if each word it was
made of keeps together in lower case. It does whenever the text has no dotted capital and no
upper-case character without a lower-case form. An identifier made of an identifier always stays as
it is. -/
theorem kebabCase_kebabCase (text : String) :
    (kebabCase (kebabCase text) = kebabCase text ↔
      ∀ word ∈ writtenWords text.toList, KeepsTogether word) ∧
    ((∀ c ∈ text.toList, c ≠ dottedCapital ∧ isBareCapital c = false) →
      kebabCase (kebabCase text) = kebabCase text) ∧
    kebabCase (kebabCase (kebabCase text)) = kebabCase (kebabCase text) := by
  refine ⟨kebabCase_settled_iff text, fun hplain => ?_, ?_⟩
  · rw [kebabCase_settled_iff]
    intro word hword
    exact KeepsTogether.of_forall_not_isBareCapital fun c hc =>
      hplain c (mem_of_mem_writtenWords hword hc)
  · rw [kebabCase_settled_iff]
    intro word hword
    exact KeepsTogether.of_forall_not_hasSmallForm fun c hc =>
      hasSmallForm_of_mem_kebabCase (mem_of_mem_writtenWords hword hc)

theorem kebabCase_kebabCase_number :
    (∀ c ∈ "AMAZON.NUMBER".toList, c ≠ dottedCapital ∧ isBareCapital c = false) ∧
      kebabCase (kebabCase "AMAZON.NUMBER") = kebabCase "AMAZON.NUMBER" :=
  have hplain : ∀ c ∈ "AMAZON.NUMBER".toList, c ≠ dottedCapital ∧ isBareCapital c = false :=
    List.forall_iff_forall_mem.1 (by decide +kernel)
  ⟨hplain, (kebabCase_kebabCase "AMAZON.NUMBER").2.1 hplain⟩

/-- The dot of the dotted capital is a character of its own in lower case, and no letter. -/
theorem not_kebabCase_kebabCase_dotted :
    ¬ ∀ text : String, kebabCase (kebabCase text) = kebabCase text := by
  intro hall
  have hword : [dottedCapital] ∈ writtenWords "\u0130".toList := by decide +kernel
  have htogether := (kebabCase_settled_iff "\u0130").1 (hall "\u0130") _ hword
  exact htogether.undotted (List.mem_singleton_self _)

end VoiceSkill
