import VoiceSkill.Proofs.Kebab.Twice

/-!
# Plain identifiers

A plain identifier is empty, or made of words of small letters and words of digits with a single
hyphen between any two. A text of ASCII has a plain identifier, and a plain identifier stays as it
is, so the plain ones are exactly what texts of ASCII give (`kebabCase_retraction`).
-/

namespace VoiceSkill

open Unicode

/-- A word of the letters from a to z alone, or of digits alone. -/
structure IsPlainWord (word : List Char) : Prop where
  nonempty : word ≠ []
  oneKind : (∀ c ∈ word, 'a' ≤ c ∧ c ≤ 'z') ∨ ∀ c ∈ word, '0' ≤ c ∧ c ≤ '9'

/-- Plain words with single hyphens between them. -/
def IsPlainIdentifier (text : String) : Prop :=
  ∃ words : List (List Char),
    (∀ word ∈ words, IsPlainWord word) ∧ text.toList = ['-'].intercalate words

/-- A text of ASCII characters. -/
def IsAsciiText (text : String) : Prop := ∀ c ∈ text.toList, isAscii c = true

/-! ## Small letters and digits -/

theorem isAscii_of_le {c d : Char} (hd : isAscii d = true) (h : c ≤ d) : isAscii c = true := by
  have hle : c.toNat ≤ d.toNat := h
  simp only [isAscii, decide_eq_true_eq] at hd ⊢
  omega

theorem isLowercase_of_small {c : Char} (h : 'a' ≤ c ∧ c ≤ 'z') :
    isLowercase c = true ∧ isNumeric c = false :=
  of_isAscii (P := fun c => 'a' ≤ c ∧ c ≤ 'z' → isLowercase c = true ∧ isNumeric c = false)
    (by decide) (isAscii_of_le (by decide) h.2) h

theorem isNumeric_of_digit {c : Char} (h : '0' ≤ c ∧ c ≤ '9') :
    isNumeric c = true ∧ isAlphanumeric c = true ∧ isUppercase c = false ∧ toLowercase c = [c] :=
  of_isAscii
    (P := fun c => '0' ≤ c ∧ c ≤ '9' →
      isNumeric c = true ∧ isAlphanumeric c = true ∧ isUppercase c = false ∧ toLowercase c = [c])
    (by decide) (isAscii_of_le (by decide) h.2) h

/-- A letter or digit of ASCII in lower case is a digit if it is numeric, and a small letter if it
is not. -/
theorem exists_plain_form {c : Char} (hascii : isAscii c = true)
    (hc : isAlphanumeric c = true) :
    ∃ d, toLowercase c = [d] ∧
      (isNumeric c = true → '0' ≤ d ∧ d ≤ '9') ∧ (isNumeric c = false → 'a' ≤ d ∧ d ≤ 'z') := by
  have hform : (isNumeric c = true → '0' ≤ c.toLower ∧ c.toLower ≤ '9') ∧
      (isNumeric c = false → 'a' ≤ c.toLower ∧ c.toLower ≤ 'z') :=
    of_isAscii
      (P := fun c => isAlphanumeric c = true →
        (isNumeric c = true → '0' ≤ c.toLower ∧ c.toLower ≤ '9') ∧
        (isNumeric c = false → 'a' ≤ c.toLower ∧ c.toLower ≤ 'z'))
      (by decide) hascii hc
  exact ⟨c.toLower, by rw [toLowercase, if_pos hascii], hform⟩

/-! ## The words of a text of ASCII -/

/-- The characters of a word in one piece are all numeric or all not. -/
theorem Unbroken.isNumeric_eq {previous : Char} {rest : List Char}
    (h : Unbroken (previous :: rest)) : ∀ c ∈ rest, isNumeric c = isNumeric previous := by
  induction rest generalizing previous with
  | nil => exact fun c hc => absurd hc List.not_mem_nil
  | cons d rest ih =>
      obtain ⟨hpair, hrest⟩ := h
      have hsame : isNumeric previous = isNumeric d := by
        simp only [endsWord, Bool.or_eq_false_iff, bne_eq_false_iff_eq] at hpair
        exact hpair.1.2
      intro c hc
      rcases List.mem_cons.1 hc with rfl | hc
      · exact hsame.symm
      · rw [ih hrest c hc, hsame]

/-- **A word of ASCII in one piece is plain in lower case.** -/
theorem IsWhole.isPlainWord_lowered {word : List Char} (h : IsWhole word)
    (hascii : ∀ c ∈ word, isAscii c = true) : IsPlainWord (lowered word) := by
  refine ⟨mt lowered_eq_nil_iff.1 h.nonempty, ?_⟩
  obtain ⟨first, rest, rfl⟩ := List.exists_cons_of_ne_nil h.nonempty
  have hkind : ∀ c ∈ first :: rest, isNumeric c = isNumeric first :=
    List.forall_mem_cons.2 ⟨rfl, h.unbroken.isNumeric_eq⟩
  have hform {d : Char} (hd : d ∈ lowered (first :: rest)) :
      (isNumeric first = true → '0' ≤ d ∧ d ≤ '9') ∧
        (isNumeric first = false → 'a' ≤ d ∧ d ≤ 'z') := by
    obtain ⟨c, hc, hd⟩ := List.mem_flatMap.1 hd
    obtain ⟨e, he, hdigit, hletter⟩ := exists_plain_form (hascii c hc) (h.alphanumeric c hc)
    rw [he, List.mem_singleton] at hd
    rw [hd, ← hkind c hc]
    exact ⟨hdigit, hletter⟩
  cases hfirst : isNumeric first with
  | true => exact Or.inr fun d hd => (hform hd).1 hfirst
  | false => exact Or.inl fun d hd => (hform hd).2 hfirst

/-- The identifier of a text of ASCII is plain. -/
theorem isPlainIdentifier_kebabCase {text : String} (h : IsAsciiText text) :
    IsPlainIdentifier (kebabCase text) := by
  refine ⟨kebabWords text.toList, ?_, by rw [kebabCase, String.toList_ofList]⟩
  rw [kebabWords_eq_map, List.forall_mem_map]
  intro word hword
  exact (isWhole_of_mem_writtenWords hword).isPlainWord_lowered fun c hc =>
    h c (mem_of_mem_writtenWords hword hc)

/-! ## Plain identifiers read again -/

theorem IsPlainWord.isAlphanumeric {word : List Char} (h : IsPlainWord word) :
    ∀ c ∈ word, isAlphanumeric c = true := by
  intro c hc
  rcases h.oneKind with hsmall | hdigit
  · exact isAlphanumeric_of_isLowercase (isLowercase_of_small (hsmall c hc)).1
  · exact (isNumeric_of_digit (hdigit c hc)).2.1

theorem IsPlainWord.isAscii {word : List Char} (h : IsPlainWord word) :
    ∀ c ∈ word, isAscii c = true := by
  intro c hc
  rcases h.oneKind with hsmall | hdigit
  · exact isAscii_of_le (by decide) (hsmall c hc).2
  · exact isAscii_of_le (by decide) (hdigit c hc).2

theorem IsPlainWord.lowered_eq {word : List Char} (h : IsPlainWord word) :
    lowered word = word := by
  have hself : ∀ c ∈ word, toLowercase c = [c] := by
    intro c hc
    rcases h.oneKind with hsmall | hdigit
    · exact toLowercase_of_isLowercase (isLowercase_of_small (hsmall c hc)).1
    · exact (isNumeric_of_digit (hdigit c hc)).2.2.2
  rw [lowered, List.flatMap_congr hself, List.flatMap_singleton']

/-- Nothing breaks where no character is in upper case and all are of one kind. -/
theorem unbroken_of_forall {word : List Char} (numeric : Bool)
    (h : ∀ c ∈ word, isUppercase c = false ∧ isNumeric c = numeric) : Unbroken word := by
  induction word with
  | nil => trivial
  | cons previous word ih =>
      cases word with
      | nil => trivial
      | cons c word =>
          obtain ⟨⟨hupper, hnumeric⟩, hrest⟩ := List.forall_mem_cons.1 h
          obtain ⟨hupper', hnumeric'⟩ := hrest c List.mem_cons_self
          refine ⟨?_, ih hrest⟩
          simp [endsWord, hupper, hupper', hnumeric, hnumeric']

theorem IsPlainWord.unbroken {word : List Char} (h : IsPlainWord word) : Unbroken word := by
  rcases h.oneKind with hsmall | hdigit
  · refine unbroken_of_forall false fun c hc => ?_
    obtain ⟨hlower, hnumeric⟩ := isLowercase_of_small (hsmall c hc)
    exact ⟨isUppercase_of_isLowercase hlower, hnumeric⟩
  · refine unbroken_of_forall true fun c hc => ?_
    obtain ⟨hnumeric, -, hupper, -⟩ := isNumeric_of_digit (hdigit c hc)
    exact ⟨hupper, hnumeric⟩

/-- A plain word is one word to the reader. -/
theorem IsPlainWord.wordsFrom_eq {word : List Char} (h : IsPlainWord word) :
    wordsFrom [] ' ' word = [word] := by
  rw [(wordsFrom_eq_singleton_iff h.nonempty h.isAlphanumeric ' ').2 h.unbroken, h.lowered_eq]

/-- The characters of a plain identifier are hyphens and the characters of its words. -/
theorem IsPlainIdentifier.forall_mem {text : String} (h : IsPlainIdentifier text) {P : Char → Prop}
    (hhyphen : P '-') (hword : ∀ word, IsPlainWord word → ∀ c ∈ word, P c) :
    ∀ c ∈ text.toList, P c := by
  obtain ⟨words, hwords, htext⟩ := h
  intro c hc
  rw [htext] at hc
  rcases mem_intercalate hc with rfl | ⟨word, hmem, hc⟩
  · exact hhyphen
  · exact hword word (hwords word hmem) c hc

/-- A plain identifier stays as it is. -/
theorem kebabCase_of_isPlainIdentifier {text : String} (h : IsPlainIdentifier text) :
    kebabCase text = text := by
  have hkept : (text.toList.filter fun c => !isApostrophe c) = text.toList := by
    rw [List.filter_eq_self]
    refine h.forall_mem (by decide) fun word hword c hc => ?_
    rw [isApostrophe_of_isAlphanumeric (hword.isAlphanumeric c hc)]
    rfl
  obtain ⟨words, hwords, htext⟩ := h
  have hread : words.flatMap (wordsFrom [] ' ') = words := by
    rw [List.flatMap_congr fun word hword => (hwords word hword).wordsFrom_eq,
      List.flatMap_singleton']
  calc kebabCase text
      = String.ofList (['-'].intercalate (wordsFrom [] ' ' text.toList)) := by
        rw [kebabCase, kebabWords, hkept]
    _ = String.ofList (['-'].intercalate words) := by rw [htext, wordsFrom_intercalate, hread]
    _ = text := by rw [← htext, String.ofList_toList]

/-- **Making identifiers retracts ASCII onto the plain identifiers.** The identifier of a text of
ASCII is plain, a plain identifier is its own, and so the plain identifiers are those of texts of
ASCII. -/
theorem kebabCase_retraction :
    (∀ text : String, IsAsciiText text → IsPlainIdentifier (kebabCase text)) ∧
    (∀ text : String, IsPlainIdentifier text → kebabCase text = text) ∧
    ∀ identifier : String, IsPlainIdentifier identifier ↔
      ∃ text : String, IsAsciiText text ∧ kebabCase text = identifier := by
  refine ⟨fun _ => isPlainIdentifier_kebabCase, fun _ => kebabCase_of_isPlainIdentifier, ?_⟩
  intro identifier
  constructor
  · intro h
    have hascii : IsAsciiText identifier := h.forall_mem (by decide) fun _ hword => hword.isAscii
    exact ⟨identifier, hascii, kebabCase_of_isPlainIdentifier h⟩
  · rintro ⟨text, hascii, rfl⟩
    exact isPlainIdentifier_kebabCase hascii

/-- An acronym, a digit and an apostrophe in a text, and the identifier that it gives. -/
theorem kebabCase_retraction_acronym :
    IsAsciiText "it's_HTMLParser2go" ∧
      IsPlainIdentifier (kebabCase "it's_HTMLParser2go") ∧
      IsPlainIdentifier "its-html-parser-2-go" ∧
      kebabCase "its-html-parser-2-go" = "its-html-parser-2-go" := by
  have hascii : IsAsciiText "it's_HTMLParser2go" :=
    List.forall_iff_forall_mem.1 (by decide +kernel)
  have hplain := kebabCase_retraction.1 _ hascii
  have hidentifier : kebabCase "it's_HTMLParser2go" = "its-html-parser-2-go" := by decide +kernel
  have hplain' : IsPlainIdentifier "its-html-parser-2-go" := hidentifier ▸ hplain
  exact ⟨hascii, hplain, hplain', kebabCase_retraction.2.1 _ hplain'⟩

end VoiceSkill
