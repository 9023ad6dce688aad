import VoiceSkill.Unicode.Alphanumeric
import VoiceSkill.Unicode.Cased
import VoiceSkill.Unicode.Class
import VoiceSkill.Proofs.Unicode.Run

/-!
# Letter case over all characters

Lower-case characters are alphanumeric, are not upper-case ones, and are their own lower-case forms
(`isAlphanumeric_of_isLowercase`, `isUppercase_of_isLowercase`, `toLowercase_of_isLowercase`). The
lower-case form of any character is the character itself, or a single lower-case one that is numeric
exactly if the character is; U+0130 alone has a form of two characters (`toLowercase_cases`).
-/

namespace VoiceSkill.Unicode

/-! ## What the tables say -/

/-- The runs of characters with a lower-case form of one character. -/
def mappedRuns : List Run := lowercaseOffsets.map Prod.fst

/-- The numeric run that the Roman numerals lie on. -/
def romanNumerals : Run := (8528, 8578, 1)

/-- The small Roman numerals, the only numeric characters in lower case. -/
def smallNumerals : Run := (8560, 8575, 1)

/-- The large Roman numerals, the only numeric characters with another lower-case form. -/
def largeNumerals : Run := (8544, 8559, 1)

/-- In every table each run ends before the next one begins. -/
theorem tables_in_order :
    ∀ runs ∈ [lowercaseRuns, uppercaseRuns, numericRuns, mappedRuns],
      runs.IsChain Run.Precedes := by
  decide +kernel

theorem pairwise_of_mem_tables {runs : List Run}
    (h : runs ∈ [lowercaseRuns, uppercaseRuns, numericRuns, mappedRuns]) :
    runs.Pairwise Run.Precedes :=
  List.isChain_iff_pairwise.1 (tables_in_order runs h)

theorem lowercaseRuns_pairwise : lowercaseRuns.Pairwise Run.Precedes :=
  pairwise_of_mem_tables (by simp)

theorem uppercaseRuns_pairwise : uppercaseRuns.Pairwise Run.Precedes :=
  pairwise_of_mem_tables (by simp)

theorem numericRuns_pairwise : numericRuns.Pairwise Run.Precedes :=
  pairwise_of_mem_tables (by simp)

theorem mappedRuns_pairwise : mappedRuns.Pairwise Run.Precedes :=
  pairwise_of_mem_tables (by simp)

/-- Lower-case characters beyond ASCII are characters. -/
theorem lowercaseRuns_valid : ∀ run ∈ lowercaseRuns,
    128 ≤ run.1 ∧ (run.2.1 < 0xd800 ∨ (0xdfff < run.1 ∧ run.2.1 < 0x110000)) := by
  decide +kernel

/-- What the tables have to do with each other. This is checked in one go, since each of them is
walked through several times. -/
theorem tables_side_by_side :
    Run.allWithin lowercaseRuns alphanumericRuns = true ∧
    Run.allApart lowercaseRuns uppercaseRuns = true ∧
    Run.allApart lowercaseRuns mappedRuns = true ∧
    Run.allApart (lowercaseRuns.filter (· != smallNumerals)) numericRuns = true ∧
    Run.allApart (mappedRuns.filter (· != largeNumerals)) numericRuns = true ∧
    romanNumerals ∈ numericRuns := by
  decide +kernel

theorem lowercaseRuns_within_alphanumericRuns :
    Run.allWithin lowercaseRuns alphanumericRuns = true := tables_side_by_side.1

theorem lowercaseRuns_apart_uppercaseRuns :
    Run.allApart lowercaseRuns uppercaseRuns = true := tables_side_by_side.2.1

theorem lowercaseRuns_apart_mappedRuns :
    Run.allApart lowercaseRuns mappedRuns = true := tables_side_by_side.2.2.1

theorem lowercaseRuns_apart_numericRuns :
    Run.allApart (lowercaseRuns.filter (· != smallNumerals)) numericRuns = true :=
  tables_side_by_side.2.2.2.1

theorem mappedRuns_apart_numericRuns :
    Run.allApart (mappedRuns.filter (· != largeNumerals)) numericRuns = true :=
  tables_side_by_side.2.2.2.2.1

theorem romanNumerals_mem_numericRuns : romanNumerals ∈ numericRuns :=
  tables_side_by_side.2.2.2.2.2

/-- Whether the code points of a run lie on runs of a table: on the first one that does not end
before it or, where the run spreads over several, each on one of them. -/
def liesOn (runs : List Run) (run : Run) : Bool :=
  (runs.dropWhile (Run.below run)).head?.any (Run.within run) ||
    (Run.members run).all fun code => runs.any fun other => Run.covers other code

theorem exists_covers_of_liesOn {runs : List Run} {run : Run} {code : Nat}
    (h : liesOn runs run = true) (hcovers : Run.covers run code = true) :
    ∃ other ∈ runs, Run.covers other code = true := by
  rcases Bool.or_eq_true_iff.1 h with h | h
  · obtain ⟨other, hother, hwithin⟩ := (Option.any_eq_true _ _).1 h
    exact ⟨other, (List.dropWhile_sublist _).mem (List.mem_of_mem_head? hother),
      Run.covers_of_within hwithin hcovers⟩
  · exact List.any_eq_true.1 (List.all_eq_true.1 h code (Run.mem_members hcovers))

/-- The Kelvin sign apart, lower-case forms are lower-case characters, and small Roman numerals are
those of large ones only. -/
theorem lowercaseOffsets_forms : ∀ entry ∈ lowercaseOffsets, entry = ((8490, 8490, 1), -8383) ∨
    (0 ≤ entry.1.1 + entry.2 ∧ liesOn lowercaseRuns (Run.shift entry.1 entry.2) = true ∧
      if entry.1 = largeNumerals then entry.2 = 16
      else entry.1.2.1 + entry.2 < 8560 ∨ 8575 < entry.1.1 + entry.2) := by
  decide +kernel

/-! ## Characters -/

variable {c : Char} {run : Run}

/-- What holds of the first 128 characters holds of every character of ASCII. -/
theorem of_isAscii {P : Char → Prop} (h : ∀ n : Fin 128, P (Char.ofNat n))
    (hc : isAscii c = true) : P c := by
  have hlt : c.toNat < 128 := by simpa [isAscii] using hc
  have hchar := h ⟨c.toNat, hlt⟩
  rwa [Char.ofNat_toNat] at hchar

theorem covered_iff {runs : List Run} :
    covered runs c = true ↔ ∃ run ∈ runs, Run.covers run c.toNat = true := List.any_eq_true

theorem covered_eq_false_iff {runs : List Run} :
    covered runs c = false ↔ ∀ run ∈ runs, Run.covers run c.toNat = false := by
  rw [← Bool.not_eq_true, covered_iff]
  simp

theorem isAscii_eq_false_of_covers (hrun : run ∈ lowercaseRuns)
    (hcovers : Run.covers run c.toNat = true) : isAscii c = false := by
  have hfirst := (Run.covers_iff.1 hcovers).1
  have hbeyond := (lowercaseRuns_valid run hrun).1
  simp only [isAscii, decide_eq_false_iff_not]
  omega

theorem isLowercase_of_covers (hrun : run ∈ lowercaseRuns)
    (hcovers : Run.covers run c.toNat = true) : isLowercase c = true := by
  rw [isLowercase, isAscii_eq_false_of_covers hrun hcovers]
  exact covered_iff.2 ⟨run, hrun, hcovers⟩

theorem isAlphanumeric_of_isLowercase (h : isLowercase c = true) : isAlphanumeric c = true := by
  cases hascii : isAscii c with
  | true =>
      exact of_isAscii (P := fun c => isLowercase c = true → isAlphanumeric c = true) (by decide)
        hascii h
  | false =>
      rw [isLowercase, hascii] at h
      obtain ⟨run, hrun, hcovers⟩ := covered_iff.1 h
      rw [isAlphanumeric, hascii]
      exact covered_iff.2
        (Run.exists_covers_of_allWithin lowercaseRuns_within_alphanumericRuns hrun hcovers)

theorem isUppercase_of_isLowercase (h : isLowercase c = true) : isUppercase c = false := by
  cases hascii : isAscii c with
  | true =>
      exact of_isAscii (P := fun c => isLowercase c = true → isUppercase c = false) (by decide)
        hascii h
  | false =>
      rw [isLowercase, hascii] at h
      obtain ⟨run, hrun, hcovers⟩ := covered_iff.1 h
      rw [isUppercase, hascii]
      exact covered_eq_false_iff.2 (Run.covers_eq_false_of_allApart lowercaseRuns_pairwise
        uppercaseRuns_pairwise lowercaseRuns_apart_uppercaseRuns hrun hcovers)

/-- The one character with a lower-case form of two characters: the capital I with a dot. -/
def dottedCapital : Char := '\u0130'

theorem toLowercase_dottedCapital : toLowercase dottedCapital = ['i', '\u0307'] := by decide

/-- The dot above a letter is no letter itself. -/
theorem combiningDot :
    isAlphanumeric '\u0307' = false ∧ toLowercase '\u0307' = ['\u0307'] := by
  decide +kernel

theorem eq_dottedCapital_iff : c = dottedCapital ↔ c.toNat = 0x130 := by
  rw [← Char.toNat_inj]
  rfl

theorem toLowercase_of_isLowercase (h : isLowercase c = true) : toLowercase c = [c] := by
  cases hascii : isAscii c with
  | true =>
      exact of_isAscii (P := fun c => isLowercase c = true → toLowercase c = [c]) (by decide)
        hascii h
  | false =>
      have hdotted : c.toNat ≠ 0x130 := by
        rw [Ne, ← eq_dottedCapital_iff]
        rintro rfl
        have hupper := isUppercase_of_isLowercase h
        exact absurd hupper (by decide)
      rw [isLowercase, hascii] at h
      obtain ⟨run, hrun, hcovers⟩ := covered_iff.1 h
      have hnone : (lowercaseOffsets.find? fun entry => Run.covers entry.1 c.toNat) = none := by
        rw [List.find?_eq_none]
        intro entry hentry
        rw [Bool.not_eq_true]
        exact Run.covers_eq_false_of_allApart lowercaseRuns_pairwise mappedRuns_pairwise
          lowercaseRuns_apart_mappedRuns hrun hcovers entry.1 (List.mem_map_of_mem hentry)
      rw [toLowercase, hascii, if_neg (by decide), if_neg hdotted, hnone]

/-! ## Lower-case forms -/

/-- Roman numerals are numeric, be they large or small. -/
theorem isNumeric_of_numeral (hfirst : 8544 ≤ c.toNat) (hlast : c.toNat ≤ 8575) :
    isNumeric c = true := by
  have hascii : isAscii c = false := by
    simp only [isAscii, decide_eq_false_iff_not]
    omega
  rw [isNumeric, hascii]
  refine covered_iff.2 ⟨romanNumerals, romanNumerals_mem_numericRuns,
    Run.covers_iff.2 ⟨?_, ?_, c.toNat - 8528, ?_⟩⟩
  all_goals
    simp only [romanNumerals]
    omega

theorem isNumeric_eq_false_of_lowercase (hrun : run ∈ lowercaseRuns)
    (hcovers : Run.covers run c.toNat = true) (hsmall : c.toNat < 8560 ∨ 8575 < c.toNat) :
    isNumeric c = false := by
  have hne : run ≠ smallNumerals := by
    rintro rfl
    obtain ⟨hfirst, hlast, _⟩ := Run.covers_iff.1 hcovers
    simp only [smallNumerals] at hfirst hlast
    omega
  rw [isNumeric, isAscii_eq_false_of_covers hrun hcovers]
  exact covered_eq_false_iff.2 (Run.covers_eq_false_of_allApart
    (lowercaseRuns_pairwise.filter _) numericRuns_pairwise lowercaseRuns_apart_numericRuns
    (List.mem_filter.2 ⟨hrun, bne_iff_ne.2 hne⟩) hcovers)

theorem isNumeric_eq_false_of_mapped (hascii : isAscii c = false) (hrun : run ∈ mappedRuns)
    (hcovers : Run.covers run c.toNat = true) (hne : run ≠ largeNumerals) :
    isNumeric c = false := by
  rw [isNumeric, hascii]
  exact covered_eq_false_iff.2 (Run.covers_eq_false_of_allApart
    (mappedRuns_pairwise.filter _) numericRuns_pairwise mappedRuns_apart_numericRuns
    (List.mem_filter.2 ⟨hrun, bne_iff_ne.2 hne⟩) hcovers)

theorem toNat_ofNat_of_covers {code : Nat} (hrun : run ∈ lowercaseRuns)
    (hcovers : Run.covers run code = true) : (Char.ofNat code).toNat = code := by
  obtain ⟨hfirst, hlast, _⟩ := Run.covers_iff.1 hcovers
  have hvalid : code.isValidChar := by
    have h := (lowercaseRuns_valid run hrun).2
    simp only [Nat.isValidChar]
    omega
  rw [Char.ofNat, dif_pos hvalid]
  rfl

/-- The form that the table gives is a lower-case character, and as numeric as the character. -/
theorem form_of_mem_lowercaseOffsets {entry : Run × Int} (hascii : isAscii c = false)
    (hentry : entry ∈ lowercaseOffsets) (hcovers : Run.covers entry.1 c.toNat = true) :
    isLowercase (Char.ofNat (c.toNat + entry.2).toNat) = true ∧
      isNumeric (Char.ofNat (c.toNat + entry.2).toNat) = isNumeric c := by
  have hmapped : entry.1 ∈ mappedRuns := List.mem_map_of_mem hentry
  obtain ⟨hfirst, hlast, _⟩ := Run.covers_iff.1 hcovers
  rcases lowercaseOffsets_forms entry hentry with rfl | ⟨hoffset, hlies, hnumerals⟩
  · -- the lower-case form of the Kelvin sign is the letter k
    have hcode : c.toNat = 8490 := Nat.le_antisymm hlast hfirst
    rw [isNumeric_eq_false_of_mapped hascii hmapped hcovers (by decide), hcode]
    decide
  · obtain ⟨run, hrun, hform⟩ := exists_covers_of_liesOn hlies (Run.covers_shift hoffset hcovers)
    have hcode := toNat_ofNat_of_covers hrun hform
    rw [← hcode] at hform
    refine ⟨isLowercase_of_covers hrun hform, ?_⟩
    split at hnumerals
    · rename_i hlarge
      rw [hlarge] at hfirst hlast
      simp only [largeNumerals] at hfirst hlast
      rw [isNumeric_of_numeral (by omega) (by omega), isNumeric_of_numeral (by omega) (by omega)]
    · rename_i hlarge
      rw [isNumeric_eq_false_of_mapped hascii hmapped hcovers hlarge]
      exact isNumeric_eq_false_of_lowercase hrun hform (by omega)

/-- **The lower-case form of a character**: the character itself, or one lower-case character that
is numeric exactly if the character is. Only the dotted capital has another form. -/
theorem toLowercase_cases (c : Char) :
    toLowercase c = [c] ∨ c = dottedCapital ∨
      ∃ d, toLowercase c = [d] ∧ isLowercase d = true ∧ isNumeric d = isNumeric c := by
  cases hascii : isAscii c with
  | true =>
      have hform : c.toLower = c ∨ isLowercase c.toLower = true ∧
          isNumeric c.toLower = isNumeric c :=
        of_isAscii (P := fun c => c.toLower = c ∨ isLowercase c.toLower = true ∧
          isNumeric c.toLower = isNumeric c) (by decide) hascii
      rw [toLowercase, if_pos hascii]
      rcases hform with hsame | hform
      · exact Or.inl (by rw [hsame])
      · exact Or.inr (Or.inr ⟨_, rfl, hform⟩)
  | false =>
      by_cases hdotted : c = dottedCapital
      · exact Or.inr (Or.inl hdotted)
      · rw [toLowercase, hascii, if_neg (by decide), if_neg (mt eq_dottedCapital_iff.2 hdotted)]
        split
        · rename_i entry hfind
          have hcovers : Run.covers entry.1 c.toNat = true :=
            List.find?_some (p := fun entry : Run × Int => Run.covers entry.1 c.toNat) hfind
          exact Or.inr (Or.inr ⟨_, rfl, form_of_mem_lowercaseOffsets hascii
            (List.mem_of_find?_eq_some hfind) hcovers⟩)
        · exact Or.inl rfl

end VoiceSkill.Unicode
