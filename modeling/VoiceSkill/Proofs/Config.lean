import VoiceSkill.Config
import VoiceSkill.Proofs.Outcome

/-!
# Valid configurations

A draft is validated to a configuration exactly if all of its values are valid; what it does not set
has a default, which is valid (`ConfigDraft.validate_eq_ok_iff`). Otherwise it is refused for the
first invalid value, in the order locale, skill identifier, platform, least number of samples
(`ConfigDraft.validate_eq_error_iff`).
-/

namespace VoiceSkill

namespace Locale

variable {tag : String} {locale : Locale}

theorem ofTag?_eq_some_iff : ofTag? tag = some locale ↔ tag = locale.tag := by
  constructor
  · intro h
    have htag := List.find?_some h
    exact (beq_iff_eq.1 htag).symm
  · rintro rfl
    cases locale <;> rfl

theorem tag_ne_empty (locale : Locale) : locale.tag ≠ "" := by
  cases locale <;> decide

end Locale

namespace ConfigDraft

/-! ## Valid values -/

/-- The tag of a supported locale. -/
def IsLocale (tag : String) : Prop := ∃ locale : Locale, tag = locale.tag

/-- A text with characters, and no blank among them. -/
def IsSkillId (text : String) : Prop := text ≠ "" ∧ ∀ c ∈ text.toList, Unicode.isBlank c = false

/-- A text that does not consist of blanks. -/
def IsPlatform (text : String) : Prop := ∃ c ∈ text.toList, Unicode.isBlank c = false

theorem allBlank_eq_false_iff {text : String} :
    Unicode.allBlank text = false ↔ IsPlatform text := by
  simp [Unicode.allBlank, IsPlatform]

/-- The default of a platform passes the check of a platform. -/
theorem isPlatform_defaultPlatform : IsPlatform defaultPlatform := by
  rw [← allBlank_eq_false_iff]
  decide

/-! ## Checks of single values -/

variable {e : ConfigError}

theorem validLocale_some {tag : String} :
    (∀ locale : Locale, tag = locale.tag → validLocale (some tag) = .ok locale) ∧
      (tag ≠ "" → ¬ IsLocale tag → validLocale (some tag) = .error (.invalidLocale tag)) := by
  constructor
  · intro locale htag
    have hempty : tag ≠ "" := fun h => locale.tag_ne_empty (htag.symm.trans h)
    simp [validLocale, hempty, Locale.ofTag?_eq_some_iff.2 htag]
  · intro hempty hunknown
    have hnone : Locale.ofTag? tag = none := by
      refine Option.eq_none_iff_forall_ne_some.2 fun locale hlocale => ?_
      exact hunknown ⟨locale, Locale.ofTag?_eq_some_iff.1 hlocale⟩
    simp [validLocale, hempty, hnone]

theorem validLocale_eq_ok_iff {value : Option String} {locale : Locale} :
    validLocale value = .ok locale ↔ value = some locale.tag := by
  constructor
  · intro h
    cases value with
    | none => cases h
    | some tag =>
        by_cases hempty : tag = ""
        · rw [validLocale, if_pos hempty] at h
          cases h
        by_cases hknown : IsLocale tag
        · obtain ⟨known, htag⟩ := hknown
          rw [validLocale_some.1 known htag] at h
          cases h
          rw [htag]
        · rw [validLocale_some.2 hempty hknown] at h
          cases h
  · rintro rfl
    exact validLocale_some.1 locale rfl

theorem validLocale_eq_error_iff {value : Option String} :
    validLocale value = .error e ↔
      ((value = none ∨ value = some "") ∧ e = .missingLocale) ∨
        ∃ tag, value = some tag ∧ tag ≠ "" ∧ ¬ IsLocale tag ∧ e = .invalidLocale tag := by
  cases value with
  | none => simp [validLocale, eq_comm]
  | some tag =>
      by_cases hempty : tag = ""
      · simp [validLocale, hempty, eq_comm]
      · by_cases hknown : IsLocale tag
        · obtain ⟨locale, htag⟩ := hknown
          simp [validLocale_some.1 locale htag, hempty, show IsLocale tag from ⟨locale, htag⟩]
        · simp [validLocale_some.2 hempty hknown, hempty, hknown, eq_comm]

theorem validSkillId_some {id : String} :
    (IsSkillId id → validSkillId (some id) = .ok (some id)) ∧
      (¬ IsSkillId id → validSkillId (some id) = .error (.invalidSkillId id)) := by
  have hfault : (id = "" || id.toList.any Unicode.isBlank) = true ↔ ¬ IsSkillId id := by
    by_cases hempty : id = "" <;> simp [IsSkillId, hempty]
  rw [validSkillId]
  constructor
  · intro hid
    rw [if_neg (mt hfault.1 (not_not_intro hid))]
  · intro hid
    rw [if_pos (hfault.2 hid)]

theorem validSkillId_eq_ok_iff {value valid : Option String} :
    validSkillId value = .ok valid ↔ (∀ id ∈ value, IsSkillId id) ∧ valid = value := by
  cases value with
  | none => simp [validSkillId, eq_comm]
  | some id =>
      by_cases hid : IsSkillId id
      · simp [validSkillId_some.1 hid, hid, eq_comm]
      · simp [validSkillId_some.2 hid, hid]

theorem validSkillId_eq_error_iff {value : Option String} :
    validSkillId value = .error e ↔
      ∃ id, value = some id ∧ ¬ IsSkillId id ∧ e = .invalidSkillId id := by
  cases value with
  | none => simp [validSkillId]
  | some id =>
      by_cases hid : IsSkillId id
      · simp [validSkillId_some.1 hid, hid]
      · simp [validSkillId_some.2 hid, hid, eq_comm]

theorem validPlatform_none : validPlatform none = .ok defaultPlatform := by
  rw [validPlatform, Option.getD_none, allBlank_eq_false_iff.2 isPlatform_defaultPlatform]
  rfl

theorem validPlatform_some {text : String} :
    (IsPlatform text → validPlatform (some text) = .ok text) ∧
      (¬ IsPlatform text → validPlatform (some text) = .error .invalidPlatform) := by
  rw [← allBlank_eq_false_iff, Bool.not_eq_false, validPlatform, Option.getD_some]
  constructor
  · intro htext
    rw [htext]
    rfl
  · intro htext
    rw [if_pos htext]

theorem validPlatform_eq_ok_iff {value : Option String} {platform : String} :
    validPlatform value = .ok platform ↔
      (∀ text ∈ value, IsPlatform text) ∧ platform = value.getD defaultPlatform := by
  cases value with
  | none => simp [validPlatform_none, eq_comm]
  | some text =>
      by_cases htext : IsPlatform text
      · simp [validPlatform_some.1 htext, htext, eq_comm]
      · simp [validPlatform_some.2 htext, htext]

theorem validPlatform_eq_error_iff {value : Option String} :
    validPlatform value = .error e ↔
      (∃ text, value = some text ∧ ¬ IsPlatform text) ∧ e = .invalidPlatform := by
  cases value with
  | none => simp [validPlatform_none]
  | some text =>
      by_cases htext : IsPlatform text
      · simp [validPlatform_some.1 htext, htext]
      · simp [validPlatform_some.2 htext, htext, eq_comm]

/-- The least number of samples that stands in for one that is not set is not zero. -/
theorem getD_leastUtterances_eq_zero_iff {value : Option UInt64} :
    value.getD defaultLeastUtterances = 0 ↔ value = some 0 := by
  cases value with
  | none => exact iff_of_false (by decide) nofun
  | some n => simp

theorem validLeastUtterances_eq_ok_iff {value : Option UInt64} {least : UInt64} :
    validLeastUtterances value = .ok least ↔
      value ≠ some 0 ∧ least = value.getD defaultLeastUtterances := by
  rw [validLeastUtterances, Ne, ← getD_leastUtterances_eq_zero_iff]
  by_cases hzero : value.getD defaultLeastUtterances = 0
  · simp [hzero]
  · simp [hzero, eq_comm]

theorem validLeastUtterances_eq_error_iff {value : Option UInt64} :
    validLeastUtterances value = .error e ↔ value = some 0 ∧ e = .invalidLeastUtterances 0 := by
  rw [validLeastUtterances, ← getD_leastUtterances_eq_zero_iff]
  by_cases hzero : value.getD defaultLeastUtterances = 0
  · simp [hzero, eq_comm]
  · simp [hzero]

/-! ## All values -/

/-- The configuration that the values of a draft make, with defaults for those that are not set. -/
structure Makes (draft : ConfigDraft) (config : BuildConfig) : Prop where
  locale : draft.locale = some config.locale.tag
  skillId : config.skillId = draft.skillId
  platform : config.platform = draft.platform.getD defaultPlatform
  leastUtterances : config.leastUtterances = draft.leastUtterances.getD defaultLeastUtterances
  flattenLocale : config.flattenLocale = draft.flattenLocale
  warnUnresolved : config.warnUnresolved = draft.warnUnresolved

/-- The locale is set and supported. -/
def LocaleValid (draft : ConfigDraft) : Prop := ∃ tag, draft.locale = some tag ∧ IsLocale tag

/-- The skill identifier is valid, if one is set. -/
def SkillIdValid (draft : ConfigDraft) : Prop := ∀ id ∈ draft.skillId, IsSkillId id

/-- The platform is valid, if one is set. -/
def PlatformValid (draft : ConfigDraft) : Prop := ∀ text ∈ draft.platform, IsPlatform text

/-- The error of the first invalid value of a draft. -/
inductive FirstInvalid (draft : ConfigDraft) : ConfigError → Prop
  | missingLocale (h : draft.locale = none ∨ draft.locale = some "") :
      FirstInvalid draft .missingLocale
  | locale {tag : String} (h : draft.locale = some tag) (hempty : tag ≠ "")
      (hunknown : ¬ IsLocale tag) : FirstInvalid draft (.invalidLocale tag)
  | skillId {id : String} (hlocale : draft.LocaleValid) (h : draft.skillId = some id)
      (hinvalid : ¬ IsSkillId id) : FirstInvalid draft (.invalidSkillId id)
  | platform {text : String} (hlocale : draft.LocaleValid) (hskillId : draft.SkillIdValid)
      (h : draft.platform = some text) (hinvalid : ¬ IsPlatform text) :
      FirstInvalid draft .invalidPlatform
  | leastUtterances (hlocale : draft.LocaleValid) (hskillId : draft.SkillIdValid)
      (hplatform : draft.PlatformValid) (h : draft.leastUtterances = some 0) :
      FirstInvalid draft (.invalidLeastUtterances 0)

variable {draft : ConfigDraft}

theorem localeValid_iff :
    draft.LocaleValid ↔ ∃ locale : Locale, draft.locale = some locale.tag := by
  constructor
  · rintro ⟨_, htag, locale, rfl⟩
    exact ⟨locale, htag⟩
  · rintro ⟨locale, htag⟩
    exact ⟨locale.tag, htag, locale, rfl⟩

/-- **A draft is validated to the configuration that its values make, if all of them are valid.** -/
theorem validate_eq_ok_iff {config : BuildConfig} :
    draft.validate = .ok config ↔
      draft.Makes config ∧ draft.SkillIdValid ∧ draft.PlatformValid ∧
        draft.leastUtterances ≠ some 0 := by
  simp only [validate, except_bind_eq_ok_iff, validLocale_eq_ok_iff, validSkillId_eq_ok_iff,
    validPlatform_eq_ok_iff, validLeastUtterances_eq_ok_iff]
  constructor
  · rintro ⟨locale, hlocale, _, ⟨hskillId, rfl⟩, _, ⟨hplatform, rfl⟩, _, ⟨hleast, rfl⟩, h⟩
    cases h
    exact ⟨⟨hlocale, rfl, rfl, rfl, rfl, rfl⟩, hskillId, hplatform, hleast⟩
  · rintro ⟨⟨hlocale, hid, htext, hcount, hflatten, hwarn⟩, hskillId, hplatform, hleast⟩
    refine ⟨config.locale, hlocale, _, ⟨hskillId, rfl⟩, _, ⟨hplatform, rfl⟩, _, ⟨hleast, rfl⟩, ?_⟩
    rw [← hid, ← htext, ← hcount, ← hflatten, ← hwarn]
    rfl

/-- **A draft is refused for its first invalid value.** -/
theorem validate_eq_error_iff : draft.validate = .error e ↔ draft.FirstInvalid e := by
  simp only [validate, except_bind_eq_error_iff, validLocale_eq_ok_iff, validSkillId_eq_ok_iff,
    validPlatform_eq_ok_iff, validLocale_eq_error_iff, validSkillId_eq_error_iff,
    validPlatform_eq_error_iff, validLeastUtterances_eq_error_iff]
  constructor
  · rintro ((⟨h, rfl⟩ | ⟨tag, h, hempty, hunknown, rfl⟩) | ⟨locale, hlocale, h⟩)
    · exact .missingLocale h
    · exact .locale h hempty hunknown
    have hlocale := localeValid_iff.2 ⟨locale, hlocale⟩
    rcases h with ⟨id, h, hinvalid, rfl⟩ | ⟨_, ⟨hskillId, -⟩, h⟩
    · exact .skillId hlocale h hinvalid
    rcases h with ⟨⟨text, h, hinvalid⟩, rfl⟩ | ⟨_, ⟨hplatform, -⟩, h⟩
    · exact .platform hlocale hskillId h hinvalid
    rcases h with ⟨h, rfl⟩ | ⟨_, _, h⟩
    · exact .leastUtterances hlocale hskillId hplatform h
    · cases h
  · intro h
    cases h with
    | missingLocale h => exact .inl (.inl ⟨h, rfl⟩)
    | locale h hempty hunknown => exact .inl (.inr ⟨_, h, hempty, hunknown, rfl⟩)
    | skillId hlocale h hinvalid =>
        obtain ⟨locale, hlocale⟩ := localeValid_iff.1 hlocale
        exact .inr ⟨locale, hlocale, .inl ⟨_, h, hinvalid, rfl⟩⟩
    | platform hlocale hskillId h hinvalid =>
        obtain ⟨locale, hlocale⟩ := localeValid_iff.1 hlocale
        exact .inr ⟨locale, hlocale, .inr ⟨_, ⟨hskillId, rfl⟩, .inl ⟨⟨_, h, hinvalid⟩, rfl⟩⟩⟩
    | leastUtterances hlocale hskillId hplatform h =>
        obtain ⟨locale, hlocale⟩ := localeValid_iff.1 hlocale
        exact .inr ⟨locale, hlocale, .inr ⟨_, ⟨hskillId, rfl⟩,
          .inr ⟨_, ⟨hplatform, rfl⟩, .inl ⟨h, rfl⟩⟩⟩⟩

end ConfigDraft

end VoiceSkill
