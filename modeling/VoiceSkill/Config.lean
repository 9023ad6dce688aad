import VoiceSkill.Definition
import VoiceSkill.Locale
import VoiceSkill.Unicode.Class

/-!
# Build configurations

A configuration is drafted value by value and then validated once: locale, skill identifier,
platform and least number of samples, in this order, so that of several invalid values the first of
these is reported. What follows works on validated configurations only.
-/

namespace VoiceSkill

/-- Why a configuration is refused. -/
inductive ConfigError where
  | missingLocale
  | invalidLocale (value : String)
  | invalidSkillId (value : String)
  | invalidPlatform
  | invalidLeastUtterances (value : UInt64)
deriving DecidableEq, Repr

/-- The tags of all locales, for messages. -/
def localeList : String := ", ".intercalate Locale.allTags

def ConfigError.message : ConfigError → String
  | .missingLocale => "no locale defined; set one of " ++ localeList
  | .invalidLocale value =>
    "invalid locale `" ++ value ++ "`; it should be one of " ++ localeList
  | .invalidSkillId value => "invalid skill id `" ++ value ++ "`"
  | .invalidPlatform => "platform tag must not be empty"
  | .invalidLeastUtterances value =>
    "least utterances must be at least 1, got " ++ naturalText value.toNat

/-- A validated configuration. -/
structure BuildConfig where
  locale : Locale
  skillId : Option String
  platform : String
  /-- Whether schema paths go without a directory for the locale. -/
  flattenLocale : Bool
  /-- Whether placeholders without a slot are warned of. -/
  warnUnresolved : Bool
  leastUtterances : UInt64
deriving DecidableEq, Repr

/-- The platform of a configuration that names none. -/
def defaultPlatform : String := "dialogFlow"

/-- The least number of samples of a configuration that names none. -/
def defaultLeastUtterances : UInt64 := 5

/-- A configuration before it is validated. -/
structure ConfigDraft where
  locale : Option String
  skillId : Option String
  platform : Option String
  flattenLocale : Bool
  warnUnresolved : Bool
  leastUtterances : Option UInt64
deriving DecidableEq, Repr, Inhabited

namespace ConfigDraft

/-- A draft that sets nothing. -/
def empty : ConfigDraft := ⟨none, none, none, false, false, none⟩

/-- The values that a definition sets. -/
def ofDefinition (definition : Definition) : ConfigDraft :=
  { empty with
    locale := definition.locale
    skillId := definition.skillId
    leastUtterances := definition.leastUtterances }

def withLocale (draft : ConfigDraft) (locale : String) : ConfigDraft :=
  { draft with locale := some locale }

def withSkillId (draft : ConfigDraft) (skillId : String) : ConfigDraft :=
  { draft with skillId := some skillId }

def withPlatform (draft : ConfigDraft) (platform : String) : ConfigDraft :=
  { draft with platform := some platform }

def withFlattenLocale (draft : ConfigDraft) (flatten : Bool) : ConfigDraft :=
  { draft with flattenLocale := flatten }

def withWarnUnresolved (draft : ConfigDraft) (warn : Bool) : ConfigDraft :=
  { draft with warnUnresolved := warn }

def withLeastUtterances (draft : ConfigDraft) (least : UInt64) : ConfigDraft :=
  { draft with leastUtterances := some least }

/-- A locale has to be set, and supported. -/
def validLocale : Option String → Except ConfigError Locale
  | none => .error .missingLocale
  | some tag =>
    if tag = "" then .error .missingLocale
    else match Locale.ofTag? tag with
      | some locale => .ok locale
      | none => .error (.invalidLocale tag)

/-- A skill identifier that is set has characters, and no blank among them. -/
def validSkillId : Option String → Except ConfigError (Option String)
  | none => .ok none
  | some skillId =>
    if skillId = "" || skillId.toList.any Unicode.isBlank then .error (.invalidSkillId skillId)
    else .ok (some skillId)

/-- A platform that is set does not consist of blanks. -/
def validPlatform (platform : Option String) : Except ConfigError String :=
  let platform := platform.getD defaultPlatform
  if Unicode.allBlank platform then .error .invalidPlatform else .ok platform

/-- At least one sample has to be asked for. -/
def validLeastUtterances (least : Option UInt64) : Except ConfigError UInt64 :=
  let least := least.getD defaultLeastUtterances
  if least = 0 then .error (.invalidLeastUtterances least) else .ok least

/-- Validates a draft. -/
def validate (draft : ConfigDraft) : Except ConfigError BuildConfig := do
  let locale ← validLocale draft.locale
  let skillId ← validSkillId draft.skillId
  let platform ← validPlatform draft.platform
  let leastUtterances ← validLeastUtterances draft.leastUtterances
  return {
    locale, skillId, platform, leastUtterances
    flattenLocale := draft.flattenLocale
    warnUnresolved := draft.warnUnresolved }

end ConfigDraft

/-- The configuration that a definition sets by itself. -/
def BuildConfig.ofDefinition (definition : Definition) : Except ConfigError BuildConfig :=
  (ConfigDraft.ofDefinition definition).validate

end VoiceSkill
