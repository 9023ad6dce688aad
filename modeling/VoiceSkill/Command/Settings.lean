import VoiceSkill.Config
import VoiceSkill.Toml.Reader

/-!
# Layers of a configuration

A configuration is taken from the definition, then from a settings file, then from the command line:
each value from the last of these that sets it. A flag is set when the file or the command line sets
it.
-/

namespace VoiceSkill

/-- What a settings file sets. -/
structure Settings where
  locale : Option String
  skillId : Option String
  platform : Option String
  flattenLocale : Option Bool
  warnUnresolved : Option Bool
  leastUtterances : Option UInt64
deriving DecidableEq, Repr, Inhabited

/-- What the command line sets. -/
structure Overrides where
  locale : Option String
  platform : Option String
  flattenLocale : Bool
  warnUnresolved : Bool
deriving DecidableEq, Repr, Inhabited

namespace Settings

/-- Settings that set nothing. -/
def empty : Settings := ⟨none, none, none, none, none, none⟩

def sectionType : RecordType :=
  ⟨"BuildSection", [
    field "locale" .allowed (Decoder.optional Decoder.string),
    field "skill_id" .allowed (Decoder.optional Decoder.string),
    field "platform" .allowed (Decoder.optional Decoder.string),
    field "flatten_locale" .allowed (Decoder.optional Decoder.bool),
    field "warn_unresolved" .allowed (Decoder.optional Decoder.bool),
    field "least_utterances" .allowed (Decoder.optional Decoder.count)]⟩

/-- The settings of a section. -/
def sectionDecoder : Decoder Settings := fun context json => do
  let fields ← sectionType.fieldsOf context json
  return {
    locale := ← fields.getD "locale" (Decoder.optional Decoder.string) none
    skillId := ← fields.getD "skill_id" (Decoder.optional Decoder.string) none
    platform := ← fields.getD "platform" (Decoder.optional Decoder.string) none
    flattenLocale := ← fields.getD "flatten_locale" (Decoder.optional Decoder.bool) none
    warnUnresolved := ← fields.getD "warn_unresolved" (Decoder.optional Decoder.bool) none
    leastUtterances := ← fields.getD "least_utterances" (Decoder.optional Decoder.count) none }

def recordType : RecordType := ⟨"FileConfig", [field "build" .filled sectionDecoder]⟩

/-- The settings of a file: those of its section for builds. -/
def decoder : Decoder Settings := fun context json => do
  let fields ← recordType.fieldsOf context json
  fields.getD "build" sectionDecoder .empty

/-- The settings of a file's text. -/
def ofText? (text : String) : Option Settings := do
  let document ← Toml.ofText? text
  (decoder .settings document.json).toOption

/-- The draft with what the settings set. -/
def applyTo (settings : Settings) (draft : ConfigDraft) : ConfigDraft :=
  { draft with
    locale := settings.locale.or draft.locale
    skillId := settings.skillId.or draft.skillId
    platform := settings.platform.or draft.platform
    leastUtterances := settings.leastUtterances.or draft.leastUtterances
    flattenLocale := draft.flattenLocale || settings.flattenLocale.getD false
    warnUnresolved := draft.warnUnresolved || settings.warnUnresolved.getD false }

end Settings

/-- The draft with what the command line sets. -/
def Overrides.applyTo (overrides : Overrides) (draft : ConfigDraft) : ConfigDraft :=
  { draft with
    locale := overrides.locale.or draft.locale
    platform := overrides.platform.or draft.platform
    flattenLocale := draft.flattenLocale || overrides.flattenLocale
    warnUnresolved := draft.warnUnresolved || overrides.warnUnresolved }

/-- The configuration of a definition, a settings file and a command line. -/
def layeredConfig (definition : Definition) (settings : Settings) (overrides : Overrides) :
    Except ConfigError BuildConfig :=
  (overrides.applyTo (settings.applyTo (.ofDefinition definition))).validate

end VoiceSkill
