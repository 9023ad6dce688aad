import VoiceSkill.Config
import VoiceSkill.Path

/-!
# Events

What happens during a run is kept as a list of events. An event has a level, a message and named
fields. Where it is shown, its message cannot steer a terminal.
-/

namespace VoiceSkill

/-- How severe an event is, the most severe level first. -/
inductive Level where
  | error
  | warn
  | info
  | debug
  | trace
deriving DecidableEq, Repr

namespace Level

/-- The levels from the most severe on. -/
def rank : Level → Nat
  | error => 0
  | warn => 1
  | info => 2
  | debug => 3
  | trace => 4

def name : Level → String
  | error => "ERROR"
  | warn => "WARN"
  | info => "INFO"
  | debug => "DEBUG"
  | trace => "TRACE"

/-- Whether events of a level are shown down to a given level. -/
def shownAt (level threshold : Level) : Bool := level.rank ≤ threshold.rank

end Level

/-- An intent with fewer samples than the configuration asks for. -/
structure CoverageWarning where
  intent : String
  samples : Nat
  least : UInt64
deriving DecidableEq, Repr

/-- The text of a warning. -/
def CoverageWarning.message (w : CoverageWarning) : String :=
  "intent `" ++ w.intent ++ "` has " ++ naturalText w.samples ++
    " sample utterance(s), expected at least " ++ naturalText w.least.toNat

/-- Something that happened. -/
inductive Event where
  | configValidated (locale : Locale) (platform : String) (flattenLocale : Bool)
  | settingsAbsent (path : Path)
  | settingsLoaded (path : Path)
  | definitionLoaded (path : Path) (locale : Locale) (platform : String)
  | lowCoverage (warning : CoverageWarning)
  | schemaStarted (locale : Locale) (platform : String) (invocations : Nat)
  | slotSkipped (key : String)
  | duplicateIntent (intent : String)
  | compilingSamples (intent : String) (samples : Nat)
  | unresolvedPlaceholder (intent placeholder : String) (warn : Bool)
  | noSamples (intent : String)
  | invocationAssembled (environment : String) (artifacts : Nat)
  | schemaAssembled (invocations artifacts : Nat)
  | noSynonyms (slot : String)
  | synonymsAssembled (files : Nat)
  | contentSkipped (key : String)
  | contentAssembled (files : Nat)
  | writing (writer : String) (count : Nat)
  | artifactWritten (path : Path)
  | documentPersisted (path : Path)
  | written (writer : String) (count : Nat)
  | dryRunComplete (files : Nat)
  | filesWritten (files : Nat) (out : Path)
deriving DecidableEq, Repr

/-- A named value of an event; the names of writers are shown in quotes. -/
structure EventField where
  name : String
  value : String
  quoted : Bool := false
deriving DecidableEq, Repr

/-- A field with a number. -/
def EventField.count (name : String) (n : Nat) : EventField := ⟨name, naturalText n, false⟩

namespace Event

def level : Event → Level
  | configValidated .. => .debug
  | settingsAbsent .. => .debug
  | settingsLoaded .. => .debug
  | definitionLoaded .. => .info
  | lowCoverage .. => .warn
  | schemaStarted .. => .info
  | slotSkipped .. => .warn
  | duplicateIntent .. => .debug
  | compilingSamples .. => .debug
  | unresolvedPlaceholder _ _ warn => if warn then .warn else .debug
  | noSamples .. => .debug
  | invocationAssembled .. => .debug
  | schemaAssembled .. => .info
  | noSynonyms .. => .trace
  | synonymsAssembled .. => .info
  | contentSkipped .. => .warn
  | contentAssembled .. => .info
  | writing .. => .debug
  | artifactWritten .. => .debug
  | documentPersisted .. => .trace
  | written .. => .info
  | dryRunComplete .. => .info
  | filesWritten .. => .info

def message : Event → String
  | configValidated .. => "build configuration validated"
  | settingsAbsent .. => "no config file, using defaults"
  | settingsLoaded .. => "config file loaded"
  | definitionLoaded .. => "skill definition loaded"
  | lowCoverage warning => warning.message
  | schemaStarted .. => "building skill schema"
  | slotSkipped .. => "slot key has no usable characters, skipping"
  | duplicateIntent .. => "duplicate intent declaration skipped"
  | compilingSamples .. => "compiling utterances"
  | unresolvedPlaceholder .. => "placeholder has no matching slot"
  | noSamples .. => "no sample utterances"
  | invocationAssembled .. => "invocation assembled"
  | schemaAssembled .. => "schema assembled"
  | noSynonyms .. => "no synonyms, skipping"
  | synonymsAssembled .. => "synonyms assembled"
  | contentSkipped .. => "content key has no usable characters, skipping"
  | contentAssembled .. => "content assembled"
  | writing .. => "writing artifacts"
  | artifactWritten .. => "artifact written"
  | documentPersisted .. => "document persisted"
  | written .. => "artifacts written"
  | dryRunComplete .. => "dry run complete, nothing written"
  | filesWritten .. => "artifacts written"

def fields : Event → List EventField
  | configValidated locale platform flattenLocale =>
    [⟨"locale", locale.tag, false⟩, ⟨"platform", platform, false⟩,
      ⟨"flatten_locale", if flattenLocale then "true" else "false", false⟩]
  | settingsAbsent path => [⟨"path", path.text, false⟩]
  | settingsLoaded path => [⟨"path", path.text, false⟩]
  | definitionLoaded path locale platform =>
    [⟨"definition", path.text, false⟩, ⟨"locale", locale.tag, false⟩,
      ⟨"platform", platform, false⟩]
  | lowCoverage warning =>
    [⟨"intent", warning.intent, false⟩, .count "templates" warning.samples,
      .count "least" warning.least.toNat]
  | schemaStarted locale platform invocations =>
    [⟨"locale", locale.tag, false⟩, ⟨"platform", platform, false⟩,
      .count "invocations" invocations]
  | slotSkipped key => [⟨"slot", key, false⟩]
  | duplicateIntent intent => [⟨"intent", intent, false⟩]
  | compilingSamples intent samples => [⟨"intent", intent, false⟩, .count "templates" samples]
  | unresolvedPlaceholder intent placeholder _ =>
    [⟨"intent", intent, false⟩, ⟨"placeholder", placeholder, false⟩]
  | noSamples intent => [⟨"intent", intent, false⟩]
  | invocationAssembled environment artifacts =>
    [⟨"environment", environment, false⟩, .count "artifacts" artifacts]
  | schemaAssembled invocations artifacts =>
    [.count "invocations" invocations, .count "artifacts" artifacts]
  | noSynonyms slot => [⟨"slot", slot, false⟩]
  | synonymsAssembled files => [.count "files" files]
  | contentSkipped key => [⟨"key", key, false⟩]
  | contentAssembled files => [.count "files" files]
  | writing writer count => [⟨"writer", writer, true⟩, .count "count" count]
  | artifactWritten path => [⟨"path", path.text, false⟩]
  | documentPersisted path => [⟨"path", path.text, false⟩]
  | written writer count => [⟨"writer", writer, true⟩, .count "count" count]
  | dryRunComplete files => [.count "files" files]
  | filesWritten files out => [.count "files" files, ⟨"out", out.text, false⟩]

/-- Whether a character is one of those controls that a terminal acts on: bell, backspace, form
feed, escape, delete. -/
def isTerminalControl (c : Char) : Bool := ['\x07', '\x08', '\x0c', '\x1b', '\x7f'].contains c

/-- A character of a message as it is shown: what could steer a terminal is shown by its number. -/
def messageChar (c : Char) : List Char :=
  if isTerminalControl c then ['\\', 'x', hexDigit (c.toNat / 16), hexDigit (c.toNat % 16)]
  else if 0x80 ≤ c.toNat && c.toNat ≤ 0x9f then ['\\', 'u', '\x7b'] ++ hexDigits c.toNat ++ ['\x7d']
  else [c]

/-- The message as it is shown. -/
def shownMessage (event : Event) : String :=
  String.ofList (event.message.toList.flatMap messageChar)

/-- An event as it is shown: its level, its message, and its fields with their values. -/
def line (event : Event) : String :=
  " ".intercalate (event.level.name :: event.shownMessage :: event.fields.map fun f =>
    f.name ++ "=" ++ if f.quoted then showText f.value else f.value)

end Event

/-- The event of a configuration that has been validated. -/
def BuildConfig.event (config : BuildConfig) : Event :=
  .configValidated config.locale config.platform config.flattenLocale

end VoiceSkill
