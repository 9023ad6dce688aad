import VoiceSkill.Build
import VoiceSkill.Command.Arguments
import VoiceSkill.Command.Settings
import VoiceSkill.Coverage
import VoiceSkill.Disk
import VoiceSkill.Writer
import VoiceSkill.Writer.Memory

/-!
# Running commands

A command reads a settings file and a definition and resolves the configuration before it assembles
anything. It works on whatever can read and store files.
-/

namespace VoiceSkill

/-- What reads and stores files. -/
structure Host (m : Type → Type) where
  read : Path → m Reading
  /-- Stores a file, with the directories it needs, and says whether that succeeded. -/
  store : Path → String → m Bool

/-- The files of a disk. -/
def diskHost : Host (StateM Disk) where
  read path := fun disk => (disk.read path, disk)
  store path content := fun disk =>
    let (disk, stored) := disk.store path content
    (stored, disk)

/-- Why a command fails. -/
inductive Failure where
  | unreadableSettings (path : Path)
  | invalidSettings (path : Path)
  | unreadableDefinition (path : Path)
  | invalidDefinition (path : Path) (error : JsonError)
  | config (error : ConfigError)
  | build (operation : Operation) (error : BuildError)
deriving DecidableEq, Repr

namespace Failure

def message : Failure → String
  | unreadableSettings path => "failed to read config `" ++ path.text ++ "`"
  | invalidSettings path => "invalid config file `" ++ path.text ++ "`"
  | unreadableDefinition path => "failed to read definition `" ++ path.text ++ "`"
  | invalidDefinition path _ => "invalid skill definition `" ++ path.text ++ "`"
  | config _ => "invalid build configuration"
  | build operation _ => operation.name ++ " build failed"

/-- What lies behind a failure. -/
def cause? : Failure → Option String
  | invalidDefinition _ error => some error.message
  | config error => some error.message
  | build _ error => some error.message
  | _ => none

end Failure

/-- The settings file that is read when none is named. -/
def defaultSettingsPath : Path := ⟨"voicepack.toml"⟩

/-- The settings in a file that has been read. -/
def settingsOf (path : Path) (content : String) : Logged Failure Settings :=
  match Settings.ofText? content with
  | none => Logged.ofExcept (.error (.invalidSettings path))
  | some settings => do
    Logged.report (.settingsLoaded path)
    return settings

/-- The settings that reading a file gives. A file that is not named need not be there. -/
def settingsOfReading (named : Option Path) (reading : Reading) : Logged Failure Settings :=
  let path := named.getD defaultSettingsPath
  match reading, named with
  | .text content, _ => settingsOf path content
  | .absent, none => do
    Logged.report (.settingsAbsent path)
    return .empty
  | _, _ => Logged.ofExcept (.error (.unreadableSettings path))

/-- The definition that reading a file gives. -/
def definitionOfReading (path : Path) : Reading → Logged Failure Definition
  | .text content =>
    Logged.ofExcept ((Definition.ofText content).mapError (.invalidDefinition path))
  | _ => Logged.ofExcept (.error (.unreadableDefinition path))

/-- The configuration of a definition that has been read. -/
def configFor (path : Path) (definition : Definition) (settings : Settings)
    (overrides : Overrides) : Logged Failure BuildConfig :=
  match layeredConfig definition settings overrides with
  | .error e => Logged.ofExcept (.error (.config e))
  | .ok config => do
    Logged.report config.event
    Logged.report (.definitionLoaded path config.locale config.platform)
    return config

/-- Reads a definition and resolves its configuration. -/
def prepare (path : Path) (settings : Settings) (overrides : Overrides) (reading : Reading) :
    Logged Failure (Definition × BuildConfig) := do
  let definition ← definitionOfReading path reading
  return (definition, ← configFor path definition settings overrides)

namespace Arguments

/-- The definition that a command works on. -/
def definition (arguments : Arguments) : Path :=
  match arguments.command with
  | .build output _ _ => output.definition
  | .synonyms output => output.definition
  | .content output => output.definition
  | .lint path => path

/-- What the command line sets of the configuration. -/
def overrides (arguments : Arguments) : Overrides :=
  match arguments.command with
  | .build _ flattenLocale warnUnresolved =>
    ⟨arguments.locale, arguments.platform, flattenLocale, warnUnresolved⟩
  | _ => ⟨arguments.locale, arguments.platform, false, false⟩

end Arguments

section

variable {m : Type → Type} [Monad m]

/-- Builds in memory and lists the files. -/
def dryRun (fresh : Nat → Uuid) (output : OutputArguments) (operation : Operation)
    (definition : Definition) (config : BuildConfig) : Logged BuildError (List String) :=
  let build := (memoryWriter []).build definition config fresh operation
  let (summary, _) := build.run .empty
  do
    let summary ← summary
    Logged.report (.dryRunComplete summary.paths.length)
    return summary.paths.map fun path => (output.out.join path).text

/-- Builds files. -/
def writeFiles (host : Host m) (fresh : Nat → Uuid) (output : OutputArguments)
    (operation : Operation) (definition : Definition) (config : BuildConfig) :
    m (Logged BuildError (List String)) := do
  let writer := fileWriter host.store output.out
  let summary ← writer.build definition config fresh operation
  return do
    let summary ← summary
    Logged.report (.filesWritten summary.written output.out)
    return []

/-- Runs an operation, in memory or on files. -/
def runOperation (host : Host m) (fresh : Nat → Uuid) (output : OutputArguments)
    (operation : Operation) (definition : Definition) (config : BuildConfig) :
    m (Logged Failure (List String)) := do
  let printed ←
    if output.dryRun then pure (dryRun fresh output operation definition config)
    else writeFiles host fresh output operation definition config
  return printed.mapError (.build operation)

/-- What is printed about the coverage when no intent is warned of. -/
def coverageLines (definition : Definition) (config : BuildConfig) : List String :=
  if (definition.coverageWarnings config).isEmpty then
    ["all intents meet the minimum of " ++ naturalText config.leastUtterances.toNat ++
      " utterances"]
  else []

/-- Runs a command on a definition. -/
def runCommand (host : Host m) (fresh : Nat → Uuid) (command : Command)
    (definition : Definition) (config : BuildConfig) : m (Logged Failure (List String)) := do
  match command with
  | .build output _ _ =>
    let printed ← runOperation host fresh output .schema definition config
    return do
      Logged.reportAll (definition.coverageEvents config)
      printed
  | .synonyms output => runOperation host fresh output .synonyms definition config
  | .content output => runOperation host fresh output .content definition config
  | .lint _ =>
    return do
      Logged.reportAll (definition.coverageEvents config)
      return coverageLines definition config

/-- Runs a command line. The result is what it prints. -/
def Arguments.run (arguments : Arguments) (host : Host m) (fresh : Nat → Uuid) :
    m (Logged Failure (List String)) := do
  let settings := settingsOfReading arguments.config
    (← host.read (arguments.config.getD defaultSettingsPath))
  settings.andThen fun settings => do
    let prepared := prepare arguments.definition settings arguments.overrides
      (← host.read arguments.definition)
    prepared.andThen fun (definition, config) =>
      runCommand host fresh arguments.command definition config

end

/-- The events that are shown, by whether details are asked for. -/
def shownEvents (verbose : Bool) (log : List Event) : List Event :=
  log.filter fun event => event.level.shownAt (if verbose then .debug else .info)

end VoiceSkill
