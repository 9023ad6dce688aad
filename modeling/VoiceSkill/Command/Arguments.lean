import VoiceSkill.Path

/-!
# Command lines

A command line names a command after options that hold for every command. Options may be given again
after the command, and then count in place of those before it; a command that writes files takes the
definition's path and says where the files go.
-/

namespace VoiceSkill

/-- What a command that writes files is given. -/
structure OutputArguments where
  definition : Path
  out : Path
  dryRun : Bool
deriving DecidableEq, Repr

/-- A command with its own arguments. -/
inductive Command where
  | build (output : OutputArguments) (flattenLocale warnUnresolved : Bool)
  | synonyms (output : OutputArguments)
  | content (output : OutputArguments)
  | lint (definition : Path)
deriving DecidableEq, Repr

/-- What a command line says. -/
structure Arguments where
  command : Command
  config : Option Path
  locale : Option String
  platform : Option String
  verbose : Bool
deriving DecidableEq, Repr

/-- Why a command line gives no command to run. -/
inductive UsageError where
  /-- Help is asked for. -/
  | help
  /-- The version is asked for. -/
  | version
  /-- Nothing is given at all. -/
  | nothingGiven
  | missingCommand
  | missingDefinition
  | unknownCommand
  | unknownArgument
  | repeatedArgument
  | invalidValue
  /-- A flag is given a value. -/
  | surplusValue
deriving DecidableEq, Repr

/-- Whether help or the version is asked for, which is no mistake. -/
def UsageError.isRequest : UsageError → Bool
  | .help => true
  | .version => true
  | _ => false

/-- The names of the commands. -/
inductive CommandName where
  | build
  | synonyms
  | content
  | lint
deriving DecidableEq, Repr

def CommandName.ofText? (text : String) : Option CommandName :=
  if text = "build" then some .build
  else if text = "synonyms" then some .synonyms
  else if text = "content" then some .content
  else if text = "lint" then some .lint
  else none

/-- An option with a value. -/
inductive ValueOption where
  | config
  | locale
  | platform
  | out
deriving DecidableEq, Repr

/-- Whether the value of an option is a path, which may not be empty. -/
def ValueOption.isPath : ValueOption → Bool
  | .config => true
  | .out => true
  | _ => false

/-- An option without a value. -/
inductive Flag where
  | verbose
  | dryRun
  | flattenLocale
  | warnUnresolved
deriving DecidableEq, Repr

/-- What an option is. -/
inductive OptionKind where
  | value (option : ValueOption)
  | flag (flag : Flag)
  | help
  | version

/-- Where on the command line an argument stands: in front of the command, or behind it. -/
abbrev Place := Option CommandName

namespace Place

/-- Whether the command writes files. -/
def writesFiles : Place → Bool
  | none => false
  | some .lint => false
  | some _ => true

/-- Whether the command is the one that builds a schema. -/
def isBuild (place : Place) : Bool := place == some .build

/-- The option with a long name. -/
def long? (place : Place) (name : String) : Option OptionKind :=
  if name = "config" then some (.value .config)
  else if name = "locale" then some (.value .locale)
  else if name = "platform" then some (.value .platform)
  else if name = "verbose" then some (.flag .verbose)
  else if name = "help" then some .help
  else if name = "version" && place.isNone then some .version
  else if name = "out" && place.writesFiles then some (.value .out)
  else if name = "dry-run" && place.writesFiles then some (.flag .dryRun)
  else if name = "flatten-locale" && place.isBuild then some (.flag .flattenLocale)
  else if name = "warn-unresolved" && place.isBuild then some (.flag .warnUnresolved)
  else none

/-- The option with a short name. -/
def short? (place : Place) (name : Char) : Option OptionKind :=
  if name = 'v' then some (.flag .verbose)
  else if name = 'h' then some .help
  else if name = 'V' && place.isNone then some .version
  else if name = 'o' && place.writesFiles then some (.value .out)
  else none

end Place

/-- What has been read last and not been looked at yet. -/
inductive Pending where
  | nothing
  /-- An option that still needs its value. -/
  | awaiting (option : ValueOption)
  | value (option : ValueOption) (text : String)
  | definition (text : String)

/-- What has been given in one place. -/
structure Given where
  values : List (ValueOption × String)
  flags : List Flag
  definition : Option String

namespace Given

def empty : Given := ⟨[], [], none⟩

/-- The value of an option. -/
def value? (given : Given) (option : ValueOption) : Option String :=
  (given.values.find? fun v => v.1 == option).map Prod.snd

/-- Adds the value of an option, which may stand only once. -/
def addValue (given : Given) (option : ValueOption) (text : String) : Except UsageError Given :=
  if (given.value? option).isSome then .error .repeatedArgument
  else if option.isPath && text == "" then .error .invalidValue
  else .ok { given with values := (option, text) :: given.values }

/-- Adds a flag, which may stand only once. -/
def addFlag (given : Given) (flag : Flag) : Except UsageError Given :=
  if given.flags.contains flag then .error .repeatedArgument
  else .ok { given with flags := flag :: given.flags }

/-- Takes over what has been read last. -/
def settle (given : Given) : Pending → Except UsageError Given
  | .nothing => .ok given
  | .awaiting _ => .error .invalidValue
  | .value option text => given.addValue option text
  | .definition text =>
    if text = "" then .error .invalidValue else .ok { given with definition := some text }

end Given

/-- A place on the way through a command line. -/
structure Progress where
  given : Given
  pending : Pending
  /-- Whether a definition has been read. -/
  named : Bool

namespace Progress

def start : Progress := ⟨.empty, .nothing, false⟩

/-- Takes over what has been read last. -/
def settle (progress : Progress) : Except UsageError Progress := do
  return { progress with given := ← progress.given.settle progress.pending, pending := .nothing }

/-- Reads an option with the value attached to it. -/
def attach (progress : Progress) (option : ValueOption) (text : String) :
    Except UsageError Progress := do
  let progress ← progress.settle
  return { progress with given := ← progress.given.addValue option text }

/-- Reads an option whose value is to come. -/
def await (progress : Progress) (option : ValueOption) : Except UsageError Progress := do
  return { ← progress.settle with pending := .awaiting option }

/-- Reads a flag. -/
def flag (progress : Progress) (flag : Flag) : Except UsageError Progress := do
  let progress ← progress.settle
  return { progress with given := ← progress.given.addFlag flag }

/-- Stops for a request, once what has been read last is in order. -/
def request (progress : Progress) (error : UsageError) : Except UsageError Progress := do
  let _ ← progress.settle
  throw error

/-- Reads an option by its long name, with the value that may be attached to it. -/
def long (progress : Progress) (place : Place) (name : String) (attached : Option String) :
    Except UsageError Progress :=
  match place.long? name, attached with
  | none, _ => .error .unknownArgument
  | some (.value option), some text => progress.attach option text
  | some (.value option), none => progress.await option
  | some _, some _ => .error .surplusValue
  | some (.flag flag), none => progress.flag flag
  | some .help, none => progress.request .help
  | some .version, none => progress.request .version

/-- Reads options by their short names; what comes after one that takes a value is its value. -/
def short (progress : Progress) (place : Place) : List Char → Except UsageError Progress
  | [] => .ok progress
  | name :: rest =>
    match place.short? name with
    | none => .error .unknownArgument
    | some (.flag flag) => do (← progress.flag flag).short place rest
    | some .help => progress.request .help
    | some .version => progress.request .version
    | some (.value option) =>
      match rest with
      | [] => progress.await option
      | '=' :: text => progress.attach option (String.ofList text)
      | text => progress.attach option (String.ofList text)

/-- Reads an argument that is no option. -/
def positional (progress : Progress) (place : Place) (text : String) :
    Except UsageError Progress :=
  match place with
  | none => .error .unknownCommand
  | some _ =>
    if progress.named then .error .unknownArgument
    else do return { ← progress.settle with pending := .definition text, named := true }

/-- Reads an argument that stands before any two dashes. -/
def argument (progress : Progress) (place : Place) (text : String) :
    Except UsageError Progress :=
  match text.toList with
  | '-' :: '-' :: name =>
    match name.span (· != '=') with
    | (name, []) => progress.long place (String.ofList name) none
    | (name, _ :: value) => progress.long place (String.ofList name) (some (String.ofList value))
  | '-' :: c :: names => progress.short place (c :: names)
  | _ =>
    match progress.pending with
    | .awaiting option => .ok { progress with pending := .value option text }
    | _ => progress.positional place text

/-- Whether an option needs its value next. -/
def isAwaiting (progress : Progress) : Bool :=
  match progress.pending with
  | .awaiting _ => true
  | _ => false

end Progress

/-- Reads the arguments after two dashes, none of which is an option. -/
def readTrailing (place : Place) (progress : Progress) :
    List String → Except UsageError Progress
  | [] => .ok progress
  | text :: rest => do readTrailing place (← progress.positional place text) rest

/-- Reads the arguments behind a command. -/
def readBehind (place : Place) (progress : Progress) : List String → Except UsageError Progress
  | [] => .ok progress
  | text :: rest =>
    if text = "--" then readTrailing place progress rest
    else do readBehind place (← progress.argument place text) rest

/-- The outcome of asking for help on commands: there is help on each of them, and on help. -/
def helpOn : List String → UsageError
  | [] => .help
  | [topic] =>
    if topic = "help" || (CommandName.ofText? topic).isSome then .help else .unknownCommand
  | _ => .unknownCommand

/-- The outcome of an argument after two dashes in front of a command: a command may not stand
there. -/
def trailingCommand (text : String) : UsageError :=
  if text = "help" || (CommandName.ofText? text).isSome then .unknownArgument else .unknownCommand

/-- The path that files go to when none is given. -/
def defaultOut : String := "speech-assets"

/-- The arguments of a command, given what stands in front of it and behind it. -/
def assembleArguments (name : CommandName) (front behind : Given) (definition : String) :
    Arguments :=
  let output : OutputArguments :=
    ⟨⟨definition⟩, ⟨(behind.value? .out).getD defaultOut⟩, behind.flags.contains .dryRun⟩
  let both (option : ValueOption) : Option String :=
    (behind.value? option).or (front.value? option)
  { command := match name with
      | .build => .build output (behind.flags.contains .flattenLocale)
        (behind.flags.contains .warnUnresolved)
      | .synonyms => .synonyms output
      | .content => .content output
      | .lint => .lint ⟨definition⟩
    config := (both .config).map Path.mk
    locale := both .locale
    platform := both .platform
    verbose := behind.flags.contains .verbose || front.flags.contains .verbose }

/-- Reads what stands behind a command. -/
def readCommand (name : CommandName) (front : Progress) (arguments : List String) :
    Except UsageError Arguments := do
  let behind ← (← readBehind (some name) .start arguments).settle
  match behind.given.definition with
  | none => throw .missingDefinition
  | some definition =>
    let front ← front.settle
    return assembleArguments name front.given behind.given definition

/-- Ends a command line that names no command. -/
def withoutCommand (front : Progress) : Except UsageError Arguments := do
  let front ← front.settle
  throw (if front.given.values.isEmpty && front.given.flags.isEmpty then .nothingGiven
    else .missingCommand)

/-- Reads what stands in front of a command, and the command. -/
def readFront (front : Progress) : List String → Except UsageError Arguments
  | [] => withoutCommand front
  | text :: rest =>
    if !front.isAwaiting && text == "help" then .error (helpOn rest)
    else match if front.isAwaiting then none else CommandName.ofText? text with
      | some name => readCommand name front rest
      | none =>
        if text = "--" then
          match rest with
          | [] => withoutCommand front
          | next :: _ => .error (trailingCommand next)
        else do readFront (← front.argument none text) rest

/-- The arguments of a command line. -/
def Arguments.ofList (arguments : List String) : Except UsageError Arguments :=
  readFront .start arguments

end VoiceSkill
