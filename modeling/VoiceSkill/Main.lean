import VoiceSkill.Command.Run

/-!
# The command line program

Reads the arguments, runs the command on the files of the system, and prints what it gives.
-/

namespace VoiceSkill

/-- The files of the system. -/
def systemHost : Host IO where
  read path := do
    try
      return .text (← IO.FS.readFile path.text)
    catch
      | .noFileOrDirectory .. => return .absent
      | _ => return .unreadable
  store path content := do
    try
      let directory := path.directory
      if directory.text != "" then IO.FS.createDirAll directory.text
      IO.FS.writeFile path.text content
      return true
    catch _ => return false

/-- A number that no other run is likely to begin with. -/
def randomSerial : IO Nat := do
  let bytes ← IO.getRandomBytes 9
  return bytes.toList.foldl (fun n b => 256 * n + b.toNat) 0

/-- How the program is called. -/
def usageText : String :=
  "Usage: voicepack [OPTIONS] <build|synonyms|content|lint> <DEFINITION> [OPTIONS]\n\n" ++
  "Commands:\n" ++
  "  build     Build entities, intents, samples and manifests\n" ++
  "  synonyms  Build one synonym file per slot type that has synonyms\n" ++
  "  content   Build one file per piece of content\n" ++
  "  lint      Report intents with fewer samples than required\n\n" ++
  "Options:\n" ++
  "      --config <PATH>      Settings file with a [build] table\n" ++
  "      --locale <TAG>       Override the locale\n" ++
  "      --platform <TAG>     Override the platform\n" ++
  "  -v, --verbose            Show details\n" ++
  "  -o, --out <DIRECTORY>    Output directory\n" ++
  "      --dry-run            List the files without writing them\n" ++
  "      --flatten-locale     Leave out the directory of the locale\n" ++
  "      --warn-unresolved    Warn of placeholders without a slot\n" ++
  "  -h, --help               Show this help\n" ++
  "  -V, --version            Show the version\n"

def versionText : String := "voicepack 0.1.0\n"

/-- Prints what a command line without a command to run asks for. -/
def answerUsage : UsageError → IO UInt32
  | .help => do
    IO.print usageText
    return 0
  | .version => do
    IO.print versionText
    return 0
  | _ => do
    IO.eprint usageText
    return 2

end VoiceSkill

def main (arguments : List String) : IO UInt32 := do
  match VoiceSkill.Arguments.ofList arguments with
  | .error error => VoiceSkill.answerUsage error
  | .ok arguments =>
    let time ← IO.monoMsNow
    let serial ← VoiceSkill.randomSerial
    let fresh (n : Nat) : VoiceSkill.Uuid := .generated time (serial + n)
    let outcome ← arguments.run VoiceSkill.systemHost fresh
    for event in VoiceSkill.shownEvents arguments.verbose outcome.log do
      IO.println event.line
    match outcome.result with
    | .ok lines =>
      for line in lines do IO.println line
      return 0
    | .error failure =>
      IO.eprintln ("Error: " ++ failure.message)
      if let some cause := failure.cause? then IO.eprintln ("Caused by: " ++ cause)
      return 1
