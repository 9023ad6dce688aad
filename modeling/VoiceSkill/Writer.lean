import VoiceSkill.Artifact
import VoiceSkill.Document.Printer
import VoiceSkill.Logged

/-!
# Writers

A writer stores documents at places, by effects of some monad. All artifacts of a set are written
one after the other, up to the first that cannot be written.

One writer stores documents as files below a root directory. What stores a file, and creates the
directories it needs, is left open: it takes a path and a text and says whether it succeeded.
-/

namespace VoiceSkill

/-- A way to store documents. -/
structure Writer (m : Type → Type) where
  name : String
  write : Path → Document → m (Logged WriteError Unit)

namespace Writer

variable {m : Type → Type} [Monad m]

/-- Writes artifacts in their order. -/
def writeEach (writer : Writer m) : List Artifact → m (Logged WriteError Unit)
  | [] => pure (pure ())
  | artifact :: rest => do
    let written ← writer.write artifact.path artifact.document
    written.andThen fun () => do
      let others ← writer.writeEach rest
      return do
        Logged.report (.artifactWritten artifact.path)
        others

/-- Writes artifacts, and gives their number when all of them have been written. -/
def writeAll (writer : Writer m) (artifacts : List Artifact) : m (Logged WriteError Nat) := do
  let written ← writer.writeEach artifacts
  return do
    Logged.report (.writing writer.name artifacts.length)
    written
    Logged.report (.written writer.name artifacts.length)
    return artifacts.length

end Writer

/-! ## Files -/

/-- The file of an artifact below a root directory. -/
def Path.resolve (root path : Path) : Except WriteError Path := do
  return root.join (← path.checked)

/-- The writer to files below a root directory. -/
def fileWriter {m : Type → Type} [Monad m] (store : Path → String → m Bool) (root : Path) :
    Writer m where
  name := "filesystem"
  write path document := do
    match root.resolve path with
    | .error e => return ⟨.error e, []⟩
    | .ok target =>
      if ← store target document.fileText then return Logged.report (.documentPersisted path)
      else return ⟨.error (.unwritable target), []⟩

end VoiceSkill
