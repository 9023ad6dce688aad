import VoiceSkill.Document
import VoiceSkill.Path

/-!
# Artifacts

An artifact is a document with the place where it is to be written, a path below some root that
never leads out of it. A set of artifacts keeps the order in which they were added and holds at most
one for each place; adding never changes what is there.
-/

namespace VoiceSkill

/-- A document and its place. -/
structure Artifact where
  path : Path
  document : Document
deriving Repr

/-- Why a path is no place for an artifact. -/
inductive PathFault where
  | empty
  | escapes
  | absolute
deriving DecidableEq, Repr

def PathFault.reason : PathFault → String
  | empty => "path is empty"
  | escapes => "path escapes the output root"
  | absolute => "path must be relative"

/-- Why an artifact is not added or not written. -/
inductive WriteError where
  | invalidPath (path : Path) (fault : PathFault)
  | duplicatePath (path : Path)
  | rejected (path : Path)
  /-- The file could not be written. -/
  | unwritable (path : Path)
deriving DecidableEq, Repr

def WriteError.message : WriteError → String
  | .invalidPath path fault => "invalid artifact path `" ++ path.text ++ "`: " ++ fault.reason
  | .duplicatePath path => "duplicate artifact path `" ++ path.text ++ "`"
  | .rejected path => "write rejected for `" ++ path.text ++ "`: configured to fail"
  | .unwritable path => "failed to write `" ++ path.text ++ "`"

/-- The fault of a step, in a path that has to stay below a root. -/
def Component.fault? : Component → Option PathFault
  | .parent => some .escapes
  | .root => some .absolute
  | _ => none

/-- The first fault of a path that has to stay below a root. -/
def Path.fault? (path : Path) : Option PathFault :=
  if path.text = "" then some .empty else path.components.findSome? Component.fault?

/-- Accepts a path below a root. -/
def Path.checked (path : Path) : Except WriteError Path :=
  match path.fault? with
  | some fault => .error (.invalidPath path fault)
  | none => .ok path

/-- Artifacts in the order in which they were added. -/
structure ArtifactSet where
  artifacts : List Artifact
deriving Repr, Inhabited

namespace ArtifactSet

def empty : ArtifactSet := ⟨[]⟩

def size (set : ArtifactSet) : Nat := set.artifacts.length

def isEmpty (set : ArtifactSet) : Bool := set.artifacts.isEmpty

def paths (set : ArtifactSet) : List Path := set.artifacts.map Artifact.path

/-- The artifact at a place. -/
def get? (set : ArtifactSet) (path : Path) : Option Artifact :=
  set.artifacts.find? fun a => a.path.sameAs path

/-- Whether there is an artifact at a place. -/
def contains (set : ArtifactSet) (path : Path) : Bool :=
  set.paths.any fun p => p.sameAs path

/-- Adds an artifact at a place below the root that is still free. -/
def push (set : ArtifactSet) (artifact : Artifact) : Except WriteError ArtifactSet := do
  let path ← artifact.path.checked
  if set.contains path then throw (.duplicatePath path)
  return ⟨set.artifacts ++ [artifact]⟩

/-- An artifact is added exactly if its path stays below the root and its place is free. -/
theorem push_eq_ok_iff {set set' : ArtifactSet} {artifact : Artifact} :
    set.push artifact = .ok set' ↔
      artifact.path.fault? = none ∧ set.contains artifact.path = false ∧
        set' = ⟨set.artifacts ++ [artifact]⟩ := by
  rw [push, Path.checked]
  cases artifact.path.fault? with
  | some fault => simp [bind, Except.bind]
  | none =>
    cases h : set.contains artifact.path with
    | true => simp [bind, Except.bind, h, throw, throwThe, MonadExceptOf.throw]
    | false => simp [bind, Except.bind, h, pure, Except.pure, eq_comm (b := set')]

/-- A place is taken exactly if an artifact is found there. -/
theorem contains_eq_isSome_get? (set : ArtifactSet) (path : Path) :
    set.contains path = (set.get? path).isSome := by
  rw [contains, get?, paths, List.any_map, List.isSome_find?]
  rfl

/-- Adds artifacts until one is refused; those before it stay. -/
def pushAll (set : ArtifactSet) : List Artifact → ArtifactSet × Option WriteError
  | [] => (set, none)
  | artifact :: rest =>
    match set.push artifact with
    | .error e => (set, some e)
    | .ok set => pushAll set rest

/-- Adds the artifacts of another set, until one is refused. -/
def extend (set other : ArtifactSet) : ArtifactSet × Option WriteError :=
  set.pushAll other.artifacts

end ArtifactSet

end VoiceSkill
