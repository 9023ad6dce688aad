import VoiceSkill.Path

/-!
# Disks

A tree of directories and files kept in memory, with a current directory. A path is walked step by
step: every step but the last has to lead to a directory. Storing a file creates the directories
that it needs.
-/

namespace VoiceSkill

/-- A place on a disk: the names of the directories that lead there, and its own. -/
abbrev Location := List String

/-- Directories and files. -/
structure Disk where
  /-- The current directory, which relative paths start from. -/
  current : Location
  files : List (Location × String)
  directories : List Location
deriving Repr, Inhabited

/-- What reading a file gives. -/
inductive Reading where
  | text (content : String)
  | absent
  | unreadable
deriving DecidableEq, Repr

/-- The longest name of a file or directory, in bytes. -/
def nameLimit : Nat := 255

/-- The longest path, in bytes. -/
def pathLimit : Nat := 4095

/-- Whether a text can be looked up as a path at all. -/
def Path.isUsable (path : Path) : Bool :=
  path.text != "" && !path.text.toList.contains '\x00' && path.text.utf8ByteSize ≤ pathLimit

/-- Whether a path is written as that of a directory. -/
def Path.namesDirectory (path : Path) : Bool :=
  match path.pieces.getLast? with
  | some piece => piece.isEmpty || piece == ['.'] || piece == ['.', '.']
  | none => false

namespace Disk

def isDirectory (disk : Disk) (location : Location) : Bool :=
  location.isEmpty || disk.current == location || disk.directories.contains location

def file? (disk : Disk) (location : Location) : Option String :=
  (disk.files.find? fun entry => entry.1 == location).map Prod.snd

/-- Where a path starts. -/
def start (disk : Disk) (path : Path) : Location := if path.isAbsolute then [] else disk.current

/-- Where a step leads. -/
def follow (location : Location) : Component → Location
  | .root => []
  | .current => location
  | .parent => location.dropLast
  | .name text => location ++ [text]

/-- Walks a path, as long as it leads through directories. -/
def walk (disk : Disk) (location : Location) : List Component → Except Reading Location
  | [] => .ok location
  | step :: steps =>
    if disk.isDirectory location then disk.walk (follow location step) steps
    else if (disk.file? location).isSome then .error .unreadable
    else .error .absent

/-- Reads the file at a path. -/
def read (disk : Disk) (path : Path) : Reading :=
  if !path.isUsable then if path.text == "" then .absent else .unreadable
  else match disk.walk (disk.start path) path.components with
    | .error reading => reading
    | .ok location =>
      match disk.file? location with
      | some content => if path.namesDirectory then .unreadable else .text content
      | none => if disk.isDirectory location then .unreadable else .absent

/-- Whether a directory or file can have the name of a step. -/
def fits : Component → Bool
  | .name text => text.utf8ByteSize ≤ nameLimit
  | _ => true

/-- Walks a path and creates the directories that are not there. Those stay even if the walk ends
before it arrives. -/
def enter (disk : Disk) (location : Location) : List Component → Disk × Option Location
  | [] => (disk, some location)
  | step :: steps =>
    let next := follow location step
    if disk.isDirectory next then disk.enter next steps
    else if (disk.file? next).isSome || !fits step then (disk, none)
    else { disk with directories := next :: disk.directories }.enter next steps

/-- Puts a file into a list of files, in the place of one at the same location. -/
def putFile (location : Location) (content : String) :
    List (Location × String) → List (Location × String)
  | [] => [(location, content)]
  | (l, c) :: rest =>
    if l == location then (l, content) :: rest else (l, c) :: putFile location content rest

/-- Whether a file can be stored under the last step of a path, in a directory. -/
def accepts (disk : Disk) (path : Path) (parent : Location) (name : String) : Bool :=
  !name.toList.contains '\x00' && fits (.name name) && !path.namesDirectory &&
    !disk.isDirectory (parent ++ [name])

/-- Stores a text at a path, and says whether a file can be there. -/
def store (disk : Disk) (path : Path) (content : String) : Disk × Bool :=
  let parents := path.components.dropLast
  if path.text.utf8ByteSize > pathLimit || parents.any (·.label.toList.contains '\x00') then
    (disk, false)
  else match disk.enter (disk.start path) parents, path.components.getLast? with
    | (disk, some parent), some (.name name) =>
      if disk.accepts path parent name then
        ({ disk with files := putFile (parent ++ [name]) content disk.files }, true)
      else (disk, false)
    | (disk, _), _ => (disk, false)

/-- The files below a directory, by their paths from there, in the order of the paths' texts. -/
def filesBelow (disk : Disk) (location : Location) : List (Path × String) :=
  (disk.files.filterMap fun entry =>
    if location.isPrefixOf entry.1 then
      some (Path.mk ("/".intercalate (entry.1.drop location.length)), entry.2)
    else none).mergeSort fun a b => a.1.text ≤ b.1.text

end Disk

end VoiceSkill
