import VoiceSkill.Text

/-!
# Paths

A path is kept as it was written, and read as a list of components: a slash in front is the root,
slashes elsewhere only separate, and `.` counts only at the very front of a path that does not begin
at the root. Two paths are the same place when their components agree.
-/

namespace VoiceSkill

/-- A step of a path. -/
inductive Component where
  | root
  | current
  | parent
  | name (text : String)
deriving DecidableEq, Repr

namespace Component

/-- Root, current and parent come before names. -/
def rank : Component → Nat
  | root => 0
  | current => 1
  | parent => 2
  | name _ => 3

/-- The text by which names are ordered. -/
def label : Component → String
  | name text => text
  | _ => ""

/-- The order of components: names by code point, after the other steps. -/
def before (a b : Component) : Bool :=
  a.rank < b.rank || (a.rank == b.rank && decide (a.label < b.label))

end Component

/-- A path as it was written. -/
structure Path where
  text : String
deriving DecidableEq, Repr, Inhabited

/-- The component that a stretch after the first stands for, if any. -/
def innerComponent (piece : List Char) : Option Component :=
  if piece.isEmpty || piece == ['.'] then none
  else if piece == ['.', '.'] then some .parent
  else some (.name (String.ofList piece))

/-- The component that the first stretch of a path stands for, if any. -/
def firstComponent (piece : List Char) : Option Component :=
  if piece == ['.'] then some .current else innerComponent piece

namespace Path

/-- Whether the path begins at the root. -/
def isAbsolute (path : Path) : Bool := path.text.toList.head? == some '/'

def pieces (path : Path) : List (List Char) := splitAtChar '/' path.text.toList

/-- The components of a path. -/
def components (path : Path) : List Component :=
  if path.isAbsolute then .root :: path.pieces.filterMap innerComponent
  else match path.pieces with
    | [] => []
    | first :: rest => (firstComponent first).toList ++ rest.filterMap innerComponent

/-- Whether two paths have the same components. -/
def sameAs (path other : Path) : Bool := path.components == other.components

theorem sameAs_iff {path other : Path} :
    path.sameAs other = true ↔ path.components = other.components := beq_iff_eq

@[simp] theorem sameAs_self (path : Path) : path.sameAs path = true := sameAs_iff.2 rfl

theorem sameAs_comm (path other : Path) : path.sameAs other = other.sameAs path := by
  rw [Bool.eq_iff_iff, sameAs_iff, sameAs_iff, eq_comm]

theorem sameAs_trans {a b c : Path} (h : a.sameAs b = true) (h' : b.sameAs c = true) :
    a.sameAs c = true :=
  sameAs_iff.2 ((sameAs_iff.1 h).trans (sameAs_iff.1 h'))

/-- Lists of components in dictionary order. -/
def notAfter : List Component → List Component → Bool
  | [], _ => true
  | _ :: _, [] => false
  | a :: as, b :: bs => if a == b then notAfter as bs else a.before b

/-- The order of paths: by components. -/
def le (path other : Path) : Bool := notAfter path.components other.components

/-- The second path as seen from the first: an absolute path stands for itself. -/
def join (base path : Path) : Path :=
  if path.isAbsolute then path
  else if base.text == "" || base.text.toList.getLast? == some '/' then ⟨base.text ++ path.text⟩
  else ⟨base.text ++ "/" ++ path.text⟩

/-- A place below a path, by its written name. -/
def child (base : Path) (name : String) : Path := base.join ⟨name⟩

/-- A path as far as its last slash. -/
def directory (path : Path) : Path :=
  ⟨String.ofList (path.text.toList.reverse.dropWhile (· != '/')).reverse⟩

/-- Stretches that name no step inside a path. -/
def isIdle (piece : List Char) : Bool := (innerComponent piece).isNone

/-- Drops the first stretches, as many as stand for a step, and idle ones among them. -/
def dropSteps : Nat → List (List Char) → List (List Char)
  | 0, pieces => pieces
  | _ + 1, [] => []
  | n + 1, piece :: pieces =>
    if isIdle piece then dropSteps (n + 1) pieces else dropSteps n pieces

/-- The part of a relative path below a base that it starts with. -/
def relativeTo (path base : Path) : Option Path :=
  if base.components.isPrefixOf path.components then
    let rest := (dropSteps base.components.length path.pieces).dropWhile isIdle
    let rest := (rest.reverse.dropWhile isIdle).reverse
    some ⟨String.ofList (['/'].intercalate rest)⟩
  else none

end Path

end VoiceSkill
