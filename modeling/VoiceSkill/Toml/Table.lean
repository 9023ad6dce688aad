import VoiceSkill.Document

/-!
# Tables of TOML

A table is defined piece by piece: by a header of its own, by a header of a table further down, or
by dotted keys. What one way has defined the others may extend only as far as it does not look as if
something were defined twice.
-/

namespace VoiceSkill.Toml

/-- How a table came about. -/
inductive TableOrigin where
  /-- It has a header of its own, or stands in a list of tables, or is the outermost one. -/
  | stated
  /-- A header further down implies it. -/
  | implied
  /-- A dotted key leads through it. -/
  | dotted
deriving DecidableEq, Repr

/-- What a key stands for. -/
inductive Entry where
  | value (document : Document)
  | table (origin : TableOrigin) (members : List (String × Entry))
  | tables (items : List (List (String × Entry)))

/-- Keys with what they stand for, in the order of their definition. -/
abbrev Table := List (String × Entry)

mutual

/-- An entry as a document. -/
def Entry.document : Entry → Document
  | .value document => document
  | .table _ members => .object (Entry.documentMembers members)
  | .tables items => .list (Entry.documentItems items)

def Entry.documentMembers : List (String × Entry) → List (String × Document)
  | [] => []
  | (key, entry) :: members => insertEntry key entry.document (Entry.documentMembers members)

def Entry.documentItems : List (List (String × Entry)) → List Document
  | [] => []
  | members :: items => .object (Entry.documentMembers members) :: Entry.documentItems items

end

namespace Table

/-- Changes what a key stands for, or gives it a meaning. -/
def alter (key : String) (change : Option Entry → Option Entry) : Table → Option Table
  | [] => do return [(key, ← change none)]
  | (k, entry) :: rest =>
    if k == key then do return (k, ← change (some entry)) :: rest
    else do return (k, entry) :: (← alter key change rest)

/-- Changes the last item of a list. -/
def alterLast (change : Table → Option Table) : List Table → Option (List Table)
  | [] => none
  | [table] => do return [← change table]
  | table :: rest => do return table :: (← alterLast change rest)

/-- Changes the table that keys lead to; tables on the way that are missing come about as `made`
says. Dotted keys do not lead into tables that have been stated. In a list of tables the last one is
meant. -/
def within (made : TableOrigin) (change : TableOrigin → Table → Option Table) :
    List String → TableOrigin → Table → Option Table
  | [], origin, table => change origin table
  | key :: path, _, table =>
    alter key (fun
      | none => (within made change path made []).map (.table made)
      | some (.table origin members) =>
        if made = .dotted && origin = .stated then none
        else (within made change path origin members).map (.table origin)
      | some (.tables items) => (alterLast (within made change path .stated) items).map .tables
      | some (.value _) => none) table

/-- Defines a key that has no meaning yet. -/
def define (key : String) (value : Document) : Table → Option Table :=
  alter key fun
    | none => some (.value value)
    | some _ => none

/-- Defines a dotted key. Only a table that dotted keys have made is extended by one. -/
def defineDotted (path : List String) (key : String) (value : Document) (table : Table) :
    Option Table :=
  within .dotted (fun origin table =>
    if path.isEmpty || origin = .dotted then define key value table else none) path .stated table

/-- States a table by a header. -/
def state (path : List String) (key : String) (table : Table) : Option Table :=
  within .implied (fun _ => alter key fun
    | none => some (.table .stated [])
    | some (.table .implied members) => some (.table .stated members)
    | _ => none) path .stated table

/-- Adds a table to a list of tables by a header. -/
def stateItem (path : List String) (key : String) (table : Table) : Option Table :=
  within .implied (fun _ => alter key fun
    | none => some (.tables [[]])
    | some (.tables items) => some (.tables (items ++ [[]]))
    | _ => none) path .stated table

/-- Defines a dotted key in the table of a header. -/
def defineUnder (header path : List String) (key : String) (value : Document) (table : Table) :
    Option Table :=
  within .implied (fun _ => defineDotted path key value) header .stated table

end Table

end VoiceSkill.Toml
