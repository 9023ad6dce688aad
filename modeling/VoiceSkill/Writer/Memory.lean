import VoiceSkill.Writer

/-!
# Writing to memory

Documents kept in memory, at most one for each place. A document that is written again takes the
place of the one before, under the path of the first writing. Chosen places refuse every document.
-/

namespace VoiceSkill

/-- Documents kept in memory. -/
structure MemoryStore where
  documents : List (Path × Document)
deriving Repr, Inhabited

/-- Puts a document into a list of documents, in the place of one with the same components. -/
def putDocument (path : Path) (document : Document) :
    List (Path × Document) → List (Path × Document)
  | [] => [(path, document)]
  | (p, d) :: rest =>
    if p.sameAs path then (p, document) :: rest else (p, d) :: putDocument path document rest

namespace MemoryStore

def empty : MemoryStore := ⟨[]⟩

/-- The document at a place. -/
def get? (store : MemoryStore) (path : Path) : Option Document :=
  (store.documents.find? fun entry => entry.1.sameAs path).map Prod.snd

/-- Stores a document. -/
def put (store : MemoryStore) (path : Path) (document : Document) : MemoryStore :=
  ⟨putDocument path document store.documents⟩

@[simp] theorem get?_empty (path : Path) : empty.get? path = none := rfl

/-- A document is found at its place after it has been stored, and other places do not change. -/
theorem get?_put (store : MemoryStore) (path other : Path) (document : Document) :
    (store.put path document).get? other =
      if path.sameAs other then some document else store.get? other := by
  rw [get?, get?, put]
  induction store.documents with
  | nil => cases h : path.sameAs other <;> simp [putDocument, h]
  | cons entry rest ih =>
    obtain ⟨p, d⟩ := entry
    rw [putDocument]
    cases hp : p.sameAs path with
    | true =>
      have hsame : p.sameAs other = path.sameAs other := by
        rw [Path.sameAs, Path.sameAs, Path.sameAs_iff.1 hp]
      cases h : path.sameAs other <;> simp [hsame, h]
    | false =>
      cases hother : p.sameAs other with
      | true =>
        have hpath : path.sameAs other = false := by
          rw [Bool.eq_false_iff]
          intro h
          have := Path.sameAs_trans hother ((Path.sameAs_comm other path).trans h)
          simp [hp] at this
        simp [hother, hpath]
      | false => simpa [hother] using ih

def size (store : MemoryStore) : Nat := store.documents.length

def isEmpty (store : MemoryStore) : Bool := store.documents.isEmpty

/-- The paths of the documents, in order. -/
def paths (store : MemoryStore) : List Path := (store.documents.map Prod.fst).mergeSort Path.le

/-- The documents with their paths, in the order of these. -/
def sorted (store : MemoryStore) : List (Path × Document) :=
  store.documents.mergeSort fun a b => a.1.le b.1

/-- Writes a document, unless its path leads out of the store or is one that fails. -/
def write (failing : List Path) (path : Path) (document : Document) (store : MemoryStore) :
    Except WriteError MemoryStore := do
  let path ← path.checked
  if failing.any fun p => p.sameAs path then throw (.rejected path)
  return store.put path document

end MemoryStore

/-- The writer to memory, with the places that fail. -/
def memoryWriter (failing : List Path) : Writer (StateM MemoryStore) where
  name := "memory"
  write path document := fun store =>
    match store.write failing path document with
    | .error e => (⟨.error e, []⟩, store)
    | .ok store => (⟨.ok (), []⟩, store)

end VoiceSkill
