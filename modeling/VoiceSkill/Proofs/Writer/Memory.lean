import VoiceSkill.Proofs.Assembly.Sound
import VoiceSkill.Proofs.Writer.Run
import VoiceSkill.Writer.Memory
import Mathlib.Data.List.TakeWhile

/-!
# Writing artifacts to memory

Artifacts are written up to the first whose place fails, and those before it are stored
(`run_writeEach`). What has been stored last in a place is found there (`get?_putAll`): so are all
artifacts, if no two of them share a place (`get?_putAll_of_mem`), and nothing changes anywhere else
(`get?_putAll_of_not_mem`).
-/

namespace VoiceSkill

namespace MemoryStore

/-- Documents are found by their places. -/
theorem get?_congr {store : MemoryStore} {path other : Path}
    (h : path.components = other.components) : store.get? path = store.get? other := by
  simp only [get?, Path.sameAs, h]

/-! ## Storing several documents -/

/-- Stores the documents of artifacts. -/
def putAll (store : MemoryStore) (artifacts : List Artifact) : MemoryStore :=
  artifacts.foldl (fun store artifact => store.put artifact.path artifact.document) store

theorem putAll_cons (store : MemoryStore) (artifact : Artifact) (rest : List Artifact) :
    store.putAll (artifact :: rest) = (store.put artifact.path artifact.document).putAll rest :=
  rfl

/-- The document that is written last to a place. -/
def latest? (artifacts : List Artifact) (path : Path) : Option Document :=
  (artifacts.filter fun artifact => artifact.path.sameAs path).getLast?.map Artifact.document

theorem latest?_append (artifacts others : List Artifact) (path : Path) :
    latest? (artifacts ++ others) path = (latest? others path).or (latest? artifacts path) := by
  rw [latest?, latest?, latest?, List.filter_append, List.getLast?_append, Option.map_or]

variable {artifacts : List Artifact} {path : Path}

theorem latest?_eq_none_iff :
    latest? artifacts path = none ↔ ∀ artifact ∈ artifacts, artifact.path.sameAs path = false := by
  simp only [latest?, Option.map_eq_none_iff, List.getLast?_eq_none_iff, List.filter_eq_nil_iff,
    Bool.not_eq_true]

theorem exists_of_latest? {document : Document} (h : latest? artifacts path = some document) :
    ∃ artifact ∈ artifacts, artifact.path.sameAs path = true ∧ artifact.document = document := by
  obtain ⟨artifact, hlast, hdocument⟩ := Option.map_eq_some_iff.1 h
  obtain ⟨hartifact, hsame⟩ := List.mem_filter.1 (List.mem_of_getLast? hlast)
  exact ⟨artifact, hartifact, hsame, hdocument⟩

/-- In each place there is what is stored last in it, or what there was. -/
theorem get?_putAll (store : MemoryStore) (artifacts : List Artifact) (path : Path) :
    (store.putAll artifacts).get? path = (latest? artifacts path).or (store.get? path) := by
  induction artifacts generalizing store with
  | nil => rfl
  | cons artifact rest ih =>
      have hfirst : latest? [artifact] path =
          if artifact.path.sameAs path then some artifact.document else none := by
        cases h : artifact.path.sameAs path <;> simp [latest?, h]
      rw [putAll_cons, ih, get?_put, ← List.singleton_append, latest?_append, Option.or_assoc,
        hfirst]
      cases artifact.path.sameAs path <;> rfl

/-- Places of no artifact keep what they have. -/
theorem get?_putAll_of_not_mem (store : MemoryStore)
    (h : ∀ artifact ∈ artifacts, artifact.path.sameAs path = false) :
    (store.putAll artifacts).get? path = store.get? path := by
  rw [get?_putAll, latest?_eq_none_iff.2 h, Option.none_or]

/-- Artifacts in different places are found there once they are stored. -/
theorem get?_putAll_of_mem (store : MemoryStore)
    (hapart : (artifacts.map fun artifact => artifact.path.components).Nodup)
    {artifact : Artifact} (h : artifact ∈ artifacts) :
    (store.putAll artifacts).get? artifact.path = some artifact.document := by
  rw [get?_putAll]
  cases hlatest : latest? artifacts artifact.path with
  | none =>
      have hself := latest?_eq_none_iff.1 hlatest artifact h
      rw [Path.sameAs_self] at hself
      cases hself
  | some document =>
      -- whatever is written last to the place is the only artifact there
      obtain ⟨last, hlast, hsame, rfl⟩ := exists_of_latest? hlatest
      rw [List.inj_on_of_nodup_map hapart hlast h (Path.sameAs_iff.1 hsame), Option.some_or]

/-! ## Writing -/

/-- Whether a place is one that fails. -/
def refuses (failing : List Path) (path : Path) : Bool := failing.any fun p => p.sameAs path

theorem refuses_congr {failing : List Path} {path other : Path}
    (h : path.components = other.components) : refuses failing path = refuses failing other := by
  simp only [refuses, Path.sameAs, h]

theorem write_of_faultless (failing : List Path) {path : Path} (h : path.fault? = none)
    (document : Document) (store : MemoryStore) :
    store.write failing path document =
      if refuses failing path then .error (.rejected path) else .ok (store.put path document) := by
  rw [write, Path.checked, h]
  cases hrefuses : refuses failing path with
  | true =>
      rw [refuses] at hrefuses
      simp [bind, Except.bind, hrefuses, throw, throwThe, MonadExceptOf.throw]
  | false =>
      rw [refuses] at hrefuses
      simp [bind, Except.bind, hrefuses, pure, Except.pure]

end MemoryStore

/-! ## Runs -/

open MemoryStore

section Runs

variable (failing : List Path) {artifacts : List Artifact} {artifact : Artifact}
  {store next : MemoryStore}

theorem run_write_of_error {e : WriteError}
    (h : store.write failing artifact.path artifact.document = .error e) :
    ((memoryWriter failing).write artifact.path artifact.document).run store =
      (⟨.error e, []⟩, store) := by
  simp only [memoryWriter, StateT.run, h]

theorem run_write_of_ok
    (h : store.write failing artifact.path artifact.document = .ok next) :
    ((memoryWriter failing).write artifact.path artifact.document).run store =
      (⟨.ok (), []⟩, next) := by
  simp only [memoryWriter, StateT.run, h]

/-- **A run ends at the first place that fails, if there is one, and stores what comes before.** -/
theorem run_writeEach (hplaces : ∀ artifact ∈ artifacts, artifact.path.fault? = none)
    (store : MemoryStore) :
    (((memoryWriter failing).writeEach artifacts).run store).1.result =
        (match artifacts.find? fun artifact => refuses failing artifact.path with
        | some artifact => .error (.rejected artifact.path)
        | none => .ok ()) ∧
      (((memoryWriter failing).writeEach artifacts).run store).2 =
        store.putAll (artifacts.takeWhile fun artifact => !refuses failing artifact.path) := by
  induction artifacts generalizing store with
  | nil => exact ⟨rfl, rfl⟩
  | cons artifact rest ih =>
      have hwrite := write_of_faultless failing (hplaces artifact List.mem_cons_self)
        artifact.document store
      rw [List.find?_cons, List.takeWhile_cons]
      cases hrefuses : refuses failing artifact.path with
      | true =>
          rw [hrefuses, if_pos rfl] at hwrite
          rw [Writer.run_writeEach_cons_of_error rest (run_write_of_error failing hwrite)]
          exact ⟨rfl, rfl⟩
      | false =>
          rw [hrefuses, if_neg (by decide)] at hwrite
          obtain ⟨hresult, hstore⟩ :=
            Writer.run_writeEach_cons_of_ok rest (run_write_of_ok failing hwrite)
          rw [hresult, hstore]
          exact ih (fun a ha => hplaces a (List.mem_cons_of_mem _ ha)) _

/-- What comes of a run: one artifact has a place that fails, or none has and all are stored. -/
theorem run_writeEach_cases (hplaces : ∀ artifact ∈ artifacts, artifact.path.fault? = none)
    (store : MemoryStore) :
    (∃ artifact ∈ artifacts, refuses failing artifact.path = true ∧
      (((memoryWriter failing).writeEach artifacts).run store).1.result =
        .error (.rejected artifact.path)) ∨
    (∀ artifact ∈ artifacts, refuses failing artifact.path = false) ∧
      (((memoryWriter failing).writeEach artifacts).run store).1.result = .ok () ∧
      (((memoryWriter failing).writeEach artifacts).run store).2 = store.putAll artifacts := by
  obtain ⟨hresult, hstore⟩ := run_writeEach failing hplaces store
  rw [hresult, hstore]
  cases hfind : artifacts.find? fun artifact => refuses failing artifact.path with
  | some artifact =>
      refine .inl ⟨artifact, List.mem_of_find?_eq_some hfind, ?_, rfl⟩
      exact List.find?_some (p := fun artifact : Artifact => refuses failing artifact.path) hfind
  | none =>
      have hfree : ∀ artifact ∈ artifacts, refuses failing artifact.path = false := by
        intro artifact hartifact
        exact Bool.eq_false_iff.2 (List.find?_eq_none.1 hfind artifact hartifact)
      have hall : artifacts.takeWhile (fun artifact => !refuses failing artifact.path) =
          artifacts := by
        rw [List.takeWhile_eq_self_iff]
        intro artifact hartifact
        rw [hfree artifact hartifact]
        rfl
      exact .inr ⟨hfree, rfl, by rw [hall]⟩

end Runs

end VoiceSkill
