import VoiceSkill.Proofs.Artifact.History
import VoiceSkill.Proofs.Path.Order
import VoiceSkill.Proofs.Writer.Memory

/-!
# Histories of a memory

A memory is empty at first. Then single documents are written to it, and some of them refused, and
whole sets of artifacts are, in whatever order those of one set are taken. Nothing counts in such a
history but what has been written: the memory is what storing that makes of the empty one
(`Reached.eq_putAll`). So there is in each place what was written to it last, and nothing in places
that fail (`memory_keeps_latest`).
-/

namespace VoiceSkill

namespace MemoryStore

variable {store next : MemoryStore} {writes artifacts : List Artifact}

/-! ## The places of a memory -/

/-- A document takes the place of one that is there, and otherwise a place after all others. -/
theorem map_fst_putDocument (path : Path) (document : Document)
    (documents : List (Path × Document)) :
    (putDocument path document documents).map Prod.fst =
      if documents.any fun entry => entry.1.sameAs path then documents.map Prod.fst
      else documents.map Prod.fst ++ [path] := by
  induction documents with
  | nil => rfl
  | cons entry rest ih =>
      rw [putDocument, List.any_cons]
      cases h : entry.1.sameAs path with
      | true => rfl
      | false =>
          rw [Bool.false_or, List.map_cons]
          simp only [Bool.false_eq_true, if_false, List.map_cons, ih]
          split <;> rfl

/-- No two documents lie in the same place. -/
def Apart (store : MemoryStore) : Prop :=
  ((store.documents.map Prod.fst).map Path.components).Nodup

theorem Apart.put (h : store.Apart) (path : Path) (document : Document) :
    (store.put path document).Apart := by
  rw [Apart, MemoryStore.put, map_fst_putDocument]
  split
  · exact h
  · rename_i hfree
    rw [List.map_append, List.map_singleton, ← List.concat_eq_append, List.nodup_concat]
    refine ⟨?_, h⟩
    rw [List.map_map]
    intro htaken
    obtain ⟨entry, hentry, hsame⟩ := List.mem_map.1 htaken
    exact hfree (List.any_eq_true.2 ⟨entry, hentry, Path.sameAs_iff.2 hsame⟩)

theorem Apart.putAll (h : store.Apart) (artifacts : List Artifact) :
    (store.putAll artifacts).Apart := by
  induction artifacts generalizing store with
  | nil => exact h
  | cons artifact rest ih => exact ih (h.put artifact.path artifact.document)

theorem length_paths (store : MemoryStore) : store.paths.length = store.size := by
  rw [paths, List.length_mergeSort, List.length_map, size]

/-- The paths of a memory are those under which documents are found. -/
theorem exists_mem_paths_iff {path : Path} :
    (∃ p ∈ store.paths, p.sameAs path = true) ↔ ∃ document, store.get? path = some document := by
  rw [← Option.isSome_iff_exists, get?, Option.isSome_map, List.isSome_find?, List.any_eq_true]
  simp only [paths, List.mem_mergeSort, List.mem_map, exists_exists_and_eq_and]

/-! ## Writing -/

theorem refuses_eq_true_iff {failing : List Path} {path : Path} :
    refuses failing path = true ↔ ∃ place ∈ failing, place.sameAs path = true :=
  List.any_eq_true

theorem refuses_eq_false_iff {failing : List Path} {path : Path} :
    refuses failing path = false ↔ ∀ place ∈ failing, place.sameAs path = false := by
  simp only [refuses, List.any_eq_false, Bool.not_eq_true]

theorem write_eq_ok_iff {failing : List Path} {path : Path} {document : Document} :
    store.write failing path document = .ok next ↔
      path.fault? = none ∧ refuses failing path = false ∧ next = store.put path document := by
  cases hfault : path.fault? with
  | some fault => simp [write, Path.checked, hfault, bind, Except.bind]
  | none =>
      rw [write_of_faultless failing hfault]
      cases refuses failing path <;> simp [eq_comm]

/-- **What comes of writing all artifacts**: one of them is refused, or all are stored. -/
theorem run_writeAll (failing : List Path)
    (hplaces : ∀ artifact ∈ artifacts, artifact.path.fault? = none) (store : MemoryStore) :
    (∃ artifact ∈ artifacts, refuses failing artifact.path = true ∧
      (((memoryWriter failing).writeAll artifacts).run store).1.result =
        .error (.rejected artifact.path)) ∨
    (∀ artifact ∈ artifacts, refuses failing artifact.path = false) ∧
      (((memoryWriter failing).writeAll artifacts).run store).1.result = .ok artifacts.length ∧
      (((memoryWriter failing).writeAll artifacts).run store).2 = store.putAll artifacts := by
  obtain ⟨hresult, hstore⟩ := Writer.run_writeAll (memoryWriter failing) artifacts store
  rw [hresult, hstore]
  rcases run_writeEach_cases failing hplaces store with
    ⟨artifact, hartifact, hrefuses, heach⟩ | ⟨hfree, heach, hstored⟩
  · exact .inl ⟨artifact, hartifact, hrefuses, by rw [heach]; rfl⟩
  · exact .inr ⟨hfree, by rw [heach]; rfl, hstored⟩

/-! ## Writing the artifacts of a set -/

section Sets

variable {changes : List ArtifactSet.Change}

/-- The artifacts of a set all have places below the root, in whatever order they are taken. -/
theorem faultless_of_perm (h : artifacts.Perm (ArtifactSet.empty.performAll changes).artifacts) :
    ∀ artifact ∈ artifacts, artifact.path.fault? = none := fun artifact hartifact =>
  (ArtifactSet.sound_performAll_empty changes).faultless artifact (h.mem_iff.1 hartifact)

/-- **The artifacts of a set can all be written exactly if no place of theirs fails**, and no path
of theirs is faulty. -/
theorem result_writeAll_of_perm (failing : List Path)
    (h : artifacts.Perm (ArtifactSet.empty.performAll changes).artifacts) (store : MemoryStore) :
    let result := (((memoryWriter failing).writeAll artifacts).run store).1.result
    (∀ path fault, result ≠ .error (.invalidPath path fault)) ∧
    ((∃ count, result = .ok count) ↔
      ∀ artifact ∈ artifacts, ∀ place ∈ failing, place.sameAs artifact.path = false) ∧
    ∀ count, result = .ok count → count = (ArtifactSet.empty.performAll changes).size := by
  intro result
  simp only [← refuses_eq_false_iff]
  rcases run_writeAll failing (faultless_of_perm h) store with
    ⟨artifact, hartifact, hrefuses, hresult⟩ | ⟨hfree, hresult, _⟩
  · rw [show result = _ from hresult]
    refine ⟨nofun, ⟨nofun, fun hfree => ?_⟩, nofun⟩
    rw [hfree artifact hartifact] at hrefuses
    cases hrefuses
  · rw [show result = _ from hresult]
    refine ⟨nofun, ⟨fun _ => hfree, fun _ => ⟨_, rfl⟩⟩, ?_⟩
    rintro count ⟨⟩
    exact h.length_eq

end Sets

/-! ## Steps -/

/-- A step of a history, with what is written in it, one document after the other. -/
inductive Step (failing : List Path) (store : MemoryStore) :
    List Artifact → MemoryStore → Prop where
  | written (artifact : Artifact) {log : List Event} {next : MemoryStore}
    (run : ((memoryWriter failing).write artifact.path artifact.document).run store =
      (⟨.ok (), log⟩, next)) : Step failing store [artifact] next
  | refused (artifact : Artifact) {e : WriteError} {log : List Event} {next : MemoryStore}
    (run : ((memoryWriter failing).write artifact.path artifact.document).run store =
      (⟨.error e, log⟩, next)) : Step failing store [] next
  /-- The artifacts of a set, with a history of its own, are all written in some order. -/
  | all (changes : List ArtifactSet.Change) {artifacts : List Artifact} {count : Nat}
    {log : List Event} {next : MemoryStore}
    (order : artifacts.Perm (ArtifactSet.empty.performAll changes).artifacts)
    (run : ((memoryWriter failing).writeAll artifacts).run store = (⟨.ok count, log⟩, next)) :
    Step failing store artifacts next

/-- **A step stores what is written in it**, and none of that in a place that fails. -/
theorem Step.eq_putAll {failing : List Path} (h : Step failing store writes next) :
    next = store.putAll writes ∧ ∀ write ∈ writes, refuses failing write.path = false := by
  cases h with
  | written artifact run =>
      cases hwrite : store.write failing artifact.path artifact.document with
      | error e =>
          rw [run_write_of_error failing hwrite] at run
          cases run
      | ok stored =>
          rw [run_write_of_ok failing hwrite] at run
          cases run
          obtain ⟨_, hfree, rfl⟩ := write_eq_ok_iff.1 hwrite
          exact ⟨rfl, List.forall_mem_singleton.2 hfree⟩
  | refused artifact run =>
      refine ⟨?_, fun _ hwrite => nomatch hwrite⟩
      cases hwrite : store.write failing artifact.path artifact.document with
      | error e =>
          rw [run_write_of_error failing hwrite] at run
          cases run
          rfl
      | ok stored =>
          rw [run_write_of_ok failing hwrite] at run
          cases run
  | all changes order run =>
      rcases run_writeAll failing (faultless_of_perm order) store with
        ⟨_, _, _, hresult⟩ | ⟨hfree, _, hstore⟩
      · rw [run] at hresult
        cases hresult
      · rw [run] at hstore
        exact ⟨hstore, hfree⟩

/-! ## Histories -/

/-- A memory that a history has reached, with all that has been written, in its order. -/
inductive Reached (failing : List Path) : List Artifact → MemoryStore → Prop where
  | start : Reached failing [] empty
  | step {writes more : List Artifact} {store next : MemoryStore}
    (before : Reached failing writes store) (step : Step failing store more next) :
    Reached failing (writes ++ more) next

/-- **A history comes to what has been written**, and none of that in a place that fails. -/
theorem Reached.eq_putAll {failing : List Path} (h : Reached failing writes store) :
    store = empty.putAll writes ∧ ∀ write ∈ writes, refuses failing write.path = false := by
  induction h with
  | start => exact ⟨rfl, fun _ hwrite => nomatch hwrite⟩
  | step before step ih =>
      obtain ⟨rfl, hfree⟩ := ih
      obtain ⟨rfl, hmore⟩ := step.eq_putAll
      exact ⟨List.foldl_append.symm, List.forall_mem_append.2 ⟨hfree, hmore⟩⟩

section Reached

variable {failing : List Path}

/-- In each place there is what was written last to it. -/
theorem Reached.get?_eq_latest? (h : Reached failing writes store) (path : Path) :
    store.get? path = latest? writes path := by
  rw [h.eq_putAll.1, get?_putAll, get?_empty, Option.or_none]

/-- There is nothing in places that fail. -/
theorem Reached.get?_eq_none (h : Reached failing writes store) {path : Path}
    (hfails : ∃ place ∈ failing, place.sameAs path = true) : store.get? path = none := by
  rw [h.get?_eq_latest?, latest?_eq_none_iff]
  intro write hwrite
  have hfree := h.eq_putAll.2 write hwrite
  rw [← Bool.not_eq_true, Path.sameAs_iff]
  intro hsame
  rw [refuses_congr hsame, refuses_eq_true_iff.2 hfails] at hfree
  cases hfree

theorem Reached.apart (h : Reached failing writes store) : store.Apart := by
  have hempty : empty.Apart := List.nodup_nil
  rw [h.eq_putAll.1]
  exact hempty.putAll writes

/-- **What a memory holds after any history.** In each place there is the document that was written
last to it, by whatever path, and nothing in a place that fails. The paths come in strict order, one
for each document, and a document is found exactly where one of them leads. Writing the artifacts of
a set, in any order, then succeeds exactly if no place of theirs fails, gives their number, and
never finds fault with a path. -/
theorem memory_keeps_latest (h : Reached failing writes store) :
    (∀ path, store.get? path = latest? writes path) ∧
    (∀ path, (∃ place ∈ failing, place.sameAs path = true) → store.get? path = none) ∧
    (store.paths.Pairwise fun a b => a.orderKey < b.orderKey) ∧
    store.paths.length = store.size ∧
    (∀ path, (∃ p ∈ store.paths, p.sameAs path = true) ↔
      ∃ document, store.get? path = some document) ∧
    ∀ changes artifacts, artifacts.Perm (ArtifactSet.empty.performAll changes).artifacts →
      let result := (((memoryWriter failing).writeAll artifacts).run store).1.result
      (∀ path fault, result ≠ .error (.invalidPath path fault)) ∧
      ((∃ count, result = .ok count) ↔
        ∀ artifact ∈ artifacts, ∀ place ∈ failing, place.sameAs artifact.path = false) ∧
      ∀ count, result = .ok count → count = (ArtifactSet.empty.performAll changes).size := by
  refine ⟨h.get?_eq_latest?, fun _ => h.get?_eq_none, ?_, length_paths store,
    fun _ => exists_mem_paths_iff, ?_⟩
  · exact Path.pairwise_lt_mergeSort h.apart
  · intro changes artifacts order
    exact result_writeAll_of_perm failing order store

end Reached

/-- Some documents are written by several paths, one of them to a place that fails by another path
than the one that was named. -/
theorem memory_keeps_latest_spellings :
    let failing : List Path := [⟨"b//c.json"⟩]
    let writes : List Artifact := [⟨⟨"a.json"⟩, .null⟩, ⟨⟨"./a.json"⟩, .string "dot"⟩,
      ⟨⟨"a.json/."⟩, .bool false⟩, ⟨⟨"d/e.json"⟩, .bool true⟩]
    let store : MemoryStore := ⟨[(⟨"a.json"⟩, .bool false), (⟨"./a.json"⟩, .string "dot"),
      (⟨"d/e.json"⟩, .bool true)]⟩
    Reached failing writes store ∧
    store.get? ⟨"a.json//"⟩ = some (.bool false) ∧
    store.get? ⟨"./a.json"⟩ = some (.string "dot") ∧
    store.get? ⟨"b/./c.json"⟩ = none ∧
    store.paths.length = 3 ∧ (store.paths.Pairwise fun a b => a.orderKey < b.orderKey) ∧
    ∀ count, (((memoryWriter failing).writeAll [⟨⟨"b/c.json/"⟩, .null⟩]).run store).1.result ≠
      .ok count := by
  intro failing writes store
  have hreached : Reached failing writes store := by
    have hfirst : Reached failing [writes[0]] ⟨[(⟨"a.json"⟩, .null)]⟩ :=
      .step .start (.written ⟨⟨"a.json"⟩, .null⟩ rfl)
    have hsecond : Reached failing [writes[0], writes[1]]
        ⟨[(⟨"a.json"⟩, .null), (⟨"./a.json"⟩, .string "dot")]⟩ :=
      .step hfirst (.written ⟨⟨"./a.json"⟩, .string "dot"⟩ rfl)
    have hthird := Reached.step hsecond (.refused ⟨⟨"b/./c.json"⟩, .null⟩ rfl)
    have hfourth := Reached.step hthird (.refused ⟨⟨"../a.json"⟩, .null⟩ rfl)
    exact .step hfourth (.all [.push ⟨⟨"d/e.json"⟩, .bool true⟩, .push ⟨⟨"a.json/."⟩, .bool false⟩]
      (List.Perm.swap ..) rfl)
  obtain ⟨hlatest, hfails, hordered, hlength, _, hall⟩ := memory_keeps_latest hreached
  refine ⟨hreached, hlatest _, hlatest _, hfails _ ⟨_, List.mem_singleton_self _, rfl⟩, hlength,
    hordered, fun count hok => ?_⟩
  obtain ⟨_, hiff, _⟩ := hall [.push ⟨⟨"b/c.json/"⟩, .null⟩] _ (List.Perm.refl _)
  exact absurd (hiff.1 ⟨count, hok⟩ _ List.mem_cons_self _ List.mem_cons_self) (by decide)

end MemoryStore

end VoiceSkill
