import VoiceSkill.Proofs.Assembly.Operations
import VoiceSkill.Proofs.Build

/-!
# Builds one after the other

Several operations can be built into one memory. At every place it then has what the last of them
with an artifact there has written, or what it had before (`get?_buildEach`). Where no two of them
have artifacts in one place, nothing that was written is lost, and the order of the operations tells
on identifiers at most (`builds_in_any_order`).
-/

namespace VoiceSkill

open MemoryStore

/-! ## Identifiers -/

/-- One and the same document, or a document of a schema with other identifiers. -/
def Document.SameButIds (document other : Document) : Prop :=
  document = other ∨ document.Alike other

/-- Two artifacts in one place whose documents differ in their identifiers at most. -/
structure Artifact.SameButIds (a b : Artifact) : Prop where
  places : a.path.components = b.path.components
  documents : a.document.SameButIds b.document

/-- Two memories with the same content but for identifiers. -/
def MemoryStore.SameButIds (store other : MemoryStore) : Prop :=
  ∀ path, Option.Rel Document.SameButIds (store.get? path) (other.get? path)

/-- What is the same but for identifiers stays so if gaps are filled alike. -/
theorem Document.SameButIds.or_right {x y : Option Document}
    (h : Option.Rel Document.SameButIds x y) (z : Option Document) :
    Option.Rel Document.SameButIds (x.or z) (y.or z) := by
  cases h with
  | some h => exact .some h
  | none =>
      cases z with
      | none => exact .none
      | some document => exact .some (.inl rfl)

/-- An operation to be built, with the identifiers that are dealt out for it. -/
structure Task where
  operation : Operation
  fresh : Nat → Uuid

/-- Builds several operations one after the other, whatever comes of each. -/
def Writer.buildEach {m : Type → Type} [Monad m] (writer : Writer m) (definition : Definition)
    (config : BuildConfig) : List Task → m Unit
  | [] => pure ()
  | task :: rest => do
    let _ ← writer.build definition config task.fresh task.operation
    writer.buildEach definition config rest

namespace Definition

variable {definition : Definition} {config : BuildConfig} {fresh : Nat → Uuid}
  {operation : Operation} {set : ArtifactSet} {failing : List Path}

/-- What an operation assembles is the same with other identifiers, but for them. -/
theorem exists_sameButIds (h : (definition.assembleFor config fresh operation).result = .ok set)
    (fresh' : Nat → Uuid) :
    ∃ set', (definition.assembleFor config fresh' operation).result = .ok set' ∧
      List.Forall₂ Artifact.SameButIds set.artifacts set'.artifacts := by
  cases operation with
  | schema =>
      obtain ⟨_, _, hassemble⟩ := Logged.result_bind_eq_ok_iff.1 h
      have halike := definition.outcomesAlike_assemble config fresh fresh'
      rw [hassemble] at halike
      obtain ⟨set', hset', hpairs⟩ := halike.exists_of_ok
      refine ⟨set', Logged.result_bind_eq_ok_iff.2 ⟨(), rfl, hset'⟩, hpairs.imp ?_⟩
      rintro a b ⟨⟨rest, hpath, hpath'⟩, hdocuments⟩
      exact ⟨hpath.trans hpath'.symm, .inr hdocuments⟩
  -- no other operation deals out identifiers
  | synonyms => exact ⟨set, h, List.forall₂_same.2 fun _ _ => ⟨rfl, .inl rfl⟩⟩
  | content => exact ⟨set, h, List.forall₂_same.2 fun _ _ => ⟨rfl, .inl rfl⟩⟩

/-! ## The documents of a task -/

variable {task other : Task} {path : Path} {document second : Document}

/-- The document that a task has for a place. -/
def documentAt? (definition : Definition) (config : BuildConfig) (path : Path) (task : Task) :
    Option Document :=
  (definition.assembleFor config task.fresh task.operation).result.toOption.bind fun set =>
    (set.get? path).map Artifact.document

theorem documentAt?_of_ok
    (h : (definition.assembleFor config task.fresh task.operation).result = .ok set) :
    definition.documentAt? config path task = (set.get? path).map Artifact.document := by
  rw [documentAt?, h]
  rfl

theorem documentAt?_of_error {e : BuildError}
    (h : (definition.assembleFor config task.fresh task.operation).result = .error e) :
    definition.documentAt? config path task = none := by
  rw [documentAt?, h]
  rfl

theorem documentAt?_eq_some_iff :
    definition.documentAt? config path task = some document ↔
      ∃ set, (definition.assembleFor config task.fresh task.operation).result = .ok set ∧
        ∃ artifact ∈ set.artifacts, artifact.path.components = path.components ∧
          artifact.document = document := by
  cases hset : (definition.assembleFor config task.fresh task.operation).result with
  | error e => simp [documentAt?_of_error hset]
  | ok set =>
      rw [documentAt?_of_ok hset]
      simp [(sound_of_assembleFor hset).get?_eq_some_iff, and_assoc]

/-- Tasks of one operation have the same documents but for identifiers. -/
theorem exists_documentAt?_of_operation_eq (hoperation : task.operation = other.operation)
    (h : definition.documentAt? config path task = some document) :
    ∃ second, definition.documentAt? config path other = some second ∧
      document.SameButIds second := by
  obtain ⟨set, hset, a, ha, hplace, rfl⟩ := documentAt?_eq_some_iff.1 h
  obtain ⟨set', hset', hpairs⟩ := exists_sameButIds hset other.fresh
  obtain ⟨b, hb, hab⟩ := exists_mem_of_forall₂ hpairs ha
  refine ⟨b.document, documentAt?_eq_some_iff.2 ⟨set', ?_, b, hb, ?_, rfl⟩, hab.documents⟩
  · rwa [← hoperation]
  · rw [← hab.places, hplace]

/-- Apart from each other, operations do not have documents for the same place. -/
theorem operation_eq_of_operationsApart (hapart : definition.OperationsApart config fresh)
    (h : definition.documentAt? config path task = some document)
    (h' : definition.documentAt? config path other = some second) :
    task.operation = other.operation := by
  -- both places are taken with the given identifiers as well
  obtain ⟨_, hsame, _⟩ := exists_documentAt?_of_operation_eq
    (show task.operation = (Task.mk task.operation fresh).operation from rfl) h
  obtain ⟨_, hsame', _⟩ := exists_documentAt?_of_operation_eq
    (show other.operation = (Task.mk other.operation fresh).operation from rfl) h'
  obtain ⟨set, hset, a, ha, hplace, _⟩ := documentAt?_eq_some_iff.1 hsame
  obtain ⟨set', hset', b, hb, hplace', _⟩ := documentAt?_eq_some_iff.1 hsame'
  by_contra hne
  exact hapart _ _ _ _ hne hset hset' (List.mem_map.2 ⟨a, ha, hplace⟩)
    (List.mem_map.2 ⟨b, hb, hplace'⟩)

/-! ## Runs -/

/-- No operation has an artifact at a place that fails. -/
def Writable (definition : Definition) (config : BuildConfig) (failing : List Path) : Prop :=
  ∀ operation fresh set, (definition.assembleFor config fresh operation).result = .ok set →
    ∀ artifact ∈ set.artifacts, refuses failing artifact.path = false

section Builds

variable (h : ∀ operation, ∃ fresh store summary,
  (((memoryWriter failing).build definition config fresh operation).run store).1.result =
    .ok summary)
include h

/-- What has been built can be assembled with any identifiers. -/
theorem exists_of_builds (fresh : Nat → Uuid) (operation : Operation) :
    ∃ set, (definition.assembleFor config fresh operation).result = .ok set := by
  obtain ⟨fresh', store, _, hok⟩ := h operation
  obtain ⟨_, hset, _⟩ :=
    (buildOutcome_build definition fresh' failing store config operation).exists_of_ok hok
  obtain ⟨set, hset, _⟩ := exists_sameButIds hset fresh
  exact ⟨set, hset⟩

/-- What has been built can be written with any identifiers. -/
theorem writable_of_builds : definition.Writable config failing := by
  intro operation fresh set hset artifact hartifact
  obtain ⟨fresh', store, _, hok⟩ := h operation
  obtain ⟨_, hset', hfree⟩ :=
    (buildOutcome_build definition fresh' failing store config operation).exists_of_ok hok
  obtain ⟨built, hbuilt, hpairs⟩ := exists_sameButIds hset fresh'
  obtain rfl := Except.ok.inj (hset'.symm.trans hbuilt)
  obtain ⟨other, hother, hsame⟩ := exists_mem_of_forall₂ hpairs hartifact
  rw [refuses_congr hsame.places]
  exact hfree other hother

end Builds

/-- What can be assembled can be built where no place fails. -/
theorem exists_summary_of_isOk
    (h : (definition.assembleFor config fresh operation).result.isOk = true)
    (store : MemoryStore) :
    ∃ summary, (((memoryWriter []).build definition config fresh operation).run store).1.result =
      .ok summary := by
  obtain ⟨set, hset⟩ := exists_ok_of_isOk h
  have houtcome := buildOutcome_build definition fresh [] store config operation
  exact ⟨_, (houtcome.written set hset fun _ _ => rfl).1⟩

/-- A build changes the places of its artifacts alone. -/
theorem get?_build (h : definition.Writable config failing) (task : Task) (store : MemoryStore)
    (path : Path) :
    (((memoryWriter failing).build definition config task.fresh task.operation).run
        store).2.get? path =
      (definition.documentAt? config path task).or (store.get? path) := by
  have houtcome := buildOutcome_build definition task.fresh failing store config task.operation
  cases hset : (definition.assembleFor config task.fresh task.operation).result with
  | error e =>
      rw [(houtcome.failed e hset).2, documentAt?_of_error hset]
      rfl
  | ok set =>
      obtain ⟨_, hstored, hkept⟩ := houtcome.written set hset (h _ _ set hset)
      rw [documentAt?_of_ok hset]
      cases hget : set.get? path with
      | none =>
          refine hkept path fun artifact hartifact => ?_
          simpa using List.find?_eq_none.1 hget artifact hartifact
      | some artifact =>
          obtain ⟨hartifact, hplace⟩ := ArtifactSet.mem_of_get?_eq_some hget
          rw [← get?_congr hplace, hstored artifact hartifact]
          rfl

/-- **The last build with an artifact for a place decides what is there.** -/
theorem get?_buildEach (h : definition.Writable config failing) (tasks : List Task)
    (store : MemoryStore) (path : Path) :
    (((memoryWriter failing).buildEach definition config tasks).run store).2.get? path =
      (tasks.reverse.findSome? (definition.documentAt? config path)).or (store.get? path) := by
  induction tasks generalizing store with
  | nil => rfl
  | cons task rest ih =>
      have hrun : (((memoryWriter failing).buildEach definition config (task :: rest)).run
          store).2 = (((memoryWriter failing).buildEach definition config rest).run
            (((memoryWriter failing).build definition config task.fresh task.operation).run
              store).2).2 := rfl
      rw [hrun, ih, get?_build h, List.reverse_cons, List.findSome?_append,
        List.findSome?_singleton, Option.or_assoc]

/-! ## Any order -/

variable {tasks others : List Task}

/-- Apart from each other, operations do not hide documents of one another. -/
theorem exists_findSome?_documentAt? (hapart : definition.OperationsApart config fresh)
    (hmem : task.operation ∈ tasks.map Task.operation)
    (h : definition.documentAt? config path task = some document) :
    ∃ second, tasks.findSome? (definition.documentAt? config path) = some second ∧
      document.SameButIds second := by
  cases hfind : tasks.findSome? (definition.documentAt? config path) with
  | none =>
      obtain ⟨listed, hlisted, hoperation⟩ := List.mem_map.1 hmem
      obtain ⟨_, hsome, _⟩ := exists_documentAt?_of_operation_eq hoperation.symm h
      rw [List.findSome?_eq_none_iff.1 hfind listed hlisted] at hsome
      cases hsome
  | some second =>
      obtain ⟨found, _, hfound⟩ := List.exists_of_findSome?_eq_some hfind
      have hoperation := operation_eq_of_operationsApart hapart h hfound
      obtain ⟨_, hsame, hsecond⟩ := exists_documentAt?_of_operation_eq hoperation h
      rw [hfound] at hsame
      exact ⟨second, rfl, Option.some.inj hsame ▸ hsecond⟩

/-- So the document at a place depends on which operations there are. -/
theorem rel_findSome?_documentAt? (hapart : definition.OperationsApart config fresh)
    (hsame : ∀ operation, operation ∈ tasks.map Task.operation ↔
      operation ∈ others.map Task.operation) (path : Path) :
    Option.Rel Document.SameButIds (tasks.findSome? (definition.documentAt? config path))
      (others.findSome? (definition.documentAt? config path)) := by
  cases hfind : tasks.findSome? (definition.documentAt? config path) with
  | some document =>
      obtain ⟨task, htask, hsome⟩ := List.exists_of_findSome?_eq_some hfind
      obtain ⟨second, hsecond, hdocuments⟩ := exists_findSome?_documentAt? hapart
        ((hsame task.operation).1 (List.mem_map_of_mem htask)) hsome
      rw [hsecond]
      exact .some hdocuments
  | none =>
      cases hother : others.findSome? (definition.documentAt? config path) with
      | none => exact .none
      | some document =>
          obtain ⟨task, htask, hsome⟩ := List.exists_of_findSome?_eq_some hother
          obtain ⟨_, hsecond, _⟩ := exists_findSome?_documentAt? hapart
            ((hsame task.operation).2 (List.mem_map_of_mem htask)) hsome
          rw [hfind] at hsecond
          cases hsecond

/-- The last task has its way at every place that it has a document for. -/
theorem get?_buildEach_concat (h : definition.Writable config failing) (tasks : List Task)
    (store : MemoryStore) (hlast : definition.documentAt? config path task = some document) :
    (((memoryWriter failing).buildEach definition config (tasks ++ [task])).run
      store).2.get? path = some document := by
  rw [get?_buildEach h, List.reverse_concat, List.findSome?_cons, hlast]
  rfl

/-- Apart from each other, operations leave the documents of one another in a memory. -/
theorem exists_get?_buildEach (h : definition.Writable config failing)
    (hapart : definition.OperationsApart config fresh) (store : MemoryStore) (htask : task ∈ tasks)
    (hdocument : definition.documentAt? config path task = some document) :
    ∃ second, (((memoryWriter failing).buildEach definition config tasks).run store).2.get? path =
        some second ∧ document.SameButIds second := by
  have hmem : task.operation ∈ tasks.reverse.map Task.operation :=
    List.mem_map_of_mem (List.mem_reverse.2 htask)
  obtain ⟨second, hfind, hsame⟩ := exists_findSome?_documentAt? hapart hmem hdocument
  refine ⟨second, ?_, hsame⟩
  rw [get?_buildEach h, hfind]
  rfl

/-- Apart from each other, operations can be built in any order. -/
theorem sameButIds_buildEach (h : definition.Writable config failing)
    (hapart : definition.OperationsApart config fresh) (store : MemoryStore)
    (hsame : ∀ operation, operation ∈ tasks.map Task.operation ↔
      operation ∈ others.map Task.operation) :
    MemoryStore.SameButIds
      (((memoryWriter failing).buildEach definition config tasks).run store).2
      (((memoryWriter failing).buildEach definition config others).run store).2 := by
  intro path
  have hreverse (operation : Operation) : operation ∈ tasks.reverse.map Task.operation ↔
      operation ∈ others.reverse.map Task.operation := by
    rw [List.map_reverse, List.map_reverse, List.mem_reverse, List.mem_reverse, hsame]
  rw [get?_buildEach h, get?_buildEach h]
  exact Document.SameButIds.or_right (rel_findSome?_documentAt? hapart hreverse path) _

/-- **When operations can be built in any order.** If each operation has been built at some time, no
two of them have artifacts in one place exactly if the keys of synonyms keep apart from content and
schemas. Then none of them takes anything away from another one, and what a memory holds depends,
but for identifiers, on which operations have been built and not on their order. Otherwise too, each
operation has its way at all of its places until another one is built. -/
theorem builds_in_any_order (definition : Definition) (config : BuildConfig) (failing : List Path)
    (h : ∀ operation, ∃ fresh store summary,
      (((memoryWriter failing).build definition config fresh operation).run store).1.result =
        .ok summary)
    (fresh : Nat → Uuid) :
    (definition.OperationsApart config fresh ↔ definition.KeysApart config) ∧
    (definition.KeysApart config → ∀ (tasks : List Task) (store : MemoryStore),
      (∀ task ∈ tasks, ∀ set,
        (definition.assembleFor config task.fresh task.operation).result = .ok set →
        ∀ artifact ∈ set.artifacts, ∃ document,
          (((memoryWriter failing).buildEach definition config tasks).run store).2.get?
              artifact.path = some document ∧
            artifact.document.SameButIds document) ∧
      ∀ others : List Task,
        (∀ operation, operation ∈ tasks.map Task.operation ↔
          operation ∈ others.map Task.operation) →
        MemoryStore.SameButIds
          (((memoryWriter failing).buildEach definition config tasks).run store).2
          (((memoryWriter failing).buildEach definition config others).run store).2) ∧
    ∀ (tasks : List Task) (task : Task) (store : MemoryStore) (set : ArtifactSet),
      (definition.assembleFor config task.fresh task.operation).result = .ok set →
      ∀ artifact ∈ set.artifacts,
        (((memoryWriter failing).buildEach definition config (tasks ++ [task])).run store).2.get?
          artifact.path = some artifact.document := by
  have hiff := operationsApart_iff (exists_of_builds h fresh)
  have hwritable := writable_of_builds h
  have hdocument {task : Task} {set : ArtifactSet} {artifact : Artifact}
      (hset : (definition.assembleFor config task.fresh task.operation).result = .ok set)
      (hartifact : artifact ∈ set.artifacts) :
      definition.documentAt? config artifact.path task = some artifact.document :=
    documentAt?_eq_some_iff.2 ⟨set, hset, artifact, hartifact, rfl, rfl⟩
  refine ⟨hiff, ?_, ?_⟩
  · intro hkeys tasks store
    exact ⟨fun task htask set hset artifact hartifact =>
        exists_get?_buildEach hwritable (hiff.2 hkeys) store htask (hdocument hset hartifact),
      fun others hsame => sameButIds_buildEach hwritable (hiff.2 hkeys) store hsame⟩
  · intro tasks task store set hset artifact hartifact
    exact get?_buildEach_concat hwritable tasks store (hdocument hset hartifact)

/-- The tour with synonyms for a slot and a piece of content. -/
def guide (slotKey contentKey : String) : Definition :=
  { tour ["alpha"] "Flight" with
    slots := .ofList [(slotKey, .ofList [⟨"paris", ["city of light"]⟩])]
    others := .ofList [(contentKey, .natural 1)] }

/-- Keys that differ in the case of a letter are different names of files, so a guide with such keys
can be built in any order. -/
theorem builds_in_any_order_guide :
    (∀ operation, ∃ fresh store summary, (((memoryWriter []).build (guide "City" "city") usEnglish
      fresh operation).run store).1.result = .ok summary) ∧
    (guide "City" "city").OperationsApart usEnglish (Uuid.generated 0) ∧
    MemoryStore.SameButIds
      (((memoryWriter []).buildEach (guide "City" "city") usEnglish
        [⟨.schema, Uuid.generated 0⟩, ⟨.synonyms, Uuid.generated 0⟩,
          ⟨.content, Uuid.generated 0⟩]).run .empty).2
      (((memoryWriter []).buildEach (guide "City" "city") usEnglish
        [⟨.content, Uuid.generated 1⟩, ⟨.schema, Uuid.generated 1⟩,
          ⟨.synonyms, Uuid.generated 1⟩]).run .empty).2 := by
  have hbuilds (operation : Operation) : ∃ fresh store summary, (((memoryWriter []).build
      (guide "City" "city") usEnglish fresh operation).run store).1.result = .ok summary := by
    have hok : ((guide "City" "city").assembleFor usEnglish (Uuid.generated 0)
        operation).result.isOk = true := by
      cases operation <;> decide +kernel
    obtain ⟨summary, hsummary⟩ := exists_summary_of_isOk hok .empty
    exact ⟨_, _, summary, hsummary⟩
  have hkeys : (guide "City" "city").KeysApart usEnglish := by
    rw [keysApart_iff_of_slash_not_mem (by decide +kernel)]
    decide +kernel
  obtain ⟨hapart, horder, _⟩ := builds_in_any_order _ _ _ hbuilds (Uuid.generated 0)
  refine ⟨hbuilds, hapart.2 hkeys, (horder hkeys _ _).2 _ ?_⟩
  intro operation
  cases operation <;> decide

/-- Synonyms take the place of content whose identifier is the key of their slot, and the other way
round; a key that leads to a file of a schema makes them take the place of this file. -/
theorem not_operationsApart_guide :
    (∀ slotKey ∈ ["city", "dialog-flow/alpha/agent"], ∀ operation, ∃ summary,
      (((memoryWriter []).build (guide slotKey "city") usEnglish (Uuid.generated 0) operation).run
        .empty).1.result = .ok summary) ∧
    (∀ slotKey ∈ ["city", "dialog-flow/alpha/agent"],
      ¬ (guide slotKey "city").OperationsApart usEnglish (Uuid.generated 0)) ∧
    ¬ MemoryStore.SameButIds
      (((memoryWriter []).buildEach (guide "city" "city") usEnglish
        [⟨.schema, Uuid.generated 0⟩, ⟨.synonyms, Uuid.generated 0⟩,
          ⟨.content, Uuid.generated 0⟩]).run .empty).2
      (((memoryWriter []).buildEach (guide "city" "city") usEnglish
        [⟨.schema, Uuid.generated 0⟩, ⟨.content, Uuid.generated 0⟩,
          ⟨.synonyms, Uuid.generated 0⟩]).run .empty).2 := by
  have hbuilds : ∀ slotKey ∈ ["city", "dialog-flow/alpha/agent"], ∀ operation, ∃ summary,
      (((memoryWriter []).build (guide slotKey "city") usEnglish (Uuid.generated 0) operation).run
        .empty).1.result = .ok summary := by
    intro slotKey hslotKey operation
    refine exists_summary_of_isOk ?_ .empty
    revert slotKey
    cases operation <;> decide +kernel
  have hall (slotKey : String) (hslotKey : slotKey ∈ ["city", "dialog-flow/alpha/agent"]) :=
    exists_of_builds (fun operation => ⟨_, _, hbuilds slotKey hslotKey operation⟩)
      (Uuid.generated 0)
  refine ⟨hbuilds, ?_, ?_⟩
  · intro slotKey hslotKey hapart
    have hkeys := (operationsApart_iff (hall slotKey hslotKey)).1 hapart
    rcases List.mem_cons.1 hslotKey with rfl | hslotKey
    · exact hkeys.content _ List.mem_cons_self (by decide) _ List.mem_cons_self (by decide)
        (by decide)
    · obtain rfl := List.mem_singleton.1 hslotKey
      exact hkeys.schema rfl _ List.mem_cons_self (by decide) _ List.mem_cons_self .agent
        (by simp [schemaFiles]) (by decide)
  · intro hsame
    have hwritable : (guide "city" "city").Writable usEnglish [] := fun _ _ _ _ _ _ => rfl
    obtain ⟨_, hset⟩ := hall "city" List.mem_cons_self .synonyms
    obtain ⟨_, hset'⟩ := hall "city" List.mem_cons_self .content
    let path : Path := ⟨"en-US/city.json"⟩
    let values : SlotValues := .ofList [⟨"paris", ["city of light"]⟩]
    have hsynonyms : (guide "city" "city").documentAt? usEnglish path
        ⟨.synonyms, Uuid.generated 0⟩ = some values.synonymDocument :=
      documentAt?_eq_some_iff.2 ⟨_, hset, _, (mem_artifacts_of_assembleSynonyms hset).2
        ⟨("city", values), List.mem_cons_self, by decide, rfl⟩, by decide, rfl⟩
    have hcontent : (guide "city" "city").documentAt? usEnglish path
        ⟨.content, Uuid.generated 0⟩ = some (.natural 1) :=
      documentAt?_eq_some_iff.2 ⟨_, hset', _, (mem_artifacts_of_assembleContent hset').2
        ⟨("city", .natural 1), List.mem_cons_self, by decide, rfl⟩, by decide, rfl⟩
    have hlast := get?_buildEach_concat hwritable
      [⟨.schema, Uuid.generated 0⟩, ⟨.synonyms, Uuid.generated 0⟩] .empty hcontent
    have hlast' := get?_buildEach_concat hwritable
      [⟨.schema, Uuid.generated 0⟩, ⟨.content, Uuid.generated 0⟩] .empty hsynonyms
    simp only [List.cons_append, List.nil_append] at hlast hlast'
    have hplace := hsame path
    rw [hlast, hlast'] at hplace
    -- a number is not the same as synonyms, and no document of a schema either
    cases hplace with
    | some hdocuments =>
        rcases hdocuments with hsame | ⟨d, _, _, hnumber, _⟩
        · cases hsame
        · cases d <;> cases hnumber

end Definition

end VoiceSkill
