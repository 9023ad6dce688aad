import VoiceSkill.Proofs.Assembly.Sound

/-!
# Histories of a set of artifacts

A set of artifacts comes about by changes: one artifact is added, or those of another set are, up to
the first that is refused. A change that fails does not end a history. After any history the set is
sound, and a change does nothing but append to it, up to the first artifact that is refused
(`performAll_empty_spec`).

The paths that are taken can be kept in an index beside the artifacts, so that they need not be
looked up among these. The index says what the artifacts say as long as both are changed together
(`Represents.performAll`).
-/

namespace VoiceSkill

namespace ArtifactSet

variable {set : ArtifactSet}

/-! ## Adding up to a refusal -/

/-- How the adding of artifacts ends: all of them are there, or those before the first that was
refused in its turn. -/
inductive Ending (set : ArtifactSet) (artifacts : List Artifact) :
    ArtifactSet × Option WriteError → Prop where
  | complete : Ending set artifacts (⟨set.artifacts ++ artifacts⟩, none)
  | refused {before after : List Artifact} {artifact : Artifact} {e : WriteError}
    (split : artifacts = before ++ artifact :: after)
    (accepted : set.pushAll before = (⟨set.artifacts ++ before⟩, none))
    (refusal : (ArtifactSet.mk (set.artifacts ++ before)).push artifact = .error e) :
    Ending set artifacts (⟨set.artifacts ++ before⟩, some e)

theorem pushAll_cons_of_ok {next : ArtifactSet} {artifact : Artifact}
    (h : set.push artifact = .ok next) (rest : List Artifact) :
    set.pushAll (artifact :: rest) = next.pushAll rest := by
  rw [pushAll, h]

/-- **Artifacts are added up to the first that is refused.** -/
theorem ending_pushAll (set : ArtifactSet) (artifacts : List Artifact) :
    Ending set artifacts (set.pushAll artifacts) := by
  induction artifacts generalizing set with
  | nil =>
      have hall : Ending set [] (⟨set.artifacts ++ []⟩, none) := .complete
      rwa [List.append_nil] at hall
  | cons artifact rest ih =>
      cases hpush : set.push artifact with
      | error e =>
          have hfirst : Ending set (artifact :: rest) (⟨set.artifacts ++ []⟩, some e) := by
            refine .refused rfl ?_ ?_ <;> rw [List.append_nil]
            · rfl
            · exact hpush
          rw [List.append_nil] at hfirst
          rwa [pushAll, hpush]
      | ok next =>
          rw [pushAll_cons_of_ok hpush]
          obtain ⟨_, _, rfl⟩ := push_eq_ok_iff.1 hpush
          -- what is appended to the longer set is appended to the given one behind the artifact
          generalize hend : (ArtifactSet.mk (set.artifacts ++ [artifact])).pushAll rest = ending
          have hrest := ih ⟨set.artifacts ++ [artifact]⟩
          rw [hend] at hrest
          cases hrest with
          | complete =>
              rw [← List.append_cons]
              exact .complete
          | refused split accepted refusal =>
              rw [← List.append_cons] at accepted refusal ⊢
              refine .refused (by rw [split, List.cons_append]) ?_ refusal
              rw [pushAll_cons_of_ok hpush, accepted]

theorem Ending.isPrefix {artifacts : List Artifact} {ending : ArtifactSet × Option WriteError}
    (h : Ending set artifacts ending) : set.artifacts <+: ending.1.artifacts := by
  cases h with
  | complete => exact List.prefix_append _ _
  | refused => exact List.prefix_append _ _

theorem Sound.pushAll (h : set.Sound) (artifacts : List Artifact) :
    (set.pushAll artifacts).1.Sound := by
  induction artifacts generalizing set with
  | nil => exact h
  | cons artifact rest ih =>
      cases hpush : set.push artifact with
      | error e => rwa [ArtifactSet.pushAll, hpush]
      | ok next =>
          rw [pushAll_cons_of_ok hpush]
          exact ih (h.push hpush)

/-! ## Changes -/

/-- A change that is asked of a set. -/
inductive Change where
  | push (artifact : Artifact)
  | extend (other : ArtifactSet)

/-- The artifacts that a change is to add. -/
def Change.artifacts : Change → List Artifact
  | push artifact => [artifact]
  | extend other => other.artifacts

/-- What a change makes of a set, and the error that it ends with, if it does. -/
def perform (set : ArtifactSet) : Change → ArtifactSet × Option WriteError
  | .push artifact =>
    match set.push artifact with
    | .error e => (set, some e)
    | .ok next => (next, none)
  | .extend other => set.extend other

/-- What several changes make of a set, each of which may fail. -/
def performAll (set : ArtifactSet) : List Change → ArtifactSet
  | [] => set
  | change :: rest => performAll (set.perform change).1 rest

theorem perform_eq_pushAll (set : ArtifactSet) (change : Change) :
    set.perform change = set.pushAll change.artifacts := by
  cases change with
  | push artifact => cases h : set.push artifact <;> simp [perform, Change.artifacts, pushAll, h]
  | extend other => rfl

theorem Sound.performAll (h : set.Sound) (changes : List Change) :
    (set.performAll changes).Sound := by
  induction changes generalizing set with
  | nil => exact h
  | cons change rest ih =>
      rw [ArtifactSet.performAll, perform_eq_pushAll]
      exact ih (h.pushAll change.artifacts)

/-- Whatever the history, a set is sound. -/
theorem sound_performAll_empty (changes : List Change) : (empty.performAll changes).Sound :=
  sound_empty.performAll changes

end ArtifactSet

/-! ## Sets with an index -/

/-- Artifacts, and beside them an index of the paths that are taken. -/
structure IndexedSet where
  artifacts : List Artifact
  index : List Path

namespace IndexedSet

open ArtifactSet (Change)

def empty : IndexedSet := ⟨[], []⟩

/-- The artifact at a place, looked up among the artifacts. -/
def get? (set : IndexedSet) (path : Path) : Option Artifact :=
  set.artifacts.find? fun a => a.path.sameAs path

/-- Whether there is an artifact at a place, looked up in the index. -/
def contains (set : IndexedSet) (path : Path) : Bool := set.index.any fun p => p.sameAs path

/-- Adds an artifact and its path, unless the path is not one below the root or is in the index. -/
def push (set : IndexedSet) (artifact : Artifact) : IndexedSet × Option WriteError :=
  match artifact.path.checked with
  | .error e => (set, some e)
  | .ok path =>
    if set.contains path then (set, some (.duplicatePath path))
    else (⟨set.artifacts ++ [artifact], path :: set.index⟩, none)

/-- Adds artifacts until one is refused. -/
def pushAll (set : IndexedSet) : List Artifact → IndexedSet × Option WriteError
  | [] => (set, none)
  | artifact :: rest =>
    match set.push artifact with
    | (set, some e) => (set, some e)
    | (set, none) => pushAll set rest

def perform (set : IndexedSet) : Change → IndexedSet × Option WriteError
  | .push artifact => set.push artifact
  | .extend other => set.pushAll other.artifacts

def performAll (set : IndexedSet) : List Change → IndexedSet
  | [] => set
  | change :: rest => performAll (set.perform change).1 rest

/-- The index says what the artifacts say, and these are those of the set. -/
structure Represents (indexed : IndexedSet) (set : ArtifactSet) : Prop where
  artifacts : indexed.artifacts = set.artifacts
  contains : ∀ path, indexed.contains path = set.contains path

theorem represents_empty : empty.Represents .empty := ⟨rfl, fun _ => rfl⟩

variable {indexed : IndexedSet} {set : ArtifactSet}

theorem Represents.get? (h : indexed.Represents set) (path : Path) :
    indexed.get? path = set.get? path := by
  rw [IndexedSet.get?, ArtifactSet.get?, h.artifacts]

/-- An artifact that is refused leaves artifacts and index as they were; one that is added goes to
both. -/
theorem Represents.push (h : indexed.Represents set) (artifact : Artifact) :
    (∃ e, set.push artifact = .error e ∧ indexed.push artifact = (indexed, some e)) ∨
    ∃ next following, set.push artifact = .ok next ∧
      indexed.push artifact = (following, none) ∧ following.Represents next := by
  rw [IndexedSet.push, Path.checked]
  cases hfault : artifact.path.fault? with
  | some fault =>
      exact .inl ⟨.invalidPath artifact.path fault, ArtifactSet.push_of_fault hfault, rfl⟩
  | none =>
      cases hcontains : set.contains artifact.path with
      | true =>
          refine .inl ⟨.duplicatePath artifact.path, ?_, ?_⟩
          · exact ArtifactSet.push_of_taken hfault (ArtifactSet.contains_iff.1 hcontains)
          · simp [h.contains, hcontains]
      | false =>
          refine .inr ⟨_, ⟨indexed.artifacts ++ [artifact], artifact.path :: indexed.index⟩,
            ArtifactSet.push_eq_ok_iff.2 ⟨hfault, hcontains, rfl⟩, ?_, ?_, ?_⟩
          · simp [h.contains, hcontains]
          · rw [h.artifacts]
          · -- the new path stands in front in one list and at the end in the other
            intro path
            have hpath := h.contains path
            rw [IndexedSet.contains, ArtifactSet.contains, ArtifactSet.paths] at hpath
            rw [IndexedSet.contains, ArtifactSet.contains, ArtifactSet.paths, List.any_cons, hpath,
              List.map_append, List.any_append, Bool.or_comm]
            simp

theorem Represents.pushAll (h : indexed.Represents set) (artifacts : List Artifact) :
    (indexed.pushAll artifacts).1.Represents (set.pushAll artifacts).1 ∧
      (indexed.pushAll artifacts).2 = (set.pushAll artifacts).2 := by
  induction artifacts generalizing indexed set with
  | nil => exact ⟨h, rfl⟩
  | cons artifact rest ih =>
      rw [IndexedSet.pushAll, ArtifactSet.pushAll]
      rcases h.push artifact with ⟨e, hset, hindexed⟩ | ⟨next, following, hset, hindexed, hnext⟩
      · rw [hset, hindexed]
        exact ⟨h, rfl⟩
      · rw [hset, hindexed]
        exact ih hnext

theorem Represents.perform (h : indexed.Represents set) (change : Change) :
    (indexed.perform change).1.Represents (set.perform change).1 ∧
      (indexed.perform change).2 = (set.perform change).2 := by
  cases change with
  | push artifact =>
      rw [IndexedSet.perform, ArtifactSet.perform]
      rcases h.push artifact with ⟨e, hset, hindexed⟩ | ⟨next, following, hset, hindexed, hnext⟩
      · rw [hset, hindexed]
        exact ⟨h, rfl⟩
      · rw [hset, hindexed]
        exact ⟨hnext, rfl⟩
  | extend other => exact h.pushAll other.artifacts

/-- **An index that is changed together with the artifacts says what they say.** -/
theorem Represents.performAll (h : indexed.Represents set) (changes : List Change) :
    (indexed.performAll changes).Represents (set.performAll changes) := by
  induction changes generalizing indexed set with
  | nil => exact h
  | cons change rest ih => exact ih (h.perform change).1

end IndexedSet

/-! ## Every history -/

namespace ArtifactSet

variable {set : ArtifactSet}

theorem Sound.pairwise_sameAs (h : set.Sound) :
    set.artifacts.Pairwise fun a b => a.path.sameAs b.path = false := by
  refine (List.pairwise_map.1 h.apart).imp ?_
  intro a b hne
  rwa [← Bool.not_eq_true, Path.sameAs_iff]

/-- A place is taken exactly if an artifact of the set lies there. -/
theorem contains_iff_exists {path : Path} :
    set.contains path = true ↔ ∃ artifact ∈ set.artifacts, artifact.path.sameAs path = true := by
  rw [contains, paths, List.any_map, List.any_eq_true]
  rfl

/-- **After every history** the paths of a set lead below the root, no two of them to one place. A
path is taken exactly if an artifact is found there, and exactly if some artifact has a path with
the same components; an index says the same. Whatever change comes next, it keeps the artifacts and
appends its own up to the first that is refused, with an index or without. An artifact that is
refused leaves everything as it was. -/
theorem performAll_empty_spec (changes : List Change) :
    let set := empty.performAll changes
    let indexed := IndexedSet.empty.performAll changes
    (∀ artifact ∈ set.artifacts, artifact.path.text ≠ "" ∧ artifact.path.isAbsolute = false ∧
      .parent ∉ artifact.path.components) ∧
    (set.artifacts.Pairwise fun a b => a.path.sameAs b.path = false) ∧
    (∀ path, (set.contains path = true ↔ ∃ artifact, set.get? path = some artifact) ∧
      (set.contains path = true ↔
        ∃ artifact ∈ set.artifacts, artifact.path.sameAs path = true) ∧
      indexed.contains path = set.contains path ∧ indexed.get? path = set.get? path) ∧
    (∀ change, set.artifacts <+: (set.perform change).1.artifacts ∧
      Ending set change.artifacts (set.perform change) ∧
      (indexed.perform change).1.artifacts = (set.perform change).1.artifacts ∧
      (indexed.perform change).2 = (set.perform change).2) ∧
    ∀ artifact e, set.push artifact = .error e →
      set.perform (.push artifact) = (set, some e) ∧
      indexed.perform (.push artifact) = (indexed, some e) := by
  intro set indexed
  have hsound : set.Sound := sound_performAll_empty changes
  have hindexed : indexed.Represents set := IndexedSet.represents_empty.performAll changes
  refine ⟨?_, hsound.pairwise_sameAs, ?_, ?_, ?_⟩
  · intro artifact hartifact
    have hfault := hsound.faultless artifact hartifact
    exact ⟨(Path.fault?_eq_none_iff.1 hfault).1, Path.isAbsolute_of_fault?_eq_none hfault,
      Path.parent_not_mem_of_fault?_eq_none hfault⟩
  · intro path
    refine ⟨?_, contains_iff_exists, hindexed.contains path, hindexed.get? path⟩
    rw [contains_eq_isSome_get?, Option.isSome_iff_exists]
  · intro change
    have hending : Ending set change.artifacts (set.perform change) := by
      rw [perform_eq_pushAll]
      exact ending_pushAll set change.artifacts
    obtain ⟨hnext, herror⟩ := hindexed.perform change
    exact ⟨hending.isPrefix, hending, hnext.artifacts, herror⟩
  · intro artifact e he
    refine ⟨by rw [perform, he], ?_⟩
    rcases hindexed.push artifact with ⟨e', he', hpush⟩ | ⟨next, _, hnext, _⟩
    · rw [he] at he'
      cases he'
      exact hpush
    · rw [he] at hnext
      cases hnext

end ArtifactSet

end VoiceSkill
