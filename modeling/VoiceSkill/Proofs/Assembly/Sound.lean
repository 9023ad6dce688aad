import VoiceSkill.Build
import VoiceSkill.Proofs.Assembly.Plan
import VoiceSkill.Proofs.Assembly.Resource

/-!
# Sound sets of artifacts

A set is sound if all of its artifacts have a place below the root, and no two of them the same one
(`ArtifactSet.Sound`). Nothing that adds artifacts to a sound set makes it unsound, so whatever an
operation assembles is sound (`sound_of_assembleFor`). Conversely, artifacts can be added to a sound
set exactly if they leave it sound (`foldlM_add_eq_ok_iff`).
-/

namespace VoiceSkill

/-- Artifacts that all have a place below the root, no two of them the same one. -/
structure ArtifactSet.Sound (set : ArtifactSet) : Prop where
  faultless : ∀ artifact ∈ set.artifacts, artifact.path.fault? = none
  apart : set.places.Nodup

namespace ArtifactSet

variable {set set' : ArtifactSet} {artifacts : List Artifact} {artifact : Artifact}

theorem sound_empty : empty.Sound where
  faultless := fun _ h => nomatch h
  apart := List.nodup_nil

theorem mem_of_get?_eq_some {path : Path} (h : set.get? path = some artifact) :
    artifact ∈ set.artifacts ∧ artifact.path.components = path.components :=
  ⟨List.mem_of_find?_eq_some h,
    Path.sameAs_iff.1 (List.find?_some (p := fun a : Artifact => a.path.sameAs path) h)⟩

/-- In a sound set the only artifact of a place is found there. -/
theorem Sound.get?_eq_some_iff (h : set.Sound) {path : Path} :
    set.get? path = some artifact ↔
      artifact ∈ set.artifacts ∧ artifact.path.components = path.components := by
  refine ⟨mem_of_get?_eq_some, ?_⟩
  rintro ⟨hartifact, hplace⟩
  have hsome : (set.get? path).isSome = true := by
    rw [← contains_eq_isSome_get?, contains_iff, ← hplace]
    exact List.mem_map_of_mem hartifact
  obtain ⟨found, hget⟩ := Option.isSome_iff_exists.1 hsome
  obtain ⟨hfound, hsame⟩ := mem_of_get?_eq_some hget
  rw [hget, List.inj_on_of_nodup_map h.apart hfound hartifact (hsame.trans hplace.symm)]

/-! ## Adding artifacts -/

/-- An artifact that is added leaves a set sound. -/
theorem Sound.push (h : set.Sound) (hpush : set.push artifact = .ok set') : set'.Sound := by
  obtain ⟨hfault, hfree, rfl⟩ := push_eq_ok_iff.1 hpush
  rw [contains_eq_false_iff] at hfree
  constructor
  · intro other hother
    rcases List.mem_append.1 hother with hother | hother
    · exact h.faultless other hother
    · rwa [List.mem_singleton.1 hother]
  · rw [places, List.map_append, List.map_singleton, ← List.concat_eq_append, List.nodup_concat]
    exact ⟨hfree, h.apart⟩

theorem add_eq_ok_iff {added : Except BuildError Artifact} :
    set.add added = .ok set' ↔ ∃ artifact, added = .ok artifact ∧ set.push artifact = .ok set' := by
  rw [add, except_bind_eq_ok_iff]
  refine exists_congr fun artifact => and_congr_right fun _ => ?_
  cases set.push artifact <;> simp [Except.mapError]

theorem Sound.add (h : set.Sound) {added : Except BuildError Artifact}
    (hadd : set.add added = .ok set') : set'.Sound := by
  obtain ⟨artifact, _, hpush⟩ := add_eq_ok_iff.1 hadd
  exact h.push hpush

/-- Whatever each step of a run leaves sound, the whole run leaves sound. -/
theorem Sound.foldlM {α : Type} {step : ArtifactSet → α → Except BuildError ArtifactSet}
    (hstep : ∀ set a set', set.Sound → step set a = .ok set' → set'.Sound)
    {items : List α} (h : set.Sound) (hrun : items.foldlM step set = .ok set') : set'.Sound := by
  induction items generalizing set with
  | nil =>
      cases hrun
      exact h
  | cons a rest ih =>
      rw [List.foldlM_cons, except_bind_eq_ok_iff] at hrun
      obtain ⟨next, hnext, hrest⟩ := hrun
      exact ih (hstep set a next h hnext) hrest

/-- **Artifacts can be added to a sound set exactly if they leave it sound.** -/
theorem foldlM_add_eq_ok_iff {added : List (Except BuildError Artifact)} (h : set.Sound) :
    added.foldlM add set = .ok set' ↔
      ∃ artifacts, added = artifacts.map .ok ∧ set' = ⟨set.artifacts ++ artifacts⟩ ∧
        set'.Sound := by
  constructor
  · intro hrun
    obtain ⟨artifacts, hadded, hset⟩ := artifacts_of_foldlM_add hrun
    exact ⟨artifacts, hadded, hset, h.foldlM (fun _ _ _ hnow => hnow.add) hrun⟩
  · rintro ⟨artifacts, rfl, rfl, hsound⟩
    refine foldlM_add_of_nodup ?_ hsound.apart
    intro artifact hartifact
    exact hsound.faultless artifact (List.mem_append_right _ hartifact)

/-- Artifacts make a set by themselves exactly if it is sound. -/
theorem foldlM_add_empty_eq_ok_iff :
    (artifacts.map .ok).foldlM add empty = .ok set' ↔ set' = ⟨artifacts⟩ ∧ set'.Sound := by
  rw [foldlM_add_eq_ok_iff sound_empty]
  constructor
  · rintro ⟨added, hadded, rfl, hsound⟩
    obtain rfl := (List.map_inj_right fun _ _ => Except.ok.inj).1 hadded
    exact ⟨rfl, hsound⟩
  · rintro ⟨rfl, hsound⟩
    exact ⟨artifacts, rfl, rfl, hsound⟩

/-- Adding artifacts until one is refused is adding them one after the other. -/
theorem foldlM_add_map_ok (set : ArtifactSet) (artifacts : List Artifact) :
    (artifacts.map .ok).foldlM add set =
      match set.pushAll artifacts with
      | (_, some e) => .error (.write e)
      | (set', none) => .ok set' := by
  induction artifacts generalizing set with
  | nil => rfl
  | cons artifact rest ih =>
      rw [List.map_cons, pushAll]
      cases hpush : set.push artifact with
      | error e => rw [foldlM_add_cons_error hpush]
      | ok next => rw [foldlM_add_cons_ok hpush, ih]

end ArtifactSet

/-! ## What the operations assemble -/

namespace Definition

open ArtifactSet

variable {definition : Definition} {config : BuildConfig} {fresh : Nat → Uuid} {first : Nat}
  {environment : String} {invocations : List Invocation} {set set' : ArtifactSet}

theorem sound_of_assembleEnvironment
    (h : (definition.assembleEnvironment config fresh first environment).result = .ok set) :
    set.Sound := by
  rw [result_assembleEnvironment_eq] at h
  exact sound_empty.foldlM (fun _ _ _ hnow => hnow.add) h

/-- The schemas of several environments: the first one is assembled by itself, then its artifacts
are added, and then those of the others. -/
theorem result_assembleEach_cons (definition : Definition) (config : BuildConfig)
    (fresh : Nat → Uuid) (first : Nat) (set : ArtifactSet) (invocation : Invocation)
    (rest : List Invocation) :
    (definition.assembleEach config fresh first set (invocation :: rest)).result = (do
      let part ← (definition.assembleEnvironment config fresh first invocation.environment).result
      let next ← (part.artifacts.map .ok).foldlM add set
      (definition.assembleEach config fresh
        (first + definition.idCount config invocation.environment) next rest).result) := by
  rw [assembleEach, Logged.result_bind]
  congr 1
  funext part
  rw [foldlM_add_map_ok, extend]
  rcases set.pushAll part.artifacts with ⟨next, _ | e⟩ <;> rfl

theorem assembleEach_cons_eq_ok_iff {invocation : Invocation} :
    (definition.assembleEach config fresh first set (invocation :: invocations)).result = .ok set' ↔
      ∃ part next,
        (definition.assembleEnvironment config fresh first invocation.environment).result =
          .ok part ∧
        (part.artifacts.map .ok).foldlM add set = .ok next ∧
        (definition.assembleEach config fresh
          (first + definition.idCount config invocation.environment) next invocations).result =
            .ok set' := by
  simp only [result_assembleEach_cons, except_bind_eq_ok_iff, exists_and_left]

theorem sound_of_assembleEach (hset : set.Sound)
    (h : (definition.assembleEach config fresh first set invocations).result = .ok set') :
    set'.Sound := by
  induction invocations generalizing first set with
  | nil =>
      cases h
      exact hset
  | cons invocation rest ih =>
      obtain ⟨part, next, _, hnext, hrest⟩ := assembleEach_cons_eq_ok_iff.1 h
      exact ih (hset.foldlM (fun _ _ _ hnow => hnow.add) hnext) hrest

/-- What is reported after the last environment leaves the outcome as it is. -/
theorem result_assemble (definition : Definition) (config : BuildConfig) (fresh : Nat → Uuid) :
    (definition.assemble config fresh).result =
      (definition.assembleEach config fresh 0 .empty definition.invocations).result := by
  rw [assemble, Logged.result_bind]
  exact bind_pure _

theorem assemble_eq_ok_iff :
    (definition.assemble config fresh).result = .ok set ↔
      (definition.assembleEach config fresh 0 .empty definition.invocations).result = .ok set := by
  rw [result_assemble]

theorem sound_of_assemble (h : (definition.assemble config fresh).result = .ok set) : set.Sound :=
  sound_of_assembleEach sound_empty (assemble_eq_ok_iff.1 h)

/-- What is reported before the first environment leaves the outcome as it is. -/
theorem result_assembleFor_schema (definition : Definition) (config : BuildConfig)
    (fresh : Nat → Uuid) :
    (definition.assembleFor config fresh .schema).result =
      (definition.assemble config fresh).result := by
  rw [assembleFor, Logged.result_bind]
  rfl

/-- **Every set that an operation assembles is sound.** -/
theorem sound_of_assembleFor {operation : Operation}
    (h : (definition.assembleFor config fresh operation).result = .ok set) : set.Sound := by
  cases operation with
  | schema =>
      rw [result_assembleFor_schema] at h
      exact sound_of_assemble h
  | synonyms =>
      rw [assembleFor, result_assembleSynonyms] at h
      exact sound_empty.foldlM (fun _ _ _ hnow => hnow.add) h
  | content =>
      rw [assembleFor, result_assembleContent] at h
      exact sound_empty.foldlM (fun _ _ _ hnow => hnow.add) h

end Definition

end VoiceSkill
