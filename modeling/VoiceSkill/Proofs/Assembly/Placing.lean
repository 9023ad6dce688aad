import VoiceSkill.Assembly
import VoiceSkill.Proofs.KeepFirst
import VoiceSkill.Proofs.Outcome

/-!
# Placing artifacts one after the other

Artifacts that all have a place below the root are added to a set exactly if no two places are the
same (`foldlM_add_of_nodup`); otherwise the first one that comes too late is named as a duplicate
(`foldlM_add_of_repeated`). Whatever the paths are, a set that was built holds the artifacts in the
order in which they were added, and nothing else (`artifacts_of_foldlM_add`).
-/

namespace VoiceSkill

namespace ArtifactSet

/-- The places that are taken. -/
def places (set : ArtifactSet) : List (List Component) :=
  set.artifacts.map fun artifact => artifact.path.components

theorem contains_iff {set : ArtifactSet} {path : Path} :
    set.contains path = true ↔ path.components ∈ set.places := by
  rw [contains, paths, List.any_map, List.any_eq_true, places, List.mem_map]
  constructor
  · rintro ⟨artifact, hartifact, hsame⟩
    exact ⟨artifact, hartifact, Path.sameAs_iff.1 hsame⟩
  · rintro ⟨artifact, hartifact, hsame⟩
    exact ⟨artifact, hartifact, Path.sameAs_iff.2 hsame⟩

theorem contains_eq_false_iff {set : ArtifactSet} {path : Path} :
    set.contains path = false ↔ path.components ∉ set.places := by
  rw [← contains_iff, Bool.not_eq_true]

theorem push_of_fresh {set : ArtifactSet} {artifact : Artifact}
    (hplace : artifact.path.fault? = none) (hfresh : artifact.path.components ∉ set.places) :
    set.push artifact = .ok ⟨set.artifacts ++ [artifact]⟩ :=
  push_eq_ok_iff.2 ⟨hplace, contains_eq_false_iff.2 hfresh, rfl⟩

theorem push_of_fault {set : ArtifactSet} {artifact : Artifact} {fault : PathFault}
    (hfault : artifact.path.fault? = some fault) :
    set.push artifact = .error (.invalidPath artifact.path fault) := by
  rw [push, Path.checked, hfault]
  rfl

theorem push_of_taken {set : ArtifactSet} {artifact : Artifact}
    (hplace : artifact.path.fault? = none) (htaken : artifact.path.components ∈ set.places) :
    set.push artifact = .error (.duplicatePath artifact.path) := by
  have hcontains := contains_iff.2 htaken
  simp [push, Path.checked, hplace, hcontains, bind, Except.bind, throw, throwThe,
    MonadExceptOf.throw]

/-- Adds an artifact, or fails for the reason that there is none. -/
def add (set : ArtifactSet) (artifact : Except BuildError Artifact) :
    Except BuildError ArtifactSet := do
  (set.push (← artifact)).mapError .write

theorem add_of_ok {set next : ArtifactSet} {artifact : Artifact}
    (h : set.push artifact = .ok next) : set.add (.ok artifact) = .ok next := by
  show (set.push artifact).mapError BuildError.write = _
  rw [h]
  rfl

theorem add_of_error {set : ArtifactSet} {artifact : Artifact} {e : WriteError}
    (h : set.push artifact = .error e) : set.add (.ok artifact) = .error (.write e) := by
  show (set.push artifact).mapError BuildError.write = _
  rw [h]
  rfl

/-! ## Runs -/

variable {set set' : ArtifactSet} {artifacts : List Artifact}

theorem foldlM_add_cons_ok {artifact : Artifact} {rest : List (Except BuildError Artifact)}
    {next : ArtifactSet} (h : set.push artifact = .ok next) :
    (.ok artifact :: rest).foldlM add set = rest.foldlM add next := by
  rw [List.foldlM_cons, add_of_ok h]
  rfl

theorem foldlM_add_cons_error {artifact : Artifact} {rest : List (Except BuildError Artifact)}
    {e : WriteError} (h : set.push artifact = .error e) :
    (.ok artifact :: rest).foldlM add set = .error (.write e) := by
  rw [List.foldlM_cons, add_of_error h]
  rfl

/-- A set that was built holds what was added, in this order. -/
theorem artifacts_of_foldlM_add {added : List (Except BuildError Artifact)}
    (h : added.foldlM add set = .ok set') :
    ∃ artifacts, added = artifacts.map .ok ∧ set' = ⟨set.artifacts ++ artifacts⟩ := by
  induction added generalizing set with
  | nil =>
      cases h
      exact ⟨[], rfl, by simp⟩
  | cons first rest ih =>
      cases first with
      | error e => cases h
      | ok artifact =>
          cases hpush : set.push artifact with
          | error e =>
              rw [foldlM_add_cons_error hpush] at h
              cases h
          | ok next =>
              rw [foldlM_add_cons_ok hpush] at h
              obtain ⟨artifacts, rfl, rfl⟩ := ih h
              obtain ⟨_, _, rfl⟩ := push_eq_ok_iff.1 hpush
              exact ⟨artifact :: artifacts, rfl, by simp⟩

/-- Where all artifacts are there from the beginning, these are what was added. -/
theorem eq_of_foldlM_add_map_ok (h : (artifacts.map .ok).foldlM add set = .ok set') :
    set' = ⟨set.artifacts ++ artifacts⟩ := by
  obtain ⟨added, hadded, rfl⟩ := artifacts_of_foldlM_add h
  rw [(List.map_inj_right fun _ _ => Except.ok.inj).1 hadded]

/-- Artifacts with places that are all different are added. -/
theorem foldlM_add_of_nodup (hplaces : ∀ artifact ∈ artifacts, artifact.path.fault? = none)
    (hnodup : (ArtifactSet.mk (set.artifacts ++ artifacts)).places.Nodup) :
    (artifacts.map .ok).foldlM add set = .ok ⟨set.artifacts ++ artifacts⟩ := by
  induction artifacts generalizing set with
  | nil => simp [pure, Except.pure]
  | cons artifact rest ih =>
      have hfresh : artifact.path.components ∉ set.places := by
        rw [places, List.map_append, List.nodup_append] at hnodup
        intro htaken
        exact hnodup.2.2 _ htaken _ (by simp) rfl
      have hpush := push_of_fresh (hplaces artifact (by simp)) hfresh
      -- the artifact moves over to the set, and the list of all places stays the same
      rw [List.append_cons] at hnodup ⊢
      rw [List.map_cons, foldlM_add_cons_ok hpush]
      exact ih (fun a ha => hplaces a (by simp [ha])) hnodup

/-- A run ends at the first artifact whose place is taken. -/
theorem foldlM_add_of_repeated {before after : List Artifact} {artifact : Artifact}
    (hplaces : ∀ a ∈ before ++ artifact :: after, a.path.fault? = none)
    (hnodup : (ArtifactSet.mk before).places.Nodup)
    (htaken : artifact.path.components ∈ (ArtifactSet.mk before).places) :
    ((before ++ artifact :: after).map .ok).foldlM add empty =
      .error (.write (.duplicatePath artifact.path)) := by
  have hbefore : (before.map .ok).foldlM add empty = .ok ⟨before⟩ :=
    foldlM_add_of_nodup (fun a ha => hplaces a (by simp [ha])) hnodup
  rw [List.map_append, List.foldlM_append, hbefore]
  exact foldlM_add_cons_error (push_of_taken (hplaces artifact (by simp)) htaken)

/-- Of artifacts whose places are not all different one is a duplicate. -/
theorem foldlM_add_of_not_nodup (hplaces : ∀ artifact ∈ artifacts, artifact.path.fault? = none)
    (hnodup : ¬ (ArtifactSet.mk artifacts).places.Nodup) :
    ∃ path, (artifacts.map .ok).foldlM add empty = .error (.write (.duplicatePath path)) := by
  obtain ⟨before, artifact, after, rfl, hbefore, htaken⟩ := exists_first_repeated hnodup
  exact ⟨artifact.path, foldlM_add_of_repeated hplaces hbefore htaken⟩

end ArtifactSet

end VoiceSkill
