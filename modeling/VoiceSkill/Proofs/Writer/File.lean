import VoiceSkill.Proofs.Artifact.History
import VoiceSkill.Writer

/-!
# Locations of files

The file of an artifact lies below the root directory of a writer, where the names in its path lead
(`components_resolve`); a path that is empty, begins at the root or leads up is refused
(`resolve_spec`). A dot in front of a path is a component of the path, but nothing of it is left
below a root. So artifacts with different paths may share a location, and the location of an
artifact may be the root itself. The artifacts of a set have locations of their own, all strictly
below the root, exactly if no path is a dot and no two paths differ by a dot in front
(`locations_performAll_iff`).
-/

namespace VoiceSkill

namespace Path

variable {root path other : Path}

/-- A location in a directory or in one below it, and not the directory itself. -/
def StrictlyBelow (root location : Path) : Prop :=
  ∃ names : List String, names ≠ [] ∧ location.components = root.components ++ names.map .name

theorem map_name_inj {names others : List String} :
    names.map Component.name = others.map Component.name ↔ names = others :=
  List.map_inj_right fun _ _ => Component.name.inj

/-! ## Names and components -/

theorem names_ne_nil_iff (h : path.fault? = none) :
    path.names ≠ [] ↔ path.components ≠ [.current] := by
  have hne := components_ne_nil (fault?_eq_none_iff.1 h).1
  rcases components_of_fault?_eq_none h with hcomponents | hcomponents
  · have hnames : path.names ≠ [] := by
      intro hnil
      rw [hcomponents, hnil] at hne
      exact hne rfl
    have hdot : path.components ≠ [.current] := by
      rw [hcomponents]
      intro hdot
      obtain ⟨_, _, hname⟩ := List.map_eq_singleton_iff.1 hdot
      cases hname
    exact iff_of_true hnames hdot
  · simp [hcomponents]

/-- Two places for artifacts have the same names exactly if they agree but for a dot in front. -/
theorem names_eq_iff (h : path.fault? = none) (h' : other.fault? = none) :
    path.names = other.names ↔
      path.components = other.components ∨ path.components = .current :: other.components ∨
        other.components = .current :: path.components := by
  constructor
  · intro hnames
    rcases components_of_fault?_eq_none h with hpath | hpath <;>
      rcases components_of_fault?_eq_none h' with hother | hother <;>
      simp [hpath, hother, hnames]
  · -- names are read off the components, and a dot is none
    rintro (hsame | hdot | hdot)
    · rw [names, hsame, names]
    · rw [names, hdot, names]
      rfl
    · rw [names, names, hdot]
      rfl

/-! ## Locations -/

theorem resolve_of_fault? {fault : PathFault} (root : Path) (h : path.fault? = some fault) :
    root.resolve path = .error (.invalidPath path fault) := by
  rw [resolve, checked, h]
  rfl

theorem resolve_eq_ok_iff {location : Path} :
    root.resolve path = .ok location ↔ path.fault? = none ∧ location = root.join path := by
  rw [resolve, checked]
  cases path.fault? with
  | none => simp [bind, Except.bind, pure, Except.pure, eq_comm]
  | some fault => simp [bind, Except.bind]

/-- **The names in a path lead from the root to the location of the file.** -/
theorem components_resolve (hroot : root.text ≠ "") (h : path.fault? = none) :
    ∃ location, root.resolve path = .ok location ∧
      location.components = root.components ++ path.names.map .name := by
  refine ⟨root.child path.text, resolve_eq_ok_iff.2 ⟨h, rfl⟩, ?_⟩
  rw [components_child hroot (isAbsolute_of_fault?_eq_none h), steps_of_fault?_eq_none h]

/-- **Which paths have a location, and where.** A path has one exactly if it has characters, does
not begin with a slash and does not lead up anywhere. The location then has the components of the
root and behind them the names in the path, so it never lies outside of the root. Any other path is
refused, for the first of these that it fails. -/
theorem resolve_spec (hroot : root.text ≠ "") :
    ((∃ location, root.resolve path = .ok location) ↔
      path.text ≠ "" ∧ path.text.toList.head? ≠ some '/' ∧ .parent ∉ path.components) ∧
    (∀ location, root.resolve path = .ok location →
      location.components =
        root.components ++ (path.components.filterMap Component.name?).map .name) ∧
    (path.text = "" → root.resolve path = .error (.invalidPath path .empty)) ∧
    (path.text.toList.head? = some '/' →
      root.resolve path = .error (.invalidPath path .absolute)) ∧
    (path.text.toList.head? ≠ some '/' → .parent ∈ path.components →
      root.resolve path = .error (.invalidPath path .escapes)) := by
  simp only [Ne, ← isAbsolute_iff, Bool.not_eq_true]
  refine ⟨⟨?_, ?_⟩, ?_, ?_, ?_, ?_⟩
  · rintro ⟨location, hlocation⟩
    exact fault?_eq_none_iff_relative.1 (resolve_eq_ok_iff.1 hlocation).1
  · intro h
    exact ⟨_, resolve_eq_ok_iff.2 ⟨fault?_eq_none_iff_relative.2 h, rfl⟩⟩
  · intro location hlocation
    obtain ⟨_, hsame, hcomponents⟩ := components_resolve hroot (resolve_eq_ok_iff.1 hlocation).1
    obtain rfl := Except.ok.inj (hsame.symm.trans hlocation)
    exact hcomponents
  · intro hempty
    exact resolve_of_fault? root (by rw [fault?, if_pos hempty])
  · intro habsolute
    exact resolve_of_fault? root (fault?_of_isAbsolute habsolute)
  · intro hrelative hparent
    exact resolve_of_fault? root (fault?_of_parent_mem hrelative hparent)

/-- Slashes and dots that lead nowhere make no difference; a path that goes up and down again is
refused, wherever it would end. -/
theorem resolve_spec_out :
    (⟨"out/"⟩ : Path).text ≠ "" ∧
    (∃ location, Path.resolve ⟨"out/"⟩ ⟨"./a//./b.json"⟩ = .ok location ∧
      location.components = [.name "out", .name "a", .name "b.json"]) ∧
    Path.resolve ⟨"out/"⟩ ⟨"a/../b.json"⟩ = .error (.invalidPath ⟨"a/../b.json"⟩ .escapes) ∧
    Path.resolve ⟨"out/"⟩ ⟨"/../b.json"⟩ = .error (.invalidPath ⟨"/../b.json"⟩ .absolute) ∧
    Path.resolve ⟨"out/"⟩ ⟨""⟩ = .error (.invalidPath ⟨""⟩ .empty) := by
  have hroot : (⟨"out/"⟩ : Path).text ≠ "" := by decide
  refine ⟨hroot, ?_, ?_, ?_, ?_⟩
  · obtain ⟨location, hlocation⟩ := (resolve_spec hroot).1.2
      (show Path.text ⟨"./a//./b.json"⟩ ≠ "" ∧ _ by decide)
    exact ⟨location, hlocation, (resolve_spec hroot).2.1 location hlocation⟩
  · exact (resolve_spec hroot).2.2.2.2 (by decide) (by decide)
  · exact (resolve_spec hroot).2.2.2.1 (by decide)
  · exact (resolve_spec hroot).2.2.1 rfl

/-- A location is strictly below the root unless the path is a dot. -/
theorem resolve_strictlyBelow_iff (hroot : root.text ≠ "") (h : path.fault? = none) :
    (∃ location, root.resolve path = .ok location ∧ root.StrictlyBelow location) ↔
      path.components ≠ [.current] := by
  obtain ⟨location, hlocation, hcomponents⟩ := components_resolve hroot h
  rw [← names_ne_nil_iff h]
  constructor
  · rintro ⟨_, hok, names, hne, hbelow⟩ hnil
    obtain rfl := Except.ok.inj (hlocation.symm.trans hok)
    rw [hcomponents, List.append_cancel_left_eq, map_name_inj] at hbelow
    exact hne (hbelow ▸ hnil)
  · intro hne
    exact ⟨location, hlocation, path.names, hne, hcomponents⟩

/-- Locations are told apart by the names in their paths alone. -/
theorem resolve_apart_iff (hroot : root.text ≠ "") (h : path.fault? = none)
    (h' : other.fault? = none) :
    (∀ location second, root.resolve path = .ok location → root.resolve other = .ok second →
      location.sameAs second = false) ↔ path.names ≠ other.names := by
  obtain ⟨location, hlocation, hcomponents⟩ := components_resolve hroot h
  obtain ⟨second, hsecond, hcomponents'⟩ := components_resolve hroot h'
  have hsame : location.sameAs second = true ↔ path.names = other.names := by
    rw [sameAs_iff, hcomponents, hcomponents', List.append_cancel_left_eq, map_name_inj]
  rw [hlocation, hsecond, Ne, ← hsame, Bool.not_eq_true]
  simp

end Path

namespace ArtifactSet

/-- All artifacts have locations strictly below a root, no two of them the same one. -/
structure LocationsApart (set : ArtifactSet) (root : Path) : Prop where
  below : ∀ artifact ∈ set.artifacts, ∃ location, root.resolve artifact.path = .ok location ∧
    root.StrictlyBelow location
  apart : set.artifacts.Pairwise fun a b => ∀ location second,
    root.resolve a.path = .ok location → root.resolve b.path = .ok second →
      location.sameAs second = false

variable {set : ArtifactSet} {root : Path}

/-- No two artifacts of a sound set have the same names in their paths exactly if no two paths
differ by a dot in front. -/
theorem Sound.nodup_names_iff (h : set.Sound) :
    (set.artifacts.map fun artifact => artifact.path.names).Nodup ↔
      ∀ a ∈ set.artifacts, ∀ b ∈ set.artifacts,
        a.path.components ≠ .current :: b.path.components := by
  rw [List.nodup_map_iff_inj_on (List.Nodup.of_map _ h.apart)]
  have hnames {a b : Artifact} (ha : a ∈ set.artifacts) (hb : b ∈ set.artifacts) :=
    Path.names_eq_iff (h.faultless a ha) (h.faultless b hb)
  constructor
  · intro hinj a ha b hb hdot
    have hsame := hinj a ha b hb ((hnames ha hb).2 (.inr (.inl hdot)))
    rw [hsame] at hdot
    exact List.cons_ne_self _ _ hdot.symm
  · intro hdots a ha b hb hsame
    rcases (hnames ha hb).1 hsame with hsame | hdot | hdot
    · exact List.inj_on_of_nodup_map h.apart ha hb hsame
    · exact absurd hdot (hdots a ha b hb)
    · exact absurd hdot (hdots b hb a ha)

theorem Sound.locationsApart_iff (h : set.Sound) (hroot : root.text ≠ "") :
    set.LocationsApart root ↔
      (∀ artifact ∈ set.artifacts, artifact.path.components ≠ [.current]) ∧
      ∀ a ∈ set.artifacts, ∀ b ∈ set.artifacts,
        a.path.components ≠ .current :: b.path.components := by
  have hbelow : (∀ artifact ∈ set.artifacts, ∃ location,
      root.resolve artifact.path = .ok location ∧ root.StrictlyBelow location) ↔
      ∀ artifact ∈ set.artifacts, artifact.path.components ≠ [.current] :=
    forall₂_congr fun artifact hartifact =>
      Path.resolve_strictlyBelow_iff hroot (h.faultless artifact hartifact)
  have hapart : (set.artifacts.Pairwise fun a b => ∀ location second,
      root.resolve a.path = .ok location → root.resolve b.path = .ok second →
        location.sameAs second = false) ↔
      (set.artifacts.map fun artifact => artifact.path.names).Nodup := by
    rw [List.Nodup, List.pairwise_map]
    exact List.Pairwise.iff_of_mem fun ha hb =>
      Path.resolve_apart_iff hroot (h.faultless _ ha) (h.faultless _ hb)
  rw [← hbelow, ← h.nodup_names_iff, ← hapart]
  exact ⟨fun hall => ⟨hall.below, hall.apart⟩, fun hall => ⟨hall.1, hall.2⟩⟩

/-- **Where the files of a set lie, after any history.** Each lies where the names in its path lead
from the root. All lie strictly below the root and apart from each other exactly if no path is a dot
and no two paths differ by a dot in front. -/
theorem locations_performAll_iff (changes : List Change) (hroot : root.text ≠ "") :
    (∀ artifact ∈ (empty.performAll changes).artifacts, ∃ location,
      root.resolve artifact.path = .ok location ∧
        location.components = root.components ++ artifact.path.names.map .name) ∧
    ((empty.performAll changes).LocationsApart root ↔
      (∀ artifact ∈ (empty.performAll changes).artifacts,
        artifact.path.components ≠ [.current]) ∧
      ∀ a ∈ (empty.performAll changes).artifacts, ∀ b ∈ (empty.performAll changes).artifacts,
        a.path.components ≠ .current :: b.path.components) := by
  have hsound := sound_performAll_empty changes
  exact ⟨fun artifact hartifact =>
    Path.components_resolve hroot (hsound.faultless artifact hartifact),
    hsound.locationsApart_iff hroot⟩

/-- Slashes and inner dots make no difference to a path, so the second artifact is refused. The
others have locations of their own, with a dot in front of the path or without. -/
theorem locations_spellings :
    (empty.performAll [.push ⟨⟨"a//b.json"⟩, .null⟩, .push ⟨⟨"a/./b.json"⟩, .null⟩,
      .push ⟨⟨"./c.json"⟩, .null⟩]).LocationsApart ⟨"/out/"⟩ :=
  (locations_performAll_iff _ (by decide)).2.2 (by decide)

/-- A dot in front of a path makes two paths of one location, and a dot alone is the root. -/
theorem not_locationsApart_dot :
    ¬ (empty.performAll [.push ⟨⟨"a.json"⟩, .null⟩, .push ⟨⟨"./a.json"⟩, .null⟩]).LocationsApart
      ⟨"out"⟩ ∧
    ¬ (empty.performAll [.push ⟨⟨"."⟩, .null⟩]).LocationsApart ⟨"out"⟩ := by
  constructor
  · intro h
    have happart := List.rel_of_pairwise_cons h.apart List.mem_cons_self _ _ rfl rfl
    exact absurd happart (by decide)
  · intro h
    have hbelow := h.below _ List.mem_cons_self
    rw [Path.resolve_strictlyBelow_iff (by decide) (by decide)] at hbelow
    exact hbelow (by decide)

end ArtifactSet

end VoiceSkill
