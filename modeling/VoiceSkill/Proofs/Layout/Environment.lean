import VoiceSkill.Intent
import VoiceSkill.Proofs.Layout
import VoiceSkill.Proofs.Uuid

/-!
# Environments and their directories

An environment has a directory exactly if it is written as a plain name with nothing but slashes and
dots behind it (`hasDirectory_iff`), and what stands behind the name has no part in where the
directory lies (`sameAs_iff_spells`). Environments without a slash are told apart by their
directories; one with a slash shares the directory of its plain name (`environments_told_apart`).
-/

namespace VoiceSkill

/-! ## Spellings of a name -/

/-- A text that names a directory, and is nothing but its name. -/
structure IsPlainName (name : String) : Prop where
  nonempty : name ≠ ""
  slashless : '/' ∉ name.toList
  ne_dot : name ≠ "."
  ne_dots : name ≠ ".."

/-- A text that is written as a name with slashes behind it, and at most a dot behind each slash. -/
def Spells (text name : String) : Prop :=
  ∃ idle : List (List Char), (∀ piece ∈ idle, piece = [] ∨ piece = ['.']) ∧
    text.toList = ['/'].intercalate (name.toList :: idle)

variable {text name : String}

theorem spells_self (name : String) : Spells name name :=
  ⟨[], fun _ hpiece => absurd hpiece List.not_mem_nil, by simp [List.intercalate]⟩

theorem spells_slash (name : String) : Spells (name ++ "/") name :=
  ⟨[[]], fun _ hpiece => Or.inl (List.mem_singleton.1 hpiece), by simp [List.intercalate]⟩

/-- A spelling without a slash is the name itself. -/
theorem Spells.eq_of_slash_not_mem (h : Spells text name) (hslash : '/' ∉ text.toList) :
    text = name := by
  obtain ⟨idle, _, htext⟩ := h
  cases idle with
  | nil =>
      rw [List.intercalate_singleton] at htext
      exact String.toList_inj.1 htext
  | cons piece idle =>
      rw [intercalate_cons_cons] at htext
      exact absurd (by rw [htext]; simp) hslash

theorem innerComponent_eq_none_iff {piece : List Char} :
    innerComponent piece = none ↔ piece = [] ∨ piece = ['.'] := by
  rw [innerComponent]
  split
  · rename_i h
    simpa using h
  · rename_i h
    constructor
    · intro hnone
      split at hnone <;> cases hnone
    · intro hidle
      exact absurd (by simpa using hidle) h

theorem IsPlainName.firstComponent (h : IsPlainName name) :
    firstComponent name.toList = some (.name name) := by
  have hempty : name.toList ≠ [] := fun hnil => h.nonempty (String.toList_inj.1 hnil)
  have hdot : name.toList ≠ ['.'] := fun heq => h.ne_dot (String.toList_inj.1 heq)
  have hdots : name.toList ≠ ['.', '.'] := fun heq => h.ne_dots (String.toList_inj.1 heq)
  simp [VoiceSkill.firstComponent, innerComponent, hempty, hdot, hdots]

/-- A stretch in front of a path stands for a name only if it is a plain one. -/
theorem isPlainName_of_firstComponent {piece : List Char} (hslash : '/' ∉ piece)
    (h : firstComponent piece = some (.name name)) : IsPlainName name ∧ piece = name.toList := by
  rw [firstComponent] at h
  split at h
  · cases h
  · rename_i hdot
    rw [innerComponent] at h
    split at h
    · cases h
    · rename_i hidle
      split at h
      · cases h
      · rename_i hdots
        have hname : String.ofList piece = name := Component.name.inj (Option.some.inj h)
        obtain rfl : piece = name.toList := by rw [← hname, String.toList_ofList]
        refine ⟨⟨?_, hslash, ?_, ?_⟩, rfl⟩
        · rintro rfl
          exact hidle (by decide)
        · rintro rfl
          exact hdot (by decide)
        · rintro rfl
          exact hdots (by decide)

theorem IsPlainName.isRelative (h : IsPlainName name) (hspells : Spells text name) :
    Path.IsRelative text := by
  obtain ⟨idle, _, htext⟩ := hspells
  obtain ⟨c, rest, hname⟩ := List.exists_cons_of_ne_nil
    (show name.toList ≠ [] from fun hnil => h.nonempty (String.toList_inj.1 hnil))
  have hc : c ≠ '/' := by
    rintro rfl
    exact h.slashless (by rw [hname]; exact List.mem_cons_self)
  have hhead : text.toList.head? = some c := by
    cases idle with
    | nil => rw [htext, List.intercalate_singleton, hname, List.head?_cons]
    | cons piece idle => rw [htext, intercalate_cons_cons, hname, List.cons_append, List.head?_cons]
  rw [Path.IsRelative, Path.isAbsolute, hhead, beq_eq_false_iff_ne]
  exact fun hsome => hc (Option.some.inj hsome)

/-- **A path is a single name exactly if it is a spelling of a plain one.** -/
theorem components_eq_name_iff :
    (Path.mk text).components = [.name name] ↔ IsPlainName name ∧ Spells text name := by
  constructor
  · intro h
    have hrelative := (Path.steps_of_components_eq h).1
    obtain ⟨first, rest, hpieces⟩ := List.exists_cons_of_ne_nil (Path.pieces_ne_nil ⟨text⟩)
    have htext : text.toList = ['/'].intercalate (first :: rest) := by
      rw [← hpieces]
      exact (intercalate_splitAtChar '/' text.toList).symm
    rw [Path.components_eq, hrelative, hpieces, Path.componentsOf, if_neg (by decide)] at h
    cases hfirst : firstComponent first with
    | none =>
        -- a path that begins with an empty stretch is empty, or begins at the root
        obtain rfl : first = [] := by
          by_contra hne
          obtain ⟨component, hcomponent⟩ := Path.exists_firstComponent hne
          rw [hfirst] at hcomponent
          cases hcomponent
        cases rest with
        | nil => rw [hfirst] at h; cases h
        | cons piece rest =>
            rw [Path.IsRelative, Path.isAbsolute, htext, intercalate_cons_cons] at hrelative
            cases hrelative
    | some component =>
        rw [hfirst, Option.toList_some, List.singleton_append, List.cons.injEq] at h
        obtain ⟨rfl, hrest⟩ := h
        have hslash : '/' ∉ first := not_mem_of_mem_splitAtChar (by
          rw [← Path.pieces, hpieces]
          exact List.mem_cons_self)
        obtain ⟨hname, rfl⟩ := isPlainName_of_firstComponent hslash hfirst
        refine ⟨hname, rest, fun piece hpiece => ?_, htext⟩
        exact innerComponent_eq_none_iff.1 (List.filterMap_eq_nil_iff.1 hrest piece hpiece)
  · rintro ⟨hname, hspells⟩
    have hrelative := hname.isRelative hspells
    obtain ⟨idle, hidle, htext⟩ := hspells
    have hslashless : ∀ piece ∈ name.toList :: idle, '/' ∉ piece := by
      intro piece hpiece
      rcases List.mem_cons.1 hpiece with rfl | hpiece
      · exact hname.slashless
      · rcases hidle piece hpiece with rfl | rfl <;> decide
    have hpieces : (Path.mk text).pieces = name.toList :: idle := by
      rw [Path.pieces, htext]
      exact splitAtChar_intercalate (List.cons_ne_nil _ _) hslashless
    have hnone : idle.filterMap innerComponent = [] := by
      rw [List.filterMap_eq_nil_iff]
      exact fun piece hpiece => innerComponent_eq_none_iff.2 (hidle piece hpiece)
    rw [Path.components_eq, hrelative, hpieces, Path.componentsOf, if_neg (by decide),
      hname.firstComponent, hnone]
    rfl

/-! ## Directories -/

namespace Layout

variable {layout : Layout} {environment other : String}

/-- The layout has a directory for an environment. -/
def HasDirectory (layout : Layout) (environment : String) : Prop :=
  ∃ directory, layout.environmentDirectory environment = .ok directory

/-- **An environment has a directory exactly if it spells a plain name.** -/
theorem hasDirectory_iff :
    layout.HasDirectory environment ↔ ∃ name, IsPlainName name ∧ Spells environment name := by
  simp only [← components_eq_name_iff]
  constructor
  · rintro ⟨directory, hdirectory⟩
    by_contra hnone
    rw [layout.environmentDirectory_of_not_name fun name hname => hnone ⟨name, hname⟩] at hdirectory
    cases hdirectory
  · rintro ⟨name, hname⟩
    obtain ⟨directory, hdirectory, _⟩ := layout.environmentDirectory_of_name hname
    exact ⟨directory, hdirectory⟩

/-- **Environments share a directory exactly if they spell the same name.** -/
theorem sameAs_iff_spells {directory second : Path}
    (h : layout.environmentDirectory environment = .ok directory)
    (h' : layout.environmentDirectory other = .ok second) :
    directory.sameAs second = true ↔
      ∃ name, IsPlainName name ∧ Spells environment name ∧ Spells other name := by
  obtain ⟨name, hplain, hspells⟩ := hasDirectory_iff.1 ⟨directory, h⟩
  obtain ⟨name', hplain', hspells'⟩ := hasDirectory_iff.1 ⟨second, h'⟩
  obtain ⟨_, hok, _, hcomponents⟩ :=
    layout.environmentDirectory_of_name (components_eq_name_iff.2 ⟨hplain, hspells⟩)
  obtain ⟨_, hok', _, hcomponents'⟩ :=
    layout.environmentDirectory_of_name (components_eq_name_iff.2 ⟨hplain', hspells'⟩)
  obtain rfl := Except.ok.inj (h.symm.trans hok)
  obtain rfl := Except.ok.inj (h'.symm.trans hok')
  rw [Path.sameAs_iff, hcomponents, hcomponents', List.append_cancel_left_eq]
  constructor
  · intro hsame
    obtain rfl : name = name' := by simpa using hsame
    exact ⟨name, hplain, hspells, hspells'⟩
  · rintro ⟨spelled, hspelled, hfirst, hsecond⟩
    -- each environment spells one name only, since it has the components of that name
    rw [← components_eq_name_iff.2 ⟨hplain, hspells⟩,
      ← components_eq_name_iff.2 ⟨hplain', hspells'⟩,
      components_eq_name_iff.2 ⟨hspelled, hfirst⟩, components_eq_name_iff.2 ⟨hspelled, hsecond⟩]

/-- Among some environments those with a directory are told apart by it: they are plain names,
different ones have different directories, and where a directory is shared the same intents are
selected. -/
structure TellsApart (layout : Layout) (among : String → Prop) : Prop where
  plain : ∀ environment, among environment → layout.HasDirectory environment →
    IsPlainName environment
  apart : ∀ environment other directory second, among environment → among other →
    layout.environmentDirectory environment = .ok directory →
    layout.environmentDirectory other = .ok second → environment ≠ other →
    directory.sameAs second = false
  selects : ∀ environment other directory second, among environment → among other →
    layout.environmentDirectory environment = .ok directory →
    layout.environmentDirectory other = .ok second → directory.sameAs second = true →
    ∀ intent : Intent,
      intent.appliesToEnvironment environment = intent.appliesToEnvironment other

theorem isPlainName_of_slash_not_mem (h : layout.HasDirectory environment)
    (hslash : '/' ∉ environment.toList) : IsPlainName environment := by
  obtain ⟨name, hplain, hspells⟩ := hasDirectory_iff.1 h
  rwa [hspells.eq_of_slash_not_mem hslash]

theorem tellsApart_iff {among : String → Prop} :
    layout.TellsApart among ↔
      ∀ environment, among environment → layout.HasDirectory environment →
        '/' ∉ environment.toList := by
  constructor
  · intro h environment hamong hdirectory
    exact (h.plain environment hamong hdirectory).slashless
  · intro h
    have hsame (environment other directory second) (hamong : among environment)
        (hother : among other)
        (hdirectory : layout.environmentDirectory environment = .ok directory)
        (hsecond : layout.environmentDirectory other = .ok second)
        (hshared : directory.sameAs second = true) : environment = other := by
      obtain ⟨name, _, hspells, hspells'⟩ := (sameAs_iff_spells hdirectory hsecond).1 hshared
      rw [hspells.eq_of_slash_not_mem (h _ hamong ⟨_, hdirectory⟩),
        hspells'.eq_of_slash_not_mem (h _ hother ⟨_, hsecond⟩)]
    refine ⟨?_, ?_, ?_⟩
    · intro environment hamong hdirectory
      exact isPlainName_of_slash_not_mem hdirectory (h environment hamong hdirectory)
    · intro environment other directory second hamong hother hdirectory hsecond hne
      rw [← Bool.not_eq_true]
      exact mt (hsame environment other directory second hamong hother hdirectory hsecond) hne
    · intro environment other directory second hamong hother hdirectory hsecond hshared intent
      rw [hsame environment other directory second hamong hother hdirectory hsecond hshared]

/-- An intent for the environment of a plain name alone is not for that name with a slash. -/
theorem appliesToEnvironment_slash {intent : Intent} {name : String}
    (h : intent.environments = [name]) :
    intent.appliesToEnvironment name = true ∧
      intent.appliesToEnvironment (name ++ "/") = false := by
  have hne : name ++ "/" ≠ name := by
    intro heq
    have hlength := congrArg (fun text => text.toList.length) heq
    simp at hlength
  simp [Intent.appliesToEnvironment, appliesTo, h, hne]

/-- A plain name shares its directory with an environment that selects other intents. -/
theorem shares_directory_slash {directory : Path} (hname : IsPlainName name)
    (h : layout.environmentDirectory name = .ok directory) :
    ∃ second, layout.environmentDirectory (name ++ "/") = .ok second ∧
      directory.sameAs second = true ∧ ∀ intent : Intent, intent.environments = [name] →
        intent.appliesToEnvironment name = true ∧
          intent.appliesToEnvironment (name ++ "/") = false := by
  have hhas : layout.HasDirectory (name ++ "/") :=
    hasDirectory_iff.2 ⟨name, hname, spells_slash name⟩
  obtain ⟨second, hsecond⟩ := hhas
  refine ⟨second, hsecond, ?_, fun intent => appliesToEnvironment_slash⟩
  exact (sameAs_iff_spells h hsecond).2 ⟨name, hname, spells_self name, spells_slash name⟩

/-- **How far environments are told apart by their directories.** An environment has a directory
exactly if it spells a plain name, and shares it with those that spell the same name. So
environments are told apart exactly as long as there is no slash in any that has a directory. A
slash behind a name is no hindrance, but keeps intents that are for the name alone from being
selected. -/
theorem environments_told_apart (layout : Layout) :
    (∀ environment, layout.HasDirectory environment ↔
      ∃ name, IsPlainName name ∧ Spells environment name) ∧
    (∀ environment other directory second,
      layout.environmentDirectory environment = .ok directory →
      layout.environmentDirectory other = .ok second →
      (directory.sameAs second = true ↔
        ∃ name, IsPlainName name ∧ Spells environment name ∧ Spells other name)) ∧
    (∀ among : String → Prop, layout.TellsApart among ↔
      ∀ environment, among environment → layout.HasDirectory environment →
        '/' ∉ environment.toList) ∧
    (∀ name directory, IsPlainName name → layout.environmentDirectory name = .ok directory →
      ∃ second, layout.environmentDirectory (name ++ "/") = .ok second ∧
        directory.sameAs second = true ∧ ∀ intent : Intent, intent.environments = [name] →
          intent.appliesToEnvironment name = true ∧
            intent.appliesToEnvironment (name ++ "/") = false) := by
  refine ⟨fun environment => hasDirectory_iff, ?_, fun among => tellsApart_iff, ?_⟩
  · intro environment other directory second hdirectory hsecond
    exact sameAs_iff_spells hdirectory hsecond
  · intro name directory hname hdirectory
    exact shares_directory_slash hname hdirectory

/-- Two plain names have directories of their own; a slash and a dot behind one make no difference,
and a slash behind it hides an intent. -/
theorem environments_told_apart_beta :
    Layout.TellsApart ⟨.enUS, false⟩ (fun environment => environment ∈ ["alpha", "beta"]) ∧
    (∃ directory second, Layout.environmentDirectory ⟨.enUS, false⟩ "beta" = .ok directory ∧
      Layout.environmentDirectory ⟨.enUS, false⟩ "beta/." = .ok second ∧
      directory.sameAs second = true) ∧
    ∃ second, Layout.environmentDirectory ⟨.enUS, false⟩ ("beta" ++ "/") = .ok second ∧
      (Intent.mk "BookFlight" [] ["beta"] []).appliesToEnvironment ("beta" ++ "/") = false := by
  obtain ⟨hhas, hsame, htells, hslash⟩ := environments_told_apart ⟨.enUS, false⟩
  have hbeta : IsPlainName "beta" := ⟨by decide, by decide, by decide, by decide⟩
  have hspells : Spells "beta/." "beta" := ⟨[['.']], by decide, by decide⟩
  obtain ⟨directory, hdirectory⟩ := (hhas "beta").2 ⟨"beta", hbeta, spells_self "beta"⟩
  obtain ⟨second, hsecond⟩ := (hhas "beta/.").2 ⟨"beta", hbeta, hspells⟩
  refine ⟨?_, ?_, ?_⟩
  · rw [htells]
    intro environment hamong _
    rcases List.mem_pair.1 hamong with rfl | rfl <;> decide
  · exact ⟨directory, second, hdirectory, hsecond, (hsame _ _ _ _ hdirectory hsecond).2
      ⟨"beta", hbeta, spells_self "beta", hspells⟩⟩
  · obtain ⟨third, hthird, _, hselects⟩ := hslash "beta" directory hbeta hdirectory
    exact ⟨third, hthird, (hselects ⟨"BookFlight", [], ["beta"], []⟩ rfl).2⟩

/-- With a slash behind it an environment has a directory without being a plain name, and the
directory is that of the name without the slash. -/
theorem not_tellsApart_slash :
    (¬ Layout.TellsApart ⟨.enUS, false⟩ fun _ => True) ∧
      ∃ directory second, Layout.environmentDirectory ⟨.enUS, false⟩ "alpha" = .ok directory ∧
        Layout.environmentDirectory ⟨.enUS, false⟩ "alpha/" = .ok second ∧
        directory.sameAs second = true ∧ ¬ IsPlainName "alpha/" := by
  have halpha : Layout.environmentDirectory ⟨.enUS, false⟩ "alpha" =
      .ok ⟨"en-US/dialog-flow/alpha"⟩ := by decide +kernel
  have hslash : Layout.environmentDirectory ⟨.enUS, false⟩ "alpha/" =
      .ok ⟨"en-US/dialog-flow/alpha/"⟩ := by decide +kernel
  have hplain : ¬ IsPlainName "alpha/" := fun h => absurd h.slashless (by decide)
  refine ⟨fun h => hplain (h.plain "alpha/" trivial ⟨_, hslash⟩), ?_⟩
  exact ⟨_, _, halpha, hslash, by decide +kernel, hplain⟩

end Layout

end VoiceSkill
