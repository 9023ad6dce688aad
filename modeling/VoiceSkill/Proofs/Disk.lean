import VoiceSkill.Disk
import VoiceSkill.Proofs.Path

/-!
# Storing files on a disk

Below a directory with files at some places, and with no more directories than these need
(`Disk.Holds`), another file can be stored exactly if its path is one that can be stored and no
place lies inside of another one then (`Disk.store_eq_true_iff`). Afterwards the directory holds
that file as well (`Disk.holds_of_store`).
-/

namespace VoiceSkill

/-! ## Places inside of others -/

/-- No place lies inside of another one. -/
def NoneInside {α : Type} (places : List (List α)) : Prop :=
  ∀ place ∈ places, ∀ other ∈ places, place <+: other → place = other

instance {α : Type} [DecidableEq α] (places : List (List α)) : Decidable (NoneInside places) :=
  inferInstanceAs (Decidable (∀ place ∈ places, ∀ other ∈ places, place <+: other → place = other))

theorem noneInside_congr {α : Type} {places others : List (List α)}
    (h : ∀ place, place ∈ places ↔ place ∈ others) : NoneInside places ↔ NoneInside others := by
  simp only [NoneInside, h]

theorem NoneInside.subset {α : Type} {places others : List (List α)} (h : NoneInside others)
    (hsubset : places ⊆ others) : NoneInside places :=
  fun a ha b hb => h a (hsubset ha) b (hsubset hb)

theorem noneInside_map_append_iff {α : Type} {front : List α} {places : List (List α)} :
    NoneInside (places.map (front ++ ·)) ↔ NoneInside places := by
  simp [NoneInside, List.prefix_append_right_inj]

theorem noneInside_cons_iff {α : Type} {place : List α} {places : List (List α)} :
    NoneInside (place :: places) ↔ NoneInside places ∧
      ∀ other ∈ places, (place <+: other → place = other) ∧ (other <+: place → other = place) := by
  constructor
  · intro h
    refine ⟨fun a ha b hb => h a (.tail _ ha) b (.tail _ hb), fun other hother => ?_⟩
    exact ⟨h place (.head _) other (.tail _ hother), h other (.tail _ hother) place (.head _)⟩
  · rintro ⟨hplaces, hplace⟩ a ha b hb hpre
    rcases List.mem_cons.1 ha with rfl | ha' <;> rcases List.mem_cons.1 hb with rfl | hb'
    · rfl
    · exact (hplace b hb').1 hpre
    · exact (hplace a ha').2 hpre
    · exact hplaces a ha' b hb' hpre

/-- The places on the way down by several names: the first of these, and those on the way from
there. -/
theorem exists_place_cons_iff {α : Type} {location place : List α} {first : α} {names : List α} :
    (∃ made, made ≠ [] ∧ made <+: first :: names ∧ place = location ++ made) ↔
      place = location ++ [first] ∨
        ∃ made, made ≠ [] ∧ made <+: names ∧ place = location ++ [first] ++ made := by
  constructor
  · rintro ⟨made, hne, hpre, rfl⟩
    obtain ⟨a, made, rfl⟩ := List.exists_cons_of_ne_nil hne
    obtain ⟨rfl, hrest⟩ := List.cons_prefix_cons.1 hpre
    rcases eq_or_ne made [] with rfl | hne
    · exact .inl rfl
    · exact .inr ⟨made, hne, hrest, List.append_cons location a made⟩
  · rintro (rfl | ⟨made, -, hpre, rfl⟩)
    · exact ⟨[first], List.cons_ne_nil _ _, List.cons_prefix_cons.2 ⟨rfl, List.nil_prefix⟩, rfl⟩
    · exact ⟨first :: made, List.cons_ne_nil _ _, List.cons_prefix_cons.2 ⟨rfl, hpre⟩,
        (List.append_cons location first made).symm⟩

namespace Disk

variable {disk next : Disk} {location place : Location} {content : String}

/-! ## Directories and files -/

/-- The disk with a directory that is put on it. -/
def make (disk : Disk) (location : Location) : Disk :=
  { disk with directories := location :: disk.directories }

theorem isDirectory_make_iff :
    (disk.make location).isDirectory place = true ↔
      place = location ∨ disk.isDirectory place = true := by
  simp [isDirectory, make, or_left_comm, or_assoc]

theorem file?_putFile (files : List (Location × String)) :
    ((putFile location content files).find? fun entry => entry.1 == place).isSome = true ↔
      place = location ∨ (files.find? fun entry => entry.1 == place).isSome = true := by
  induction files with
  | nil =>
      by_cases hplace : location = place
      · simp [putFile, hplace]
      · simp [putFile, hplace, Ne.symm hplace]
  | cons entry files ih =>
      obtain ⟨l, c⟩ := entry
      rw [putFile]
      by_cases hl : l = location
      · subst hl
        by_cases hplace : l = place
        · simp [hplace]
        · simp [hplace, Ne.symm hplace]
      · have hne : (l == location) = false := beq_false_of_ne hl
        rw [hne]
        by_cases hplace : l = place
        · simp [hplace]
        · simpa [hplace] using ih

/-! ## Walking -/

theorem isDirectory_of_walk {steps : List Component} (h : disk.walk location steps = .ok place)
    (hplace : disk.isDirectory place = true) : disk.isDirectory location = true := by
  cases steps with
  | nil =>
      cases h
      exact hplace
  | cons step steps =>
      by_contra hdirectory
      rw [walk, if_neg hdirectory] at h
      split at h <;> cases h

/-- What can be walked to can be walked to when there are more directories. -/
theorem walk_of_walk {steps : List Component} (h : disk.walk location steps = .ok place)
    (hmore : ∀ l, disk.isDirectory l = true → next.isDirectory l = true) :
    next.walk location steps = .ok place := by
  induction steps generalizing location with
  | nil => exact h
  | cons step steps ih =>
      have hdirectory : disk.isDirectory location = true := by
        by_contra hdirectory
        rw [walk, if_neg hdirectory] at h
        split at h <;> cases h
      rw [walk, if_pos hdirectory] at h
      rw [walk, if_pos (hmore location hdirectory)]
      exact ih h

/-- Going to a directory that is there makes none. -/
theorem enter_of_walk {steps : List Component} (h : disk.walk location steps = .ok place)
    (hplace : disk.isDirectory place = true) : disk.enter location steps = (disk, some place) := by
  induction steps generalizing location with
  | nil =>
      cases h
      rfl
  | cons step steps ih =>
      have hdirectory := isDirectory_of_walk h hplace
      rw [walk, if_pos hdirectory] at h
      rw [enter]
      simp only [isDirectory_of_walk h hplace, if_true]
      exact ih h

theorem enter_append (disk : Disk) (location : Location) (steps more : List Component) :
    disk.enter location (steps ++ more) =
      match disk.enter location steps with
      | (next, some place) => next.enter place more
      | (next, none) => (next, none) := by
  induction steps generalizing disk location with
  | nil => rfl
  | cons step steps ih =>
      rw [List.cons_append, enter, enter]
      split
      · exact ih _ _
      · split
        · rfl
        · exact ih _ _

/-! ## Going down by names -/

/-- In a directory one can go on by a name: there is a directory of that name, or one can be made,
as there is no file and the name is not too long. -/
def Passes (disk : Disk) (location : Location) (name : String) : Prop :=
  disk.isDirectory (location ++ [name]) = true ∨
    (disk.file? (location ++ [name])).isSome = false ∧ fits (.name name) = true

theorem passes_make_iff {name : String} (h : location ++ [name] ≠ place) :
    (disk.make place).Passes location name ↔ disk.Passes location name := by
  rw [Passes, isDirectory_make_iff, or_iff_right h]
  rfl

/-- One goes down by a name into the directory of that name, which is made if it is not there. -/
theorem enter_cons_of_passes {name : String} (h : disk.Passes location name)
    (steps : List Component) :
    (disk.isDirectory (location ++ [name]) = true ∧
      disk.enter location (.name name :: steps) = disk.enter (location ++ [name]) steps) ∨
    disk.enter location (.name name :: steps) =
      (disk.make (location ++ [name])).enter (location ++ [name]) steps := by
  rw [enter]
  by_cases hdirectory : disk.isDirectory (location ++ [name]) = true
  · exact .inl ⟨hdirectory, if_pos hdirectory⟩
  · obtain ⟨hfile, hfits⟩ := h.resolve_left hdirectory
    refine .inr ?_
    simp only [follow, hdirectory, hfile, hfits]
    rfl

theorem enter_cons_of_not_passes {name : String} (h : ¬ disk.Passes location name)
    (steps : List Component) : disk.enter location (.name name :: steps) = (disk, none) := by
  rw [Passes, not_or, not_and_or] at h
  obtain ⟨hdirectory, hblocked⟩ := h
  rw [Bool.not_eq_false, Bool.not_eq_true] at hblocked
  have hblocked : ((disk.file? (location ++ [name])).isSome || !fits (.name name)) = true := by
    rwa [Bool.or_eq_true, Bool.not_eq_true']
  rw [enter]
  simp only [follow, hdirectory, hblocked]
  rfl

theorem append_cons_ne {front : Location} {first name : String} :
    location ++ [first] ++ front ++ [name] ≠ location ++ [first] := by
  simp

/-- **Directories are made for all names on the way**, if one can go on by each of them. -/
theorem enter_names {names : List String}
    (h : ∀ front name, front ++ [name] <+: names → disk.Passes (location ++ front) name) :
    ∃ next, disk.enter location (names.map .name) = (next, some (location ++ names)) ∧
      next.files = disk.files ∧ next.current = disk.current ∧
      ∀ place, next.isDirectory place = true ↔ disk.isDirectory place = true ∨
        ∃ made, made ≠ [] ∧ made <+: names ∧ place = location ++ made := by
  induction names generalizing disk location with
  | nil =>
      refine ⟨disk, by simp [enter], rfl, rfl, fun place => ?_⟩
      refine (or_iff_left ?_).symm
      rintro ⟨made, hne, hpre, -⟩
      exact hne (List.prefix_nil.1 hpre)
  | cons first names ih =>
      have hfirst : disk.Passes location first := by
        simpa using h [] first (List.cons_prefix_cons.2 ⟨rfl, List.nil_prefix⟩)
      have hrest (front : List String) (name : String) (hpre : front ++ [name] <+: names) :
          disk.Passes (location ++ [first] ++ front) name := by
        have hpasses := h (first :: front) name (List.cons_prefix_cons.2 ⟨rfl, hpre⟩)
        rwa [List.append_cons] at hpasses
      simp only [List.map_cons, exists_place_cons_iff]
      rw [List.append_cons]
      rcases enter_cons_of_passes hfirst (names.map .name) with ⟨hdirectory, henter⟩ | henter
      · obtain ⟨next, hnext, hfiles, hcurrent, hdirectories⟩ := ih hrest
        refine ⟨next, henter.trans hnext, hfiles, hcurrent, fun place => ?_⟩
        rw [hdirectories]
        constructor
        · rintro (hplace | hmade)
          · exact .inl hplace
          · exact .inr (.inr hmade)
        · rintro (hplace | rfl | hmade)
          · exact .inl hplace
          · exact .inl hdirectory
          · exact .inr hmade
      · obtain ⟨next, hnext, hfiles, hcurrent, hdirectories⟩ := ih fun front name hpre =>
          (passes_make_iff append_cons_ne).2 (hrest front name hpre)
        refine ⟨next, henter.trans hnext, hfiles, hcurrent, fun place => ?_⟩
        rw [hdirectories, isDirectory_make_iff, or_assoc, or_left_comm]

/-- Nothing is reached if one cannot go on by one of the names. -/
theorem enter_names_of_not_passes {front : List String} {name : String} {names : List String}
    (hpre : front ++ [name] <+: names) (h : ¬ disk.Passes (location ++ front) name) :
    (disk.enter location (names.map .name)).2 = none := by
  induction names generalizing disk location front with
  | nil => simp at hpre
  | cons first names ih =>
      rw [List.map_cons]
      by_cases hfirst : disk.Passes location first
      · cases front with
        | nil =>
            obtain ⟨rfl, -⟩ := List.cons_prefix_cons.1 hpre
            rw [List.append_nil] at h
            exact absurd hfirst h
        | cons second front =>
            obtain ⟨rfl, hrest⟩ := List.cons_prefix_cons.1 hpre
            rw [List.append_cons] at h
            rcases enter_cons_of_passes hfirst (names.map .name) with ⟨-, henter⟩ | henter
            · rw [henter]
              exact ih hrest h
            · rw [henter]
              exact ih hrest (mt (passes_make_iff append_cons_ne).1 h)
      · rw [enter_cons_of_not_passes hfirst]

/-! ## A directory of files -/

/-- A path leads to a directory that has files at the given places below it and no others, and only
those directories below it that the files lie in. -/
structure Holds (disk : Disk) (root : Path) (location : Location) (written : List (List String)) :
    Prop where
  found : disk.walk (disk.start root) root.components = .ok location
  isDirectory : disk.isDirectory location = true
  file_iff : ∀ names, names ≠ [] →
    ((disk.file? (location ++ names)).isSome = true ↔ names ∈ written)
  directory_iff : ∀ names, names ≠ [] →
    (disk.isDirectory (location ++ names) = true ↔
      ∃ place ∈ written, names <+: place ∧ names ≠ place)
  named : ∀ place ∈ written, place ≠ []
  fits : ∀ place ∈ written, ∀ name ∈ place, fits (.name name) = true
  apart : NoneInside written

variable {root target : Path} {written others : List (List String)} {front : List String}
  {name : String}

theorem Holds.congr (h : disk.Holds root location written)
    (hmem : ∀ place, place ∈ written ↔ place ∈ others) : disk.Holds root location others := by
  obtain ⟨hfound, hdirectory, hfile, hdirectories, hnamed, hfits, hapart⟩ := h
  simp only [hmem] at hfile hdirectories hnamed hfits
  exact ⟨hfound, hdirectory, hfile, hdirectories, hnamed, hfits, (noneInside_congr hmem).1 hapart⟩

/-- A place lies in front of a name exactly if it is one of those on the way there. -/
theorem prefix_and_ne_iff {α : Type} {place front : List α} {last : α} :
    place <+: front ++ [last] ∧ place ≠ front ++ [last] ↔ place <+: front := by
  rw [List.prefix_concat_iff, or_and_right]
  constructor
  · rintro (⟨heq, hne⟩ | ⟨hpre, -⟩)
    · exact absurd heq hne
    · exact hpre
  · intro hpre
    refine .inr ⟨hpre, ?_⟩
    rintro rfl
    exact absurd hpre.length_le (by simp)

/-- One can go down by names exactly if none of them is too long and there is no file on the way. -/
theorem Holds.forall_passes_iff (h : disk.Holds root location written) :
    (∀ before name, before ++ [name] <+: front → disk.Passes (location ++ before) name) ↔
      (∀ name ∈ front, Disk.fits (.name name) = true) ∧ ∀ place ∈ written, ¬ place <+: front := by
  have hpasses (before : List String) (name : String) :
      disk.Passes (location ++ before) name ↔
        (∃ place ∈ written, before ++ [name] <+: place ∧ before ++ [name] ≠ place) ∨
          before ++ [name] ∉ written ∧ Disk.fits (.name name) = true := by
    have hne : before ++ [name] ≠ [] := List.append_ne_nil_of_right_ne_nil _ (List.cons_ne_nil _ _)
    rw [Passes, List.append_assoc, h.directory_iff _ hne, ← h.file_iff _ hne, Bool.not_eq_true]
  simp only [hpasses]
  constructor
  · intro hall
    constructor
    · intro name hname
      obtain ⟨before, after, rfl⟩ := List.append_of_mem hname
      rcases hall before name ⟨after, by simp⟩ with ⟨place, hplace, hpre, -⟩ | ⟨-, hfits⟩
      · exact h.fits place hplace name (hpre.subset (by simp))
      · exact hfits
    · intro place hplace hpre
      obtain ⟨before, name, rfl⟩ : ∃ before name, place = before ++ [name] :=
        ⟨_, _, (List.dropLast_concat_getLast (h.named place hplace)).symm⟩
      rcases hall before name hpre with ⟨other, hother, hinside, hne⟩ | ⟨hnot, -⟩
      · exact hne (h.apart _ hplace other hother hinside)
      · exact hnot hplace
  · rintro ⟨hfits, hnone⟩ before name hpre
    refine .inr ⟨fun hwritten => hnone _ hwritten hpre, hfits name (hpre.subset (by simp))⟩

/-- A path can be stored below a directory: it is not too long, no name below the directory is, and
there is no null character in it. -/
structure Storable (target : Path) (names : List String) : Prop where
  length : target.text.utf8ByteSize ≤ pathLimit
  clean : ∀ component ∈ target.components, '\x00' ∉ component.label.toList
  fits : ∀ name ∈ names, Disk.fits (.name name) = true

theorem storable_iff {names : List String} :
    Storable target names ↔ target.text.utf8ByteSize ≤ pathLimit ∧
      (∀ component ∈ target.components, '\x00' ∉ component.label.toList) ∧
        ∀ name ∈ names, Disk.fits (.name name) = true :=
  ⟨fun h => ⟨h.length, h.clean, h.fits⟩, fun h => ⟨h.1, h.2.1, h.2.2⟩⟩

instance (target : Path) (names : List String) : Decidable (Storable target names) :=
  decidable_of_iff' _ storable_iff

/-- The parts of the path of a file below a directory. -/
structure LeadsBelow (disk : Disk) (root target : Path) (names : List String) : Prop where
  start : disk.start target = disk.start root
  components : target.components = root.components ++ names.map .name
  plain : target.namesDirectory = false

/-- How a file is stored below a directory: all names but the last one are those of directories. -/
theorem store_eq (h : disk.Holds root location written)
    (hbelow : disk.LeadsBelow root target (front ++ [name])) (content : String) :
    disk.store target content =
      if target.text.utf8ByteSize > pathLimit ∨
          (∃ component ∈ target.components.dropLast, '\x00' ∈ component.label.toList) then
        (disk, false)
      else match disk.enter location (front.map .name) with
        | (next, some parent) =>
          if next.accepts target parent name then
            ({ next with files := putFile (parent ++ [name]) content next.files }, true)
          else (next, false)
        | (next, none) => (next, false) := by
  have hparents : target.components.dropLast = root.components ++ front.map .name := by
    rw [hbelow.components, List.map_append, ← List.append_assoc]
    exact List.dropLast_concat
  have hlast : target.components.getLast? = some (.name name) := by
    rw [hbelow.components, List.map_append, ← List.append_assoc]
    exact List.getLast?_concat
  have henter : disk.enter (disk.start target) target.components.dropLast =
      disk.enter location (front.map .name) := by
    rw [hparents, hbelow.start, enter_append, enter_of_walk h.found h.isDirectory]
  have hrefused : (decide (target.text.utf8ByteSize > pathLimit) ||
      target.components.dropLast.any (·.label.toList.contains '\x00')) = true ↔
      target.text.utf8ByteSize > pathLimit ∨
        ∃ component ∈ target.components.dropLast, '\x00' ∈ component.label.toList := by
    simp
  simp only [store, henter, hlast, hrefused]
  split
  · rfl
  · rcases disk.enter location (front.map .name) with ⟨next, _ | parent⟩ <;> rfl

/-- A file is accepted after its directories have been made if its name is in order and no directory
has it. -/
theorem Holds.accepts_iff (h : disk.Holds root location written)
    (hplain : target.namesDirectory = false)
    (hdirectories : ∀ place, next.isDirectory place = true ↔ disk.isDirectory place = true ∨
      ∃ made, made ≠ [] ∧ made <+: front ∧ place = location ++ made)
    (name : String) :
    next.accepts target (location ++ front) name = true ↔
      '\x00' ∉ name.toList ∧ Disk.fits (.name name) = true ∧
        ∀ place ∈ written, front ++ [name] <+: place → front ++ [name] = place := by
  have hne : front ++ [name] ≠ [] := List.append_ne_nil_of_right_ne_nil _ (List.cons_ne_nil _ _)
  have hmade : ¬ ∃ made, made ≠ [] ∧ made <+: front ∧
      location ++ (front ++ [name]) = location ++ made := by
    rintro ⟨made, -, hpre, hsame⟩
    rw [← List.append_cancel_left hsame] at hpre
    exact absurd hpre.length_le (by simp)
  have hfree : next.isDirectory (location ++ front ++ [name]) = false ↔
      ∀ place ∈ written, front ++ [name] <+: place → front ++ [name] = place := by
    rw [← Bool.not_eq_true, List.append_assoc, hdirectories, or_iff_left hmade,
      h.directory_iff _ hne]
    simp only [not_exists, not_and, not_not]
  have hclean : name.toList.contains '\x00' = false ↔ '\x00' ∉ name.toList := by simp
  simp only [accepts, hplain, Bool.and_eq_true, Bool.not_eq_true', Bool.not_false, hclean, hfree,
    and_true, and_assoc]

/-- A path can be stored if the way to the file is not refused at once, and neither are the
names. -/
theorem storable_concat_iff (hbelow : disk.LeadsBelow root target (front ++ [name])) :
    Storable target (front ++ [name]) ↔
      ¬ (target.text.utf8ByteSize > pathLimit ∨
        ∃ component ∈ target.components.dropLast, '\x00' ∈ component.label.toList) ∧
      '\x00' ∉ name.toList ∧ (∀ n ∈ front, Disk.fits (.name n) = true) ∧
        Disk.fits (.name name) = true := by
  have hsplit : target.components = target.components.dropLast ++ [.name name] := by
    rw [hbelow.components, List.map_append, ← List.append_assoc, List.map_singleton,
      List.dropLast_concat]
  have hclean : (∀ component ∈ target.components, '\x00' ∉ component.label.toList) ↔
      (∀ component ∈ target.components.dropLast, '\x00' ∉ component.label.toList) ∧
        '\x00' ∉ name.toList := by
    rw [hsplit, List.dropLast_concat, List.forall_mem_append, List.forall_mem_singleton]
    rfl
  have hfits : (∀ n ∈ front ++ [name], Disk.fits (.name n) = true) ↔
      (∀ n ∈ front, Disk.fits (.name n) = true) ∧ Disk.fits (.name name) = true := by
    rw [List.forall_mem_append, List.forall_mem_singleton]
  rw [storable_iff, hclean, hfits, not_or, Nat.not_lt, and_assoc, and_assoc]
  simp only [not_exists, not_and]

/-- The last name of a place aside, no place lies inside of another one exactly if no file is on the
way and no directory has the place. -/
theorem noneInside_concat_iff (hapart : NoneInside written) :
    NoneInside ((front ++ [name]) :: written) ↔
      (∀ place ∈ written, ¬ place <+: front) ∧
        ∀ place ∈ written, front ++ [name] <+: place → front ++ [name] = place := by
  rw [noneInside_cons_iff, and_iff_right hapart, ← forall₂_and]
  refine forall₂_congr fun place _ => ?_
  rw [and_comm, ← @prefix_and_ne_iff _ place front name, not_and, not_not]

variable {content : String}

/-- **A file is stored exactly if its path can be stored and no place lies inside of another one
with it.** -/
theorem store_eq_true_iff (h : disk.Holds root location written)
    (hbelow : disk.LeadsBelow root target (front ++ [name])) :
    (disk.store target content).2 = true ↔
      Storable target (front ++ [name]) ∧ NoneInside ((front ++ [name]) :: written) := by
  rw [storable_concat_iff hbelow, noneInside_concat_iff h.apart, store_eq h hbelow]
  split
  · rename_i hrefused
    exact iff_of_false nofun fun hall => hall.1.1 hrefused
  rename_i hallowed
  rw [and_iff_right hallowed]
  by_cases hpasses :
      ∀ before name, before ++ [name] <+: front → disk.Passes (location ++ before) name
  · obtain ⟨next, henter, -, -, hdirectories⟩ := enter_names hpasses
    obtain ⟨hfits, hnone⟩ := h.forall_passes_iff.1 hpasses
    have haccepts := h.accepts_iff hbelow.plain hdirectories name
    have hstored (next : Disk) {c : Bool} {files : List (Location × String)} :
        (if c = true then ({ next with files := files }, true) else (next, false)).2 = true ↔
          c = true := by
      cases c <;> simp
    simp only [henter]
    rw [hstored, haccepts, and_iff_right hfits, and_iff_right hnone, and_assoc]
  · have hblocked : ¬ ((∀ n ∈ front, Disk.fits (.name n) = true) ∧
        ∀ place ∈ written, ¬ place <+: front) := mt h.forall_passes_iff.2 hpasses
    push Not at hpasses
    obtain ⟨before, other, hpre, hnot⟩ := hpasses
    have hnone := enter_names_of_not_passes hpre hnot
    rcases henter : disk.enter location (front.map .name) with ⟨next, _ | parent⟩
    · exact iff_of_false nofun fun ⟨⟨_, hfits, _⟩, hway, _⟩ => hblocked ⟨hfits, hway⟩
    · rw [henter] at hnone
      cases hnone

/-- Where a file has been stored, the directory holds it as well. -/
theorem holds_of_store (h : disk.Holds root location written)
    (hbelow : disk.LeadsBelow root target (front ++ [name]))
    (hstored : (disk.store target content).2 = true) :
    (disk.store target content).1.Holds root location ((front ++ [name]) :: written) := by
  obtain ⟨hstorable, hapart⟩ := (store_eq_true_iff h hbelow).1 hstored
  obtain ⟨hway, hfree⟩ := (noneInside_concat_iff h.apart).1 hapart
  have hfits : ∀ n ∈ front, Disk.fits (.name n) = true :=
    fun n hn => hstorable.fits n (List.mem_append_left _ hn)
  obtain ⟨next, henter, hfiles, hcurrent, hdirectories⟩ :=
    enter_names (h.forall_passes_iff.2 ⟨hfits, hway⟩)
  -- only if the file was accepted can it have been stored
  have hstore : (disk.store target content).1 =
      { next with files := putFile (location ++ front ++ [name]) content next.files } := by
    rw [store_eq h hbelow] at hstored ⊢
    simp only [henter] at hstored ⊢
    split at hstored
    · cases hstored
    · split at hstored
      · rename_i hallowed haccepts
        rw [if_neg hallowed, if_pos haccepts]
      · cases hstored
  have hmore (l : Location) (hl : disk.isDirectory l = true) : next.isDirectory l = true :=
    (hdirectories l).2 (.inl hl)
  rw [hstore]
  constructor
  case found =>
    have hstart : next.start root = disk.start root := by rw [start, start, hcurrent]
    exact walk_of_walk (hstart ▸ h.found) hmore
  case isDirectory => exact hmore location h.isDirectory
  case file_iff =>
    intro names hne
    rw [List.mem_cons, ← h.file_iff names hne, file?, file?, Option.isSome_map, Option.isSome_map,
      file?_putFile, hfiles, List.append_assoc, List.append_cancel_left_eq]
  case directory_iff =>
    intro names hne
    have hmade : (∃ made, made ≠ [] ∧ made <+: front ∧ location ++ names = location ++ made) ↔
        names <+: front := by
      simp only [List.append_cancel_left_eq]
      exact ⟨fun ⟨_, _, hpre, heq⟩ => heq ▸ hpre, fun hpre => ⟨names, hne, hpre, rfl⟩⟩
    show next.isDirectory (location ++ names) = true ↔ _
    rw [hdirectories, hmade, h.directory_iff names hne,
      ← @prefix_and_ne_iff _ names front name, or_comm]
    simp only [List.mem_cons, exists_eq_or_imp]
  case named => exact List.forall_mem_cons.2 ⟨by simp, h.named⟩
  case fits => exact List.forall_mem_cons.2 ⟨hstorable.fits, h.fits⟩
  case apart => exact hapart

end Disk

end VoiceSkill
