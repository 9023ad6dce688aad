import VoiceSkill.Command.Run
import VoiceSkill.Proofs.Disk
import VoiceSkill.Proofs.Writer.File
import VoiceSkill.Proofs.Writer.Run

/-!
# Writing artifacts to a directory

Below an empty directory all artifacts of a list are written exactly if the paths of all of them can
be stored and no place lies inside of another one (`run_writeEach_directory`). The directory then
holds one file for each artifact, and nothing else.
-/

namespace VoiceSkill

/-! ## Paths of files -/

namespace Path

variable {root path : Path} {disk : Disk}

/-- A path is that of a file below a root: it names what it leads to, and does not write it as a
directory. -/
structure NamesFile (root path : Path) : Prop where
  place : path.fault? = none
  named : path.names ≠ []
  plain : (root.join path).namesDirectory = false

/-- A path whose last stretch ends in more than dots is not written as that of a directory. -/
theorem namesDirectory_append {front ending : String} (hslash : '/' ∉ ending.toList)
    (hlength : 3 ≤ ending.toList.length) :
    (Path.mk (front ++ ending)).namesDirectory = false := by
  obtain ⟨before, last, -, hpieces⟩ := exists_splitAtChar_append '/' front.toList
  have hlong : 3 ≤ (last ++ ending.toList).length := by
    rw [List.length_append]
    omega
  have hlast : (Path.mk (front ++ ending)).pieces.getLast? = some (last ++ ending.toList) := by
    rw [pieces, String.toList_append, hpieces _ hslash, List.getLast?_concat]
  have hempty : last ++ ending.toList ≠ [] := fun h => by simp [h] at hlong
  have hdot : last ++ ending.toList ≠ ['.'] := fun h => by simp [h] at hlong
  have hdots : last ++ ending.toList ≠ ['.', '.'] := fun h => by simp [h] at hlong
  simp [namesDirectory, hlast, List.isEmpty_eq_false_iff.2 hempty, hdot, hdots]

theorem leadsBelow_join (hroot : root.text ≠ "") (h : root.NamesFile path) (disk : Disk) :
    disk.LeadsBelow root (root.join path) path.names := by
  have hrelative := isAbsolute_of_fault?_eq_none h.place
  have hchild : root.join path = root.child path.text := rfl
  refine ⟨?_, ?_, h.plain⟩
  · have habsolute : (root.join path).isAbsolute = root.isAbsolute := by
      rw [hchild]
      show (Path.mk (root.child path.text).text).isAbsolute = _
      rw [text_child hroot hrelative]
      split
      · exact isAbsolute_append hroot _
      · rw [String.append_assoc]
        exact isAbsolute_append hroot _
    rw [Disk.start, Disk.start, habsolute]
  · rw [hchild, components_child hroot hrelative, steps_of_fault?_eq_none h.place]

end Path

/-! ## Runs -/

section Runs

variable {root : Path} {disk : Disk} {location : Location} {written : List (List String)}
  {artifact : Artifact} {artifacts : List Artifact}

theorem run_write_directory (root : Path) {path : Path} (h : path.fault? = none)
    (document : Document) (disk : Disk) :
    ((fileWriter diskHost.store root).write path document).run disk =
      ((if (disk.store (root.join path) document.fileText).2 then
          Logged.report (.documentPersisted path)
        else ⟨.error (.unwritable (root.join path)), []⟩),
        (disk.store (root.join path) document.fileText).1) := by
  have hresolve : root.resolve path = .ok (root.join path) := Path.resolve_eq_ok_iff.2 ⟨h, rfl⟩
  rw [fileWriter]
  simp only [hresolve]
  show (if (disk.store (root.join path) document.fileText).2 then
      (pure (Logged.report (.documentPersisted path)) : StateM Disk (Logged WriteError Unit))
    else pure ⟨.error (.unwritable (root.join path)), []⟩).run
      (disk.store (root.join path) document.fileText).1 = _
  split <;> rfl

/-- One more file can be written exactly if its path can be stored and it lies in no other place and
no other place in it. -/
theorem store_join_eq_true_iff (hroot : root.text ≠ "") (h : disk.Holds root location written)
    {path : Path} (hpath : root.NamesFile path) (content : String) :
    ((disk.store (root.join path) content).2 = true ↔
      Disk.Storable (root.join path) path.names ∧ NoneInside (path.names :: written)) ∧
    ((disk.store (root.join path) content).2 = true →
      (disk.store (root.join path) content).1.Holds root location (path.names :: written)) := by
  have hbelow := Path.leadsBelow_join hroot hpath disk
  have hsplit := (List.dropLast_concat_getLast hpath.named).symm
  rw [hsplit] at hbelow ⊢
  exact ⟨Disk.store_eq_true_iff h hbelow, Disk.holds_of_store h hbelow⟩

/-- **All artifacts are written exactly if the paths of all can be stored and no place lies inside
of another one.** Then the directory holds what it held and the artifacts. -/
theorem run_writeEach_directory (hroot : root.text ≠ "") (h : disk.Holds root location written)
    (hpaths : ∀ artifact ∈ artifacts, root.NamesFile artifact.path) :
    ((((fileWriter diskHost.store root).writeEach artifacts).run disk).1.result = .ok () ↔
      (∀ artifact ∈ artifacts, Disk.Storable (root.join artifact.path) artifact.path.names) ∧
        NoneInside (artifacts.map (fun artifact => artifact.path.names) ++ written)) ∧
    ((((fileWriter diskHost.store root).writeEach artifacts).run disk).1.result = .ok () →
      (((fileWriter diskHost.store root).writeEach artifacts).run disk).2.Holds root location
        (artifacts.map (fun artifact => artifact.path.names) ++ written)) := by
  induction artifacts generalizing disk written with
  | nil => exact ⟨iff_of_true rfl ⟨List.forall_mem_nil _, h.apart⟩, fun _ => h⟩
  | cons artifact rest ih =>
      obtain ⟨hpath, hrest⟩ := List.forall_mem_cons.1 hpaths
      have hwrite := run_write_directory root hpath.place artifact.document disk
      obtain ⟨hstore, hholds⟩ :=
        store_join_eq_true_iff hroot h hpath artifact.document.fileText
      -- the places are the same in whatever order they are written
      have hmem (place : List String) :
          place ∈ rest.map (fun artifact => artifact.path.names) ++ artifact.path.names :: written ↔
            place ∈ (artifact :: rest).map (fun artifact => artifact.path.names) ++ written := by
        simp [or_left_comm]
      cases hstored : (disk.store (root.join artifact.path) artifact.document.fileText).2 with
      | true =>
          rw [hstored, if_pos rfl] at hwrite
          obtain ⟨hresult, hdisk⟩ := Writer.run_writeEach_cons_of_ok rest hwrite
          obtain ⟨hiff, hlast⟩ := ih (hholds hstored) hrest
          rw [hresult, hdisk]
          refine ⟨?_, fun hok => (hlast hok).congr hmem⟩
          rw [hiff, List.forall_mem_cons, noneInside_congr hmem,
            and_iff_right (hstore.1 hstored).1]
      | false =>
          rw [hstored, if_neg (by decide)] at hwrite
          rw [Writer.run_writeEach_cons_of_error rest hwrite]
          refine ⟨iff_of_false nofun ?_, nofun⟩
          rintro ⟨hstorable, hapart⟩
          have hfirst : NoneInside (artifact.path.names :: written) :=
            hapart.subset (by simp [List.cons_subset])
          rw [hstore.2 ⟨hstorable artifact List.mem_cons_self, hfirst⟩] at hstored
          cases hstored

end Runs

end VoiceSkill
