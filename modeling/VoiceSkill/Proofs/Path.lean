import VoiceSkill.Artifact
import Mathlib.Data.Set.List

/-!
# Paths below paths

What a written name adds to the components of a path that it is put below (`components_child`).
The name of a file adds itself if there are no slashes in it (`steps_json`). A path of names alone
is a place for an artifact (`fault?_eq_none`).
-/

namespace VoiceSkill

/-! ## Splitting -/

theorem splitAtChar_append (separator : Char) (a b : List Char) :
    splitAtChar separator (a ++ separator :: b) =
      splitAtChar separator a ++ splitAtChar separator b := by
  induction a with
  | nil => simp [splitAtChar]
  | cons c a ih =>
      rw [List.cons_append, splitAtChar, splitAtChar]
      by_cases hc : (c == separator) = true
      · rw [if_pos hc, if_pos hc, ih, List.cons_append]
      · rw [if_neg hc, if_neg hc, ih]
        cases ha : splitAtChar separator a with
        | nil => exact absurd ha (splitAtChar_ne_nil separator a)
        | cons piece pieces => rfl

theorem splitAtChar_of_not_mem {separator : Char} {text : List Char} (h : separator ∉ text) :
    splitAtChar separator text = [text] := by
  induction text with
  | nil => rfl
  | cons c text ih =>
      rw [List.mem_cons, not_or] at h
      have hc : (c == separator) = false := beq_false_of_ne (Ne.symm h.1)
      rw [splitAtChar, ih h.2]
      simp [hc]

theorem not_mem_of_mem_splitAtChar {separator : Char} {text piece : List Char}
    (h : piece ∈ splitAtChar separator text) : separator ∉ piece := by
  induction text generalizing piece with
  | nil =>
      rw [List.mem_singleton.1 h]
      exact List.not_mem_nil
  | cons c text ih =>
      rw [splitAtChar] at h
      split at h
      · rcases List.mem_cons.1 h with rfl | h
        · exact List.not_mem_nil
        · exact ih h
      · rename_i hc
        split at h
        · rename_i hnil
          exact absurd hnil (splitAtChar_ne_nil separator text)
        · rename_i first rest hsplit
          rcases List.mem_cons.1 h with rfl | h
          · rw [List.mem_cons, not_or]
            refine ⟨fun heq => hc (beq_iff_eq.2 heq.symm), ih ?_⟩
            rw [hsplit]
            exact List.mem_cons_self
          · exact ih (by rw [hsplit]; exact List.mem_cons_of_mem _ h)

/-- A text without separators behind another one belongs to its last stretch. -/
theorem exists_splitAtChar_append (separator : Char) (a : List Char) :
    ∃ front last, last <:+ a ∧ ∀ b, separator ∉ b →
      splitAtChar separator (a ++ b) = front ++ [last ++ b] := by
  induction a with
  | nil => exact ⟨[], [], List.suffix_refl [], fun b h => splitAtChar_of_not_mem h⟩
  | cons c a ih =>
      obtain ⟨front, last, hlast, hsplit⟩ := ih
      have hlast' : last <:+ c :: a := hlast.trans (List.suffix_cons c a)
      by_cases hc : (c == separator) = true
      · refine ⟨[] :: front, last, hlast', fun b h => ?_⟩
        rw [List.cons_append, splitAtChar, if_pos hc, hsplit b h]
        rfl
      · -- the character goes to the first stretch, which may be the last one as well
        cases front with
        | nil =>
            have hwhole : last = a := by
              have hsingle := hsplit [] List.not_mem_nil
              rw [List.append_nil, List.append_nil, List.nil_append] at hsingle
              have hjoined := intercalate_splitAtChar separator a
              rw [hsingle] at hjoined
              simpa [List.intercalate] using hjoined
            refine ⟨[], c :: last, hwhole ▸ List.suffix_refl _, fun b h => ?_⟩
            rw [List.cons_append, splitAtChar, if_neg hc, hsplit b h]
            rfl
        | cons piece pieces =>
            refine ⟨(c :: piece) :: pieces, last, hlast', fun b h => ?_⟩
            rw [List.cons_append, splitAtChar, if_neg hc, hsplit b h]
            rfl

/-- The text of a step that is a name. -/
def Component.name? : Component → Option String
  | name text => some text
  | _ => none

theorem Component.filterMap_name?_map (names : List String) :
    (names.map Component.name).filterMap Component.name? = names := by
  rw [List.filterMap_map]
  exact List.filterMap_some

namespace Path

/-- The components that a text adds to a path that it is put below. -/
def steps (text : String) : List Component :=
  (splitAtChar '/' text.toList).filterMap innerComponent

/-- A text that begins with a slash stands for itself wherever it is put. -/
def IsRelative (text : String) : Prop := (Path.mk text).isAbsolute = false

instance (text : String) : Decidable (IsRelative text) :=
  inferInstanceAs (Decidable ((Path.mk text).isAbsolute = false))

/-! ## Components and pieces -/

/-- The components that the pieces of a path stand for. -/
def componentsOf (absolute : Bool) (pieces : List (List Char)) : List Component :=
  if absolute then .root :: pieces.filterMap innerComponent
  else match pieces with
    | [] => []
    | first :: rest => (firstComponent first).toList ++ rest.filterMap innerComponent

theorem components_eq (path : Path) :
    path.components = componentsOf path.isAbsolute path.pieces := rfl

theorem pieces_ne_nil (path : Path) : path.pieces ≠ [] :=
  splitAtChar_ne_nil '/' path.text.toList

/-- Further pieces add what they stand for inside a path. -/
theorem componentsOf_append {absolute : Bool} {pieces : List (List Char)} (h : pieces ≠ [])
    (more : List (List Char)) :
    componentsOf absolute (pieces ++ more) =
      componentsOf absolute pieces ++ more.filterMap innerComponent := by
  obtain ⟨first, rest, rfl⟩ := List.exists_cons_of_ne_nil h
  cases absolute with
  | true =>
      show Component.root :: (first :: rest ++ more).filterMap innerComponent = _
      rw [List.filterMap_append]
      rfl
  | false => simp [componentsOf]

/-! ## The components of a name -/

theorem isRelative_of_not_mem {text : String} (h : '/' ∉ text.toList) : IsRelative text := by
  rw [IsRelative, isAbsolute, beq_eq_false_iff_ne]
  intro hhead
  exact h (List.mem_of_mem_head? hhead)

theorem innerComponent_of_length {piece : List Char} (h : 3 ≤ piece.length) :
    innerComponent piece = some (.name (String.ofList piece)) := by
  have hempty : piece ≠ [] := by rintro rfl; simp at h
  have hdot : piece ≠ ['.'] := by rintro rfl; simp at h
  have hdots : piece ≠ ['.', '.'] := by rintro rfl; simp at h
  simp [innerComponent, hempty, hdot, hdots]

/-- A file that is named by a text without slashes has this name as the only component. -/
theorem steps_json {stem : String} (h : '/' ∉ stem.toList) :
    IsRelative (stem ++ ".json") ∧ steps (stem ++ ".json") = [.name (stem ++ ".json")] := by
  have hslash : '/' ∉ (stem ++ ".json").toList := by simp [h]
  -- a name of five characters or more is not made of dots
  have hname : innerComponent (stem ++ ".json").toList = some (.name (stem ++ ".json")) := by
    rw [innerComponent_of_length (by simp), String.ofList_toList]
  refine ⟨isRelative_of_not_mem hslash, ?_⟩
  rw [steps, splitAtChar_of_not_mem hslash, List.filterMap_cons, hname, List.filterMap_nil]

/-- Below another path a text leads up or to names, never to the root. -/
theorem parent_or_name_of_mem_steps {text : String} {component : Component}
    (h : component ∈ steps text) : component = .parent ∨ ∃ name, component = .name name := by
  obtain ⟨piece, _, hpiece⟩ := List.mem_filterMap.1 h
  rw [innerComponent] at hpiece
  split at hpiece
  · cases hpiece
  · split at hpiece
    · exact Or.inl (Option.some.inj hpiece).symm
    · exact Or.inr ⟨_, (Option.some.inj hpiece).symm⟩

/-- A text that does not lead up adds names. -/
theorem exists_names_of_parent_not_mem {text : String} (h : .parent ∉ steps text) :
    ∃ names : List String, steps text = names.map .name := by
  have hnames : steps text ∈ Set.range (List.map Component.name) := by
    rw [Set.range_list_map]
    intro component hcomponent
    rcases parent_or_name_of_mem_steps hcomponent with rfl | ⟨name, rfl⟩
    · exact absurd hcomponent h
    · exact ⟨name, rfl⟩
  obtain ⟨names, hnames⟩ := hnames
  exact ⟨names, hnames.symm⟩

/-- A text that ends in a plain stretch leads to a name in the end, and the ending shows nowhere
else. -/
theorem exists_steps_append (front : String) :
    ∃ begun last, last <:+ front.toList ∧
      ∀ ending : String, '/' ∉ ending.toList → 3 ≤ ending.toList.length →
        steps (front ++ ending) = begun ++ [.name (String.ofList (last ++ ending.toList))] := by
  obtain ⟨pieces, last, hlast, hpieces⟩ := exists_splitAtChar_append '/' front.toList
  refine ⟨pieces.filterMap innerComponent, last, hlast, ?_⟩
  intro ending hslash hlength
  have hlast : innerComponent (last ++ ending.toList) =
      some (.name (String.ofList (last ++ ending.toList))) := by
    apply innerComponent_of_length
    rw [List.length_append]
    omega
  rw [steps, String.toList_append, hpieces _ hslash, List.filterMap_append, List.filterMap_cons,
    hlast]
  rfl

/-- Whatever stands in front, the ending of a file makes a name of the last stretch. -/
theorem steps_json_ne_nil (stem : String) : steps (stem ++ ".json") ≠ [] := by
  obtain ⟨begun, last, _, hsteps⟩ := exists_steps_append stem
  rw [hsteps ".json" (by decide) (by decide)]
  exact List.append_ne_nil_of_right_ne_nil _ (List.cons_ne_nil _ _)

/-- Texts that lead to one place with one ending do so with any other. -/
theorem steps_append_congr {front other ending ending' : String}
    (hslash : '/' ∉ ending.toList) (hlength : 3 ≤ ending.toList.length)
    (hslash' : '/' ∉ ending'.toList) (hlength' : 3 ≤ ending'.toList.length)
    (h : steps (front ++ ending) = steps (other ++ ending)) :
    steps (front ++ ending') = steps (other ++ ending') := by
  obtain ⟨begun, last, _, hfront⟩ := exists_steps_append front
  obtain ⟨begun', last', _, hother⟩ := exists_steps_append other
  rw [hfront ending hslash hlength, hother ending hslash hlength] at h
  obtain ⟨hbegun, hname⟩ := List.append_inj' h rfl
  simp only [List.cons.injEq, Component.name.injEq, and_true, String.ofList_inj,
    List.append_cancel_right_eq] at hname
  rw [hfront ending' hslash' hlength', hother ending' hslash' hlength', hbegun, hname]

/-- Where a text leads to the same place with a shorter ending, it ends in what the ending lacks. -/
theorem suffix_of_steps_append_eq (between ending : String) {front other : String}
    (hslash : '/' ∉ ending.toList) (hlength : 3 ≤ ending.toList.length)
    (hbetween : '/' ∉ between.toList)
    (h : steps (front ++ ending) = steps (other ++ (between ++ ending))) :
    between.toList <:+ front.toList := by
  obtain ⟨begun, last, hlast, hfront⟩ := exists_steps_append front
  obtain ⟨begun', last', _, hother⟩ := exists_steps_append other
  have hslash' : '/' ∉ (between ++ ending).toList := by
    rw [String.toList_append, List.mem_append, not_or]
    exact ⟨hbetween, hslash⟩
  have hlength' : 3 ≤ (between ++ ending).toList.length := by
    rw [String.toList_append, List.length_append]
    omega
  rw [hfront ending hslash hlength, hother _ hslash' hlength'] at h
  have hname := (List.append_inj' h rfl).2
  simp only [List.cons.injEq, Component.name.injEq, and_true, String.ofList_inj,
    String.toList_append, ← List.append_assoc, List.append_cancel_right_eq] at hname
  rw [hname] at hlast
  exact (List.suffix_append last' between.toList).trans hlast

/-- A relative path has the components that its text adds below another path, and a leading dot in
front of them if it begins with one. -/
theorem components_eq_steps_or {text : String} (h : IsRelative text) :
    (Path.mk text).components = steps text ∨
      (Path.mk text).components = .current :: steps text := by
  obtain ⟨first, rest, hpieces⟩ := List.exists_cons_of_ne_nil (pieces_ne_nil (Path.mk text))
  have hsteps : steps text = (first :: rest).filterMap innerComponent := by
    rw [← hpieces]
    rfl
  rw [components_eq, h, hpieces, hsteps, componentsOf, if_neg (by decide)]
  by_cases hdot : first = ['.']
  · subst hdot
    exact .inr rfl
  · refine .inl ?_
    have hfirst : firstComponent first = innerComponent first := by simp [firstComponent, hdot]
    rw [hfirst, List.filterMap_cons]
    cases innerComponent first <;> rfl

/-- A relative path leads up exactly if its text does below another path. -/
theorem parent_mem_components_iff {text : String} (h : IsRelative text) :
    .parent ∈ (Path.mk text).components ↔ .parent ∈ steps text := by
  rcases components_eq_steps_or h with hcomponents | hcomponents
  · rw [hcomponents]
  · -- a leading dot is a component of its own, but not the one that leads up
    simp [hcomponents]

/-- What a relative path with a name for its only component adds below another path. -/
theorem steps_of_components_eq {text name : String}
    (h : (Path.mk text).components = [.name name]) :
    IsRelative text ∧ steps text = [.name name] := by
  cases habsolute : (Path.mk text).isAbsolute with
  | true =>
      rw [components_eq, habsolute] at h
      simp [componentsOf] at h
  | false =>
      refine ⟨habsolute, ?_⟩
      rcases components_eq_steps_or habsolute with hcomponents | hcomponents
      · rw [← hcomponents, h]
      · rw [h] at hcomponents
        cases hcomponents

/-- A stretch in front stands for a component, unless there is nothing in it. -/
theorem exists_firstComponent {piece : List Char} (h : piece ≠ []) :
    ∃ component, firstComponent piece = some component := by
  rw [firstComponent]
  split
  · exact ⟨_, rfl⟩
  · rename_i hdot
    rw [innerComponent, if_neg (by simp [h, hdot])]
    split <;> exact ⟨_, rfl⟩

/-- A path with characters has components. -/
theorem components_ne_nil {path : Path} (h : path.text ≠ "") : path.components ≠ [] := by
  cases habsolute : path.isAbsolute with
  | true =>
      rw [components_eq, habsolute]
      exact List.cons_ne_nil _ _
  | false =>
      obtain ⟨c, tail, hlist⟩ := List.exists_cons_of_ne_nil
        (show path.text.toList ≠ [] from fun hnil => h (String.toList_inj.1 hnil))
      have hslash : (c == '/') = false := by
        rw [isAbsolute, hlist] at habsolute
        exact habsolute
      -- the first character stands in the first piece, so this piece is not empty
      have hfirst : ∃ piece rest, path.pieces = (c :: piece) :: rest := by
        rw [pieces, hlist, splitAtChar, hslash]
        cases splitAtChar '/' tail with
        | nil => exact ⟨[], [], rfl⟩
        | cons piece rest => exact ⟨piece, rest, rfl⟩
      obtain ⟨piece, rest, hpieces⟩ := hfirst
      obtain ⟨component, hcomponent⟩ := exists_firstComponent (List.cons_ne_nil c piece)
      rw [components_eq, habsolute, hpieces, componentsOf, if_neg (by decide), hcomponent]
      exact List.cons_ne_nil _ _

/-! ## Going below a path -/

theorem isAbsolute_append {base : String} (hbase : base ≠ "") (text : String) :
    (Path.mk (base ++ text)).isAbsolute = (Path.mk base).isAbsolute := by
  obtain ⟨c, tail, hlist⟩ := List.exists_cons_of_ne_nil
    (show base.toList ≠ [] from fun h => hbase (String.toList_inj.1 h))
  simp only [isAbsolute, String.toList_append, hlist, List.cons_append, List.head?_cons]

theorem exists_text_join (base path : Path) :
    ∃ front, (base.join path).text = front ++ path.text := by
  rw [join]
  split
  · exact ⟨"", by simp⟩
  · split
    · exact ⟨base.text, rfl⟩
    · exact ⟨base.text ++ "/", rfl⟩

/-- A text behind a slash at the end of a path adds its steps. -/
theorem components_append_of_slash {base : String} (text : String)
    (hslash : base.toList.getLast? = some '/') :
    (Path.mk (base ++ text)).components = (Path.mk base).components ++ steps text := by
  obtain ⟨front, hfront⟩ := List.getLast?_eq_some_iff.1 hslash
  have hbase : base ≠ "" := by
    intro hempty
    rw [hempty] at hslash
    cases hslash
  have hpieces : (Path.mk base).pieces = splitAtChar '/' front ++ [[]] := by
    rw [pieces, hfront, splitAtChar_append]
    rfl
  have hlonger : (Path.mk (base ++ text)).pieces =
      splitAtChar '/' front ++ splitAtChar '/' text.toList := by
    simp [pieces, hfront, splitAtChar_append]
  have hne := splitAtChar_ne_nil '/' front
  -- nothing stands between the slash and the end of the base
  have hlast : [[]].filterMap innerComponent = [] := by decide
  rw [components_eq, components_eq, isAbsolute_append hbase, hpieces, hlonger,
    componentsOf_append hne, componentsOf_append hne, hlast, List.append_nil, steps]

/-- A slash and a text behind a path add the steps of the text. -/
theorem components_append_slash {base : String} (hbase : base ≠ "") (text : String) :
    (Path.mk (base ++ "/" ++ text)).components = (Path.mk base).components ++ steps text := by
  have hlonger : (Path.mk (base ++ "/" ++ text)).pieces =
      (Path.mk base).pieces ++ splitAtChar '/' text.toList := by
    simp [pieces, splitAtChar_append]
  rw [components_eq, components_eq, String.append_assoc, isAbsolute_append hbase,
    ← String.append_assoc, hlonger, componentsOf_append (pieces_ne_nil _), steps]

/-- The text of a path below a path that is not empty. -/
theorem text_child {base : Path} {name : String} (hbase : base.text ≠ "")
    (hname : IsRelative name) :
    (base.child name).text =
      if base.text.toList.getLast? = some '/' then base.text ++ name
      else base.text ++ "/" ++ name := by
  rw [IsRelative] at hname
  rw [child, join, if_neg (by simp [hname])]
  by_cases hslash : base.text.toList.getLast? = some '/'
  · simp [hslash]
  · simp [hslash, hbase]

theorem text_child_ne {base : Path} {name : String} (hbase : base.text ≠ "")
    (hname : IsRelative name) : (base.child name).text ≠ "" := by
  rw [text_child hbase hname]
  split <;> simp [hbase]

/-- **A relative name below a path adds its steps to the components of the path.** -/
theorem components_child {base : Path} {name : String} (hbase : base.text ≠ "")
    (hname : IsRelative name) :
    (base.child name).components = base.components ++ steps name := by
  have hchild : base.child name = ⟨(base.child name).text⟩ := rfl
  rw [hchild, text_child hbase hname]
  split
  · rename_i hslash
    exact components_append_of_slash name hslash
  · exact components_append_slash hbase name

/-! ## Places for artifacts -/

theorem fault?_eq_none_iff {path : Path} :
    path.fault? = none ↔
      path.text ≠ "" ∧ ∀ component ∈ path.components, component.fault? = none := by
  rw [fault?]
  by_cases htext : path.text = ""
  · simp [htext]
  · rw [if_neg htext, List.findSome?_eq_none_iff]
    exact ⟨fun h => ⟨htext, h⟩, And.right⟩

/-- A path of names is a place for an artifact. -/
theorem fault?_eq_none {path : Path} (htext : path.text ≠ "")
    (hnames : ∀ component ∈ path.components, ∃ name, component = .name name) :
    path.fault? = none := by
  refine fault?_eq_none_iff.2 ⟨htext, fun component hcomponent => ?_⟩
  obtain ⟨name, rfl⟩ := hnames component hcomponent
  rfl

/-- A place for an artifact does not begin at the root. -/
theorem isAbsolute_of_fault?_eq_none {path : Path} (h : path.fault? = none) :
    path.isAbsolute = false := by
  rw [← Bool.not_eq_true]
  intro habsolute
  have hroot : .root ∈ path.components := by
    rw [components_eq, habsolute]
    exact List.mem_cons_self
  cases (fault?_eq_none_iff.1 h).2 _ hroot

theorem isAbsolute_iff {path : Path} :
    path.isAbsolute = true ↔ path.text.toList.head? = some '/' := beq_iff_eq

theorem text_ne_of_mem_components {path : Path} {component : Component}
    (h : component ∈ path.components) : path.text ≠ "" := by
  intro hempty
  obtain rfl : path = ⟨""⟩ := by cases path; cases hempty; rfl
  cases h

/-- Only a path that begins at the root has the root in it. -/
theorem root_mem_components_iff {path : Path} :
    .root ∈ path.components ↔ path.isAbsolute = true := by
  constructor
  · intro hroot
    by_contra habsolute
    rw [Bool.not_eq_true] at habsolute
    -- a relative path is made of what its text adds below another one, and maybe a dot
    have hmem : .root ∈ steps path.text := by
      rcases components_eq_steps_or habsolute with hcomponents | hcomponents
      · exact hcomponents ▸ hroot
      · rw [hcomponents] at hroot
        exact (List.mem_cons.1 hroot).resolve_left nofun
    rcases parent_or_name_of_mem_steps hmem with hparent | ⟨_, hname⟩
    · cases hparent
    · cases hname
  · intro habsolute
    rw [components_eq, habsolute]
    exact List.mem_cons_self

/-- A path that begins at the root is refused for it. -/
theorem fault?_of_isAbsolute {path : Path} (h : path.isAbsolute = true) :
    path.fault? = some .absolute := by
  have hroot := root_mem_components_iff.2 h
  rw [fault?, if_neg (text_ne_of_mem_components hroot), components_eq, h]
  rfl

/-- A place for an artifact never leads up. -/
theorem parent_not_mem_of_fault?_eq_none {path : Path} (h : path.fault? = none) :
    .parent ∉ path.components := by
  intro hparent
  cases (fault?_eq_none_iff.1 h).2 _ hparent

/-- A relative path that leads up anywhere is refused for it. -/
theorem fault?_of_parent_mem {path : Path} (h : path.isAbsolute = false)
    (hparent : .parent ∈ path.components) : path.fault? = some .escapes := by
  rw [fault?, if_neg (text_ne_of_mem_components hparent)]
  cases hfault : path.components.findSome? Component.fault? with
  | none => cases List.findSome?_eq_none_iff.1 hfault .parent hparent
  | some fault =>
      obtain ⟨component, hmem, hcomponent⟩ := List.exists_of_findSome?_eq_some hfault
      cases component with
      | root =>
          rw [root_mem_components_iff, h] at hmem
          cases hmem
      | parent => exact hcomponent.symm
      | _ => cases hcomponent

/-- **The places for artifacts** are the paths with characters that neither begin at the root nor
lead up. -/
theorem fault?_eq_none_iff_relative {path : Path} :
    path.fault? = none ↔
      path.text ≠ "" ∧ path.isAbsolute = false ∧ .parent ∉ path.components := by
  constructor
  · intro h
    exact ⟨(fault?_eq_none_iff.1 h).1, isAbsolute_of_fault?_eq_none h,
      parent_not_mem_of_fault?_eq_none h⟩
  · rintro ⟨htext, hrelative, hparent⟩
    refine fault?_eq_none_iff.2 ⟨htext, fun component hcomponent => ?_⟩
    cases component with
    | root =>
        rw [root_mem_components_iff, hrelative] at hcomponent
        cases hcomponent
    | parent => exact absurd hcomponent hparent
    | _ => rfl

/-- The names in a path. -/
def names (path : Path) : List String := path.components.filterMap Component.name?

/-- Below another path a place for an artifact adds its names. -/
theorem steps_of_fault?_eq_none {path : Path} (h : path.fault? = none) :
    steps path.text = path.names.map .name := by
  have hrelative := isAbsolute_of_fault?_eq_none h
  obtain ⟨names, hnames⟩ := exists_names_of_parent_not_mem
    (mt (parent_mem_components_iff hrelative).2 (parent_not_mem_of_fault?_eq_none h))
  have hsame : path.names = names := by
    rw [Path.names]
    rcases components_eq_steps_or hrelative with hcomponents | hcomponents
    · rw [hcomponents, hnames, Component.filterMap_name?_map]
    · rw [hcomponents, hnames]
      exact Component.filterMap_name?_map names
  rw [hsame, hnames]

/-- A place for an artifact consists of names, and maybe a dot in front of them. -/
theorem components_of_fault?_eq_none {path : Path} (h : path.fault? = none) :
    path.components = path.names.map .name ∨
      path.components = .current :: path.names.map .name := by
  rw [← steps_of_fault?_eq_none h]
  exact components_eq_steps_or (isAbsolute_of_fault?_eq_none h)

end Path

end VoiceSkill
