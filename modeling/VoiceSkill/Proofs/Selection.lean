import VoiceSkill.Selection
import VoiceSkill.Proofs.KeepFirst

/-!
# The choice of intents

The intents that are built are the first of their names among those that apply, wherever these stand
among declarations that do not (`intentsFor_eq_standing`). One pass over the declarations finds
them, with nothing in hand but the names it has come across, and reports the others
(`Pass.isOver_foldl`).
-/

namespace VoiceSkill

variable {intents : List Intent} {intent : Intent} {platform : String} {environment : Option String}

/-! ## Declarations that apply -/

theorem appliesTo_iff {tags : List String} {tag : String} :
    appliesTo tags tag = true ↔ tags = [] ∨ tag ∈ tags := by
  rw [appliesTo, Bool.or_eq_true, List.isEmpty_iff, List.contains_iff_mem]

namespace Intent

/-- What it takes to apply: the platform and, where one is given, the environment are named, or none
is named at all. -/
def AppliesAt (intent : Intent) (platform : String) (environment : Option String) : Prop :=
  (intent.platforms = [] ∨ platform ∈ intent.platforms) ∧
    ∀ e ∈ environment, intent.environments = [] ∨ e ∈ intent.environments

theorem isFor_iff : intent.isFor platform environment = true ↔
    intent.AppliesAt platform environment := by
  rw [isFor, Bool.and_eq_true, appliesToPlatform, appliesTo_iff, Option.all_eq_true, AppliesAt]
  simp only [appliesToEnvironment, appliesTo_iff, Option.mem_def]

instance : Decidable (intent.AppliesAt platform environment) :=
  decidable_of_iff _ isFor_iff

/-- The two questions that a pass asks of a declaration. -/
theorem appliesAt_iff_all : intent.AppliesAt platform environment ↔
    intent.appliesToPlatform platform = true ∧
      environment.all intent.appliesToEnvironment = true := by
  rw [← isFor_iff, isFor, Bool.and_eq_true]

end Intent

/-- One more declaration is one more that applies, or none. -/
theorem filter_isFor_concat (platform : String) (environment : Option String)
    (intents : List Intent) (intent : Intent) :
    ((intents ++ [intent]).filter fun intent => intent.isFor platform environment) =
      (intents.filter fun intent => intent.isFor platform environment) ++
        if intent.AppliesAt platform environment then [intent] else [] := by
  rw [List.filter_append, List.filter_cons, List.filter_nil]
  simp only [Intent.isFor_iff]

/-- The names of the declarations that apply. -/
def namesFor (platform : String) (environment : Option String) (intents : List Intent) :
    List String :=
  (intents.filter fun intent => intent.isFor platform environment).map Intent.name

theorem mem_namesFor_iff {name : String} :
    name ∈ namesFor platform environment intents ↔
      ∃ intent ∈ intents, intent.AppliesAt platform environment ∧ intent.name = name := by
  simp only [namesFor, List.mem_map, List.mem_filter, Intent.isFor_iff, and_assoc]

theorem namesFor_concat (platform : String) (environment : Option String) (intents : List Intent)
    (intent : Intent) : namesFor platform environment (intents ++ [intent]) =
      namesFor platform environment intents ++
        if intent.AppliesAt platform environment then [intent.name] else [] := by
  rw [namesFor, filter_isFor_concat, List.map_append, ← namesFor]
  split <;> rfl

/-! ## The declarations that stand -/

/-- The declarations that stand for their names, by position: they apply, and none of those before
them that apply has their name. -/
def standing (platform : String) (environment : Option String) (intents : List Intent) :
    List Intent :=
  (intents.zipIdx.filter fun place =>
    place.1.AppliesAt platform environment ∧ ∀ earlier ∈ intents.take place.2,
      earlier.AppliesAt platform environment → earlier.name ≠ place.1.name).map Prod.fst

theorem standing_concat (platform : String) (environment : Option String) (intents : List Intent)
    (intent : Intent) :
    standing platform environment (intents ++ [intent]) =
      standing platform environment intents ++
        if intent.AppliesAt platform environment ∧
          intent.name ∉ namesFor platform environment intents then [intent] else [] := by
  have hnew : intent.name ∉ namesFor platform environment intents ↔
      ∀ earlier ∈ intents, earlier.AppliesAt platform environment →
        earlier.name ≠ intent.name := by
    rw [mem_namesFor_iff]
    push Not
    rfl
  rw [standing, filter_before_concat fun (intent : Intent) (before : List Intent) =>
      intent.AppliesAt platform environment ∧ ∀ earlier ∈ before,
        earlier.AppliesAt platform environment → earlier.name ≠ intent.name, ← standing]
  simp only [hnew, decide_eq_true_eq]

theorem keepFirst_filter_concat (platform : String) (environment : Option String)
    (intents : List Intent) (intent : Intent) :
    keepFirst Intent.name
        ((intents ++ [intent]).filter fun intent => intent.isFor platform environment) =
      keepFirst Intent.name (intents.filter fun intent => intent.isFor platform environment) ++
        if intent.AppliesAt platform environment ∧
          intent.name ∉ namesFor platform environment intents then [intent] else [] := by
  rw [filter_isFor_concat]
  by_cases happlies : intent.AppliesAt platform environment
  · rw [if_pos happlies, keepFirst_concat, ← namesFor]
    by_cases hname : intent.name ∈ namesFor platform environment intents
    · simp [hname]
    · simp [hname, happlies]
  · simp [happlies]

theorem keepFirst_filter_isFor (platform : String) (environment : Option String)
    (intents : List Intent) :
    keepFirst Intent.name (intents.filter fun intent => intent.isFor platform environment) =
      standing platform environment intents := by
  induction intents using List.reverseRecOn with
  | nil => rfl
  | append_singleton intents intent ih => rw [keepFirst_filter_concat, standing_concat, ih]

theorem repeated_filter_concat (platform : String) (environment : Option String)
    (intents : List Intent) (intent : Intent) :
    repeated Intent.name []
        ((intents ++ [intent]).filter fun intent => intent.isFor platform environment) =
      repeated Intent.name [] (intents.filter fun intent => intent.isFor platform environment) ++
        if intent.AppliesAt platform environment ∧
          intent.name ∈ namesFor platform environment intents then [intent] else [] := by
  rw [filter_isFor_concat]
  by_cases happlies : intent.AppliesAt platform environment
  · rw [if_pos happlies, repeated_concat, ← namesFor]
    simp [happlies]
  · simp [happlies]

/-! ## One pass -/

/-- What a pass over the declarations has in hand: the names it has come across, the declarations it
has chosen, and what it has reported. -/
structure Pass where
  seen : List String := []
  chosen : List Intent := []
  log : List Event := []

namespace Pass

variable {pass : Pass}

/-- A declaration is asked for the platform and for the environment before its name is looked at. -/
def visit (platform : String) (environment : Option String) (pass : Pass) (intent : Intent) :
    Pass :=
  if ¬ intent.appliesToPlatform platform then pass
  else if ¬ environment.all intent.appliesToEnvironment then pass
  else if pass.seen.contains intent.name then
    { pass with log := pass.log ++ [.duplicateIntent intent.name] }
  else { pass with seen := intent.name :: pass.seen, chosen := pass.chosen ++ [intent] }

theorem visit_of_not_appliesAt (h : ¬ intent.AppliesAt platform environment) :
    pass.visit platform environment intent = pass := by
  rw [Intent.appliesAt_iff_all, not_and_or] at h
  rw [visit]
  rcases h with hplatform | henvironment
  · rw [if_pos hplatform]
  · rw [if_pos henvironment, ite_self]

theorem visit_of_appliesAt (h : intent.AppliesAt platform environment) :
    pass.visit platform environment intent =
      if intent.name ∈ pass.seen then
        { pass with log := pass.log ++ [.duplicateIntent intent.name] }
      else { pass with seen := intent.name :: pass.seen, chosen := pass.chosen ++ [intent] } := by
  obtain ⟨hplatform, henvironment⟩ := Intent.appliesAt_iff_all.1 h
  rw [visit, if_neg (not_not.2 hplatform), if_neg (not_not.2 henvironment)]
  simp only [List.contains_iff_mem]

/-- What holds of a pass behind the declarations it has visited. -/
structure IsOver (platform : String) (environment : Option String) (intents : List Intent)
    (pass : Pass) : Prop where
  mem_seen_iff : ∀ name, name ∈ pass.seen ↔ name ∈ namesFor platform environment intents
  chosen_eq : pass.chosen = standing platform environment intents
  log_eq : pass.log =
    (repeated Intent.name [] (intents.filter fun intent => intent.isFor platform environment)).map
      fun intent => .duplicateIntent intent.name

/-- **The next declaration.** It counts if it applies, and stands if its name has not been seen. -/
theorem IsOver.visit (h : pass.IsOver platform environment intents) (intent : Intent) :
    (pass.visit platform environment intent).IsOver platform environment (intents ++ [intent]) := by
  obtain ⟨hseen, hchosen, hlog⟩ := h
  by_cases happlies : intent.AppliesAt platform environment
  · rw [visit_of_appliesAt happlies]
    by_cases hname : intent.name ∈ pass.seen
    · have hold := (hseen _).1 hname
      rw [if_pos hname]
      refine ⟨fun name => ?_, ?_, ?_⟩
      · rw [hseen, namesFor_concat, if_pos happlies, List.mem_append, List.mem_singleton]
        exact ⟨Or.inl, Or.rec id fun hsame => hsame ▸ hold⟩
      · rw [standing_concat, if_neg fun hstands => hstands.2 hold, List.append_nil]
        exact hchosen
      · rw [repeated_filter_concat, if_pos ⟨happlies, hold⟩, List.map_append]
        exact congrArg (· ++ _) hlog
    · have hnew := mt (hseen _).2 hname
      rw [if_neg hname]
      refine ⟨fun name => ?_, ?_, ?_⟩
      · rw [List.mem_cons, hseen, namesFor_concat, if_pos happlies, List.mem_append,
          List.mem_singleton, or_comm]
      · rw [standing_concat, if_pos ⟨happlies, hnew⟩]
        exact congrArg (· ++ _) hchosen
      · rw [repeated_filter_concat, if_neg fun hrepeated => hnew hrepeated.2, List.append_nil]
        exact hlog
  · rw [visit_of_not_appliesAt happlies]
    refine ⟨fun name => ?_, ?_, ?_⟩
    · rw [hseen, namesFor_concat, if_neg happlies, List.append_nil]
    · rw [standing_concat, if_neg fun hstands => happlies hstands.1, List.append_nil]
      exact hchosen
    · rw [repeated_filter_concat, if_neg fun hrepeated => happlies hrepeated.1, List.append_nil]
      exact hlog

theorem isOver_foldl (platform : String) (environment : Option String) (intents : List Intent) :
    (intents.foldl (visit platform environment) {}).IsOver platform environment intents := by
  induction intents using List.reverseRecOn with
  | nil => exact ⟨fun _ => Iff.rfl, rfl, rfl⟩
  | append_singleton intents intent ih =>
      rw [List.foldl_append]
      exact ih.visit intent

end Pass

/-! ## The intents that are built -/

namespace Definition

variable {definition : Definition}

theorem intentsFor_eq_standing (definition : Definition) (platform : String)
    (environment : Option String) :
    definition.intentsFor platform environment = standing platform environment definition.intents :=
  keepFirst_filter_isFor platform environment definition.intents

/-- A declaration is built if it applies and stands behind none of its name that does. -/
theorem mem_intentsFor_iff :
    intent ∈ definition.intentsFor platform environment ↔
      ∃ before after, definition.intents = before ++ intent :: after ∧
        intent.AppliesAt platform environment ∧
        ∀ earlier ∈ before, earlier.AppliesAt platform environment →
          earlier.name ≠ intent.name := by
  rw [intentsFor, mem_keepFirst_iff, declaredIntents]
  constructor
  · rintro ⟨applying, rest, hintents, hfirst⟩
    obtain ⟨before, others, hsplit, rfl, hrest⟩ := List.filter_eq_append_iff.1 hintents
    obtain ⟨between, after, rfl, hbetween, happlies, _⟩ := List.filter_eq_cons_iff.1 hrest
    refine ⟨before ++ between, after, by rw [hsplit, List.append_assoc],
      Intent.isFor_iff.1 happlies, ?_⟩
    intro earlier hearlier hearlierApplies hname
    have hearlierFor := Intent.isFor_iff.2 hearlierApplies
    rcases List.mem_append.1 hearlier with hearlier | hearlier
    · exact hfirst (mem_namesFor_iff.2 ⟨earlier, hearlier, hearlierApplies, hname⟩)
    · exact hbetween earlier hearlier hearlierFor
  · rintro ⟨before, after, hintents, happlies, hfirst⟩
    refine ⟨before.filter fun intent => intent.isFor platform environment,
      after.filter fun intent => intent.isFor platform environment, ?_, ?_⟩
    · rw [hintents, List.filter_append, List.filter_cons, if_pos (Intent.isFor_iff.2 happlies)]
    · intro hmem
      obtain ⟨earlier, hearlier, hearlierApplies, hname⟩ := mem_namesFor_iff.1 hmem
      exact hfirst earlier hearlier hearlierApplies hname

/-- What does not apply has no part in the choice. -/
theorem intentsFor_congr {others : List Intent}
    (h : (others.filter fun intent => intent.isFor platform environment) =
      definition.intents.filter fun intent => intent.isFor platform environment) :
    { definition with intents := others }.intentsFor platform environment =
      definition.intentsFor platform environment :=
  congrArg (keepFirst Intent.name) h

/-- **The choice of intents.** The declarations that are built are those that apply and have none of
their name in front of them that applies. They are some of the declarations, in their order, and
each name that a declaration brings along where it applies is built once. Nothing depends on what
does not apply: with the same declarations that apply, the same ones are built. To find them, and
what is reported of the others, takes one pass that remembers names. -/
theorem intentsFor_choice (definition : Definition) (platform : String)
    (environment : Option String) :
    definition.intentsFor platform environment =
        standing platform environment definition.intents ∧
      (definition.intentsFor platform environment).Sublist definition.intents ∧
      ((definition.intentsFor platform environment).map Intent.name).Nodup ∧
      (∀ intent, intent ∈ definition.intentsFor platform environment ↔
        ∃ before after, definition.intents = before ++ intent :: after ∧
          intent.AppliesAt platform environment ∧
          ∀ earlier ∈ before, earlier.AppliesAt platform environment →
            earlier.name ≠ intent.name) ∧
      (∀ name, name ∈ (definition.intentsFor platform environment).map Intent.name ↔
        ∃ intent ∈ definition.intents,
          intent.AppliesAt platform environment ∧ intent.name = name) ∧
      (∀ others : List Intent,
        (others.filter fun intent => intent.AppliesAt platform environment) =
          (definition.intents.filter fun intent => intent.AppliesAt platform environment) →
        { definition with intents := others }.intentsFor platform environment =
          definition.intentsFor platform environment) ∧
      { definition with
          intents := definition.intents.filter fun intent =>
            intent.AppliesAt platform environment }.intentsFor platform environment =
        definition.intentsFor platform environment ∧
      (definition.intents.foldl (Pass.visit platform environment) {}).chosen =
        definition.intentsFor platform environment ∧
      (definition.intents.foldl (Pass.visit platform environment) {}).log =
        definition.shadowEvents platform environment := by
  have happlying (others : List Intent) :
      (others.filter fun intent => intent.AppliesAt platform environment) =
        others.filter fun intent => intent.isFor platform environment := by
    simp only [← Intent.isFor_iff, Bool.decide_eq_true]
  have hpass := Pass.isOver_foldl platform environment definition.intents
  refine ⟨definition.intentsFor_eq_standing platform environment,
    (keepFirst_sublist Intent.name _).trans List.filter_sublist, nodup_map_keepFirst Intent.name _,
    fun _ => mem_intentsFor_iff, ?names, ?others, ?deleted, ?chosen, hpass.log_eq⟩
  case names =>
    intro name
    rw [intentsFor, mem_map_keepFirst]
    exact mem_namesFor_iff
  case others =>
    intro others hsame
    rw [happlying, happlying] at hsame
    exact intentsFor_congr hsame
  case deleted =>
    refine intentsFor_congr ?_
    rw [happlying, List.filter_filter]
    simp only [Bool.and_self]
  case chosen => rw [hpass.chosen_eq, intentsFor_eq_standing]

/-- Four ways to declare a walk, with help in between. -/
def walks : Definition :=
  { empty with
    intents := [
      ⟨"Walk", ["alexa"], [], []⟩,
      ⟨"Walk", [], ["beta"], []⟩,
      ⟨"Walk", ["alexa", "dialogFlow"], ["alpha"], []⟩,
      .ofName "Help",
      .ofName "Walk"] }

/-- The third declaration of the walk stands in `alpha`, whether or not the first two are there. -/
theorem intentsFor_choice_walks :
    walks.intentsFor "dialogFlow" (some "alpha") =
      [⟨"Walk", ["alexa", "dialogFlow"], ["alpha"], []⟩, .ofName "Help"] ∧
    { walks with intents := walks.intents.drop 2 }.intentsFor "dialogFlow" (some "alpha") =
      walks.intentsFor "dialogFlow" (some "alpha") ∧
    walks.shadowEvents "dialogFlow" (some "alpha") = [.duplicateIntent "Walk"] := by
  obtain ⟨hstanding, _, _, _, _, hothers, _, _, hlog⟩ :=
    intentsFor_choice walks "dialogFlow" (some "alpha")
  refine ⟨?_, hothers _ (by decide +kernel), ?_⟩
  · rw [hstanding]
    decide +kernel
  · rw [← hlog]
    decide +kernel

end Definition

end VoiceSkill
