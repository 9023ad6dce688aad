import VoiceSkill.Proofs.Assembly.Configurations
import VoiceSkill.Proofs.Assembly.Whole
import VoiceSkill.Proofs.Schema
import VoiceSkill.Proofs.Utterance.Compile

/-!
# What is reported about placeholders without a slot

A placeholder that stands for no slot becomes a literal that is marked as the user's, and is
reported. The reports of an assembly and the marked literals in the assembled documents are the same
things in the same order (`unresolved_reported_once`): none is missing, none comes twice, and
nothing else is reported as a placeholder without a slot.
-/

namespace VoiceSkill

/-! ## Marked literals -/

/-- The text of a token that is marked as the user's without referring to a slot. -/
def Document.markedLiteral? (token : Document) : Option String :=
  match token.get? "meta", token.get? "userDefined" with
  | none, some (.bool true) => token.textAt? "text"
  | _, _ => none

/-- The texts of the marked literals in the samples of an intent, from front to back. -/
def Document.markedLiterals (samples : Document) : List String :=
  samples.tokens.filterMap markedLiteral?

/-- The text of a token that is marked as the user's without referring to a slot. -/
def Token.markedLiteral? {ι : Type} : Token ι → Option String
  | literal text _ true => some text
  | _ => none

/-- The texts of the marked literals in a document, from front to back. -/
def SchemaDocument.markedLiterals {ι : Type} (document : SchemaDocument ι) : List String :=
  document.tokens.filterMap Token.markedLiteral?

theorem Token.markedLiteral?_document (token : Token Uuid) :
    token.document.markedLiteral? = token.markedLiteral? := by
  cases token with
  | literal text id userDefined =>
      cases userDefined <;>
        simp [Token.document, Document.markedLiteral?, Document.get?_record, Document.text?,
          Token.markedLiteral?]
  | slotRef entityType slotName text id userDefined =>
      simp [Token.document, Document.markedLiteral?, Document.get?_record, Token.markedLiteral?]

theorem Token.markedLiteral?_map {ι κ : Type} (f : ι → κ) (token : Token ι) :
    (token.map f).markedLiteral? = token.markedLiteral? := by
  cases token with
  | literal text id userDefined => cases userDefined <;> rfl
  | slotRef => rfl

namespace SchemaDocument

theorem markedLiterals_toDocument (document : SchemaDocument Uuid) :
    document.toDocument.markedLiterals = document.markedLiterals := by
  rw [Document.markedLiterals, tokens_toDocument, List.filterMap_map]
  exact List.filterMap_congr fun token _ => token.markedLiteral?_document

theorem markedLiterals_map {ι κ : Type} (f : ι → κ) (document : SchemaDocument ι) :
    (document.map f).markedLiterals = document.markedLiterals := by
  rw [markedLiterals, tokens_map, List.filterMap_map]
  exact List.filterMap_congr fun token _ => token.markedLiteral?_map f

end SchemaDocument

/-! ## Reports -/

/-- Whether an event says that a placeholder has no slot. -/
def Event.isUnresolved (event : Event) : Bool :=
  event.message == "placeholder has no matching slot"

/-- What has to be reported about the literals in the document of a file. -/
def SchemaFile.unresolvedEvents (warn : Bool) (literals : List String) : SchemaFile → List Event
  | samples name => literals.map fun text =>
    .unresolvedPlaceholder name (withoutFirst '\x7d' (withoutFirst '\x7b' text)) warn
  | _ => []

/-- All reports about the literals of a document are made at the level that is asked for. -/
theorem SchemaFile.level_of_mem_unresolvedEvents {warn : Bool} {literals : List String}
    {file : SchemaFile} {event : Event} (h : event ∈ file.unresolvedEvents warn literals) :
    event.level = if warn then .warn else .debug := by
  cases file with
  | samples name =>
      obtain ⟨text, _, rfl⟩ := List.mem_map.1 h
      rfl
  | _ => cases h

theorem filter_isUnresolved_eq_nil {events : List Event}
    (h : ∀ event ∈ events, event.isUnresolved = false) : events.filter Event.isUnresolved = [] :=
  List.filter_eq_nil_iff.2 fun event hevent => by simp [h event hevent]

/-- A segment becomes a marked literal exactly if it is reported, under the name that is left of its
text. -/
theorem Resolver.unresolved?_eq_map (resolver : Resolver) (segment : String) :
    resolver.unresolved? segment = (resolver.token segment).markedLiteral?.map fun text =>
      withoutFirst '\x7d' (withoutFirst '\x7b' text) := by
  cases hname : placeholderName? segment with
  | none => rw [unresolved?, token, hname]; rfl
  | some name =>
      obtain ⟨_, _, rfl⟩ := placeholderName?_eq_some_iff.1 hname
      rw [resolver.token_of_placeholderName? hname, unresolved?, hname]
      cases hslot : resolver.slot? (withoutFirst '\x7d' (withoutFirst '\x7b' segment)) with
      | none => simp [hslot, Token.markedLiteral?]
      | some slot => simp [hslot, Token.markedLiteral?]

variable {config : BuildConfig} {environment : String}

/-- Compiling a sample reports its marked literals. -/
theorem sampleEvents_eq (config : BuildConfig) (intent : Intent) (sample : String) :
    sampleEvents config intent sample =
      ((compileSample config intent sample).tokens.filterMap Token.markedLiteral?).map fun text =>
        .unresolvedPlaceholder intent.name (withoutFirst '\x7d' (withoutFirst '\x7b' text))
          config.warnUnresolved := by
  have hsegments : (sampleSegments sample).filterMap
      (intent.resolver config.platform).unresolved? =
      ((compileSample config intent sample).tokens.filterMap Token.markedLiteral?).map fun text =>
        withoutFirst '\x7d' (withoutFirst '\x7b' text) := by
    rw [compileSample, Utterance.ofTokens, List.filterMap_map, List.map_filterMap]
    exact List.filterMap_congr fun segment _ => Resolver.unresolved?_eq_map _ segment
  rw [sampleEvents, hsegments, List.map_map]
  rfl

/-- Compiling an intent reports the marked literals of its samples. -/
theorem filter_intentEvents (config : BuildConfig) (intent : Intent) (samples : List String) :
    (intentEvents config intent samples).filter Event.isUnresolved =
      (SchemaFile.samples intent.name).unresolvedEvents config.warnUnresolved
        (SchemaDocument.samples (compileSamples config intent samples)).markedLiterals := by
  have hall : ((mergeSamples intent.name samples).flatMap (sampleEvents config intent)).filter
      Event.isUnresolved = (mergeSamples intent.name samples).flatMap
        (sampleEvents config intent) := by
    rw [List.filter_eq_self]
    intro event hevent
    obtain ⟨sample, _, hevent⟩ := List.mem_flatMap.1 hevent
    obtain ⟨name, _, rfl⟩ := List.mem_map.1 hevent
    rfl
  have hcompiling : Event.isUnresolved (.compilingSamples intent.name
      (mergeSamples intent.name samples).length) = false := rfl
  rw [intentEvents, List.filter_cons_of_neg (by simp [hcompiling]), hall,
    SchemaFile.unresolvedEvents, SchemaDocument.markedLiterals, SchemaDocument.tokens,
    compileSamples, List.flatMap_map, List.filterMap_flatMap, List.map_flatMap]
  exact List.flatMap_congr fun sample _ => sampleEvents_eq config intent sample

/-! ## Steps -/

namespace Step

/-- What a step reports. -/
def event? {ι : Type} : Step ι → Option Event
  | note event => some event
  | place _ _ => none

theorem filterMap_event?_map {ι κ : Type} (f : ι → κ) (steps : List (Step ι)) :
    (steps.map (map f)).filterMap event? = steps.filterMap event? := by
  rw [List.filterMap_map]
  exact List.filterMap_congr fun step _ => by cases step <;> rfl

theorem filterMap_event?_numberAll {ι : Type} (first : Nat) (steps : List (Step ι)) :
    (numberAll first steps).filterMap event? = steps.filterMap event? := by
  induction steps generalizing first with
  | nil => rfl
  | cons step rest ih =>
      cases step with
      | note event => exact congrArg (event :: ·) (ih (first + 0))
      | place path document => exact ih (first + document.ids.length)

theorem filterMap_event?_note {ι : Type} (events : List Event) :
    (events.map (note (ι := ι))).filterMap event? = events := by
  rw [List.filterMap_map]
  exact List.filterMap_some

/-- Steps that come to an end report their events. -/
theorem log_foldlM_run {steps : List (Step Uuid)} {set set' : ArtifactSet}
    (h : (steps.foldlM run set).result = .ok set') :
    (steps.foldlM run set).log = steps.filterMap event? := by
  induction steps generalizing set with
  | nil => rfl
  | cons step rest ih =>
      rw [List.foldlM_cons] at h ⊢
      obtain ⟨next, hnext, hrest⟩ := Logged.result_bind_eq_ok_iff.1 h
      rw [Logged.bind_of_ok hnext]
      cases step with
      | note event =>
          show [event] ++ (rest.foldlM run next).log = event :: rest.filterMap event?
          rw [ih hrest, List.singleton_append]
      | place path document =>
          have hlog : (run set (place path document)).log = [] := by cases path <;> rfl
          rw [hlog, ih hrest]
          rfl

end Step

/-! ## Environments -/

/-- Nothing is reported of entities as a placeholder. -/
theorem filter_slotSteps (slots : List (String × SlotValues)) :
    ((slots.flatMap fun slot => slotSteps config.layout environment slot.1 slot.2).filterMap
      Step.event?).filter Event.isUnresolved = [] := by
  refine filter_isUnresolved_eq_nil fun event hevent => ?_
  rw [List.filterMap_flatMap, List.mem_flatMap] at hevent
  obtain ⟨slot, _, hevent⟩ := hevent
  rw [slotSteps] at hevent
  split at hevent
  · obtain rfl := List.mem_singleton.1 hevent
    rfl
  · cases hevent

theorem filter_intentSteps (intent : Intent) (samples : List String) :
    ((intentSteps config environment intent samples).filterMap Step.event?).filter
        Event.isUnresolved =
      (intentFiles config intent samples).flatMap fun d =>
        d.1.unresolvedEvents config.warnUnresolved d.2.markedLiterals := by
  have hempty : (compileSamples config intent samples).isEmpty = true ↔
      mergeSamples intent.name samples = [] := by
    rw [List.isEmpty_iff, compileSamples, List.map_eq_nil_iff]
  rw [intentSteps, intentFiles, List.cons_append, List.filterMap_cons_none rfl,
    List.filterMap_append, Step.filterMap_event?_note, List.filter_append, filter_intentEvents,
    List.flatMap_cons]
  by_cases hsamples : mergeSamples intent.name samples = []
  · -- without samples there are no literals either
    rw [if_pos (hempty.2 hsamples), if_pos hsamples, compileSamples, hsamples]
    rfl
  · rw [if_neg (fun h => hsamples (hempty.1 h)), if_neg hsamples, List.flatMap_singleton]
    exact List.append_nil _

namespace Definition

variable {definition : Definition} {fresh : Nat → Uuid} {first : Nat}
  {invocations : List Invocation} {set set' : ArtifactSet}

/-- The steps of a schema report the marked literals of its plan. -/
theorem filter_schemaSteps (definition : Definition) (config : BuildConfig)
    (environment : String) :
    ((definition.schemaSteps config environment).filterMap Step.event?).filter
        Event.isUnresolved =
      (definition.schemaPlan config environment).flatMap fun d =>
        d.1.unresolvedEvents config.warnUnresolved d.2.markedLiterals := by
  have hslots : ((definition.entitySlots.flatMap entityFiles).flatMap fun d =>
      d.1.unresolvedEvents config.warnUnresolved d.2.markedLiterals) = [] := by
    rw [List.flatMap_assoc, List.flatMap_eq_nil_iff]
    intro slot _
    rfl
  have hshadowed : (definition.shadowEvents config.platform (some environment)).filter
      Event.isUnresolved = [] := by
    refine filter_isUnresolved_eq_nil fun event hevent => ?_
    obtain ⟨intent, _, rfl⟩ := List.mem_map.1 hevent
    rfl
  have hintents : (((definition.intentsFor config.platform (some environment)).flatMap fun intent =>
      intentSteps config environment intent (definition.samplesOf intent.name)).filterMap
        Step.event?).filter Event.isUnresolved =
      ((definition.intentsFor config.platform (some environment)).flatMap fun intent =>
        intentFiles config intent (definition.samplesOf intent.name)).flatMap fun d =>
          d.1.unresolvedEvents config.warnUnresolved d.2.markedLiterals := by
    rw [List.filterMap_flatMap, List.filter_flatMap, List.flatMap_assoc]
    exact List.flatMap_congr fun intent _ => filter_intentSteps intent _
  rw [schemaSteps, schemaPlan, List.filterMap_append, List.filterMap_append, List.filterMap_append,
    Step.filterMap_event?_note, List.filter_append, List.filter_append, List.filter_append,
    filter_slotSteps, hshadowed, hintents, List.flatMap_append, List.flatMap_append, hslots]
  rfl

/-- So does the assembly of an environment. -/
theorem filter_log_assembleEnvironment
    (h : (definition.assembleEnvironment config fresh first environment).result = .ok set) :
    (definition.assembleEnvironment config fresh first environment).log.filter
        Event.isUnresolved =
      (definition.schemaPlan config environment).flatMap fun d =>
        d.1.unresolvedEvents config.warnUnresolved d.2.markedLiterals := by
  obtain ⟨part, hsteps, _⟩ := Logged.result_bind_eq_ok_iff.1 h
  rw [assembleEnvironment, Logged.bind_of_ok hsteps, List.filter_append, Step.log_foldlM_run hsteps,
    Step.filterMap_event?_map, Step.filterMap_event?_numberAll, filter_schemaSteps]
  exact List.append_nil _

/-! ## Runs -/

/-- The assembly of an environment reports what it has to, and then the others report. -/
theorem log_assembleEach_cons {invocation : Invocation} {part next : ArtifactSet}
    (hpart : (definition.assembleEnvironment config fresh first invocation.environment).result =
      .ok part) (hnext : (part.artifacts.map .ok).foldlM ArtifactSet.add set = .ok next) :
    (definition.assembleEach config fresh first set (invocation :: invocations)).log =
      (definition.assembleEnvironment config fresh first invocation.environment).log ++
        (definition.assembleEach config fresh
          (first + definition.idCount config invocation.environment) next invocations).log := by
  have hextend : set.extend part = (next, none) := by
    rw [ArtifactSet.foldlM_add_map_ok] at hnext
    rw [ArtifactSet.extend]
    rcases hpush : set.pushAll part.artifacts with ⟨set', _ | e⟩
    · rw [hpush] at hnext
      rw [Except.ok.inj hnext]
    · rw [hpush] at hnext
      cases hnext
  rw [assembleEach, Logged.bind_of_ok hpart, hextend]

theorem filter_log_assembleEach
    (h : (definition.assembleEach config fresh first set invocations).result = .ok set') :
    (definition.assembleEach config fresh first set invocations).log.filter Event.isUnresolved =
      (definition.wholePlan config invocations).flatMap fun d =>
        d.1.file.unresolvedEvents config.warnUnresolved d.2.markedLiterals := by
  induction invocations generalizing first set with
  | nil => rfl
  | cons invocation rest ih =>
      obtain ⟨part, next, hpart, hnext, hrest⟩ := assembleEach_cons_eq_ok_iff.1 h
      rw [log_assembleEach_cons hpart hnext, List.filter_append, ih hrest,
        filter_log_assembleEnvironment hpart, wholePlan_cons, List.flatMap_append,
        List.flatMap_map]

/-- **Placeholders without a slot are reported once each.** Whatever is assembled, the reports are
one for each marked literal in the samples of the artifacts, in the order of the artifacts, of their
utterances and of the tokens in them. A report names the intent and the text of the literal without
its first opening and its first closing brace. The reports are warnings if the configuration asks
for that, and are there for debugging otherwise. -/
theorem unresolved_reported_once (definition : Definition) (config : BuildConfig)
    (fresh : Nat → Uuid) {set : ArtifactSet}
    (h : (definition.assemble config fresh).result = .ok set) :
    List.Forall₂ (fun planned artifact => planned.path config.layout = .ok artifact.path)
      (definition.wholeFiles config) set.artifacts ∧
    (definition.assemble config fresh).log.filter
        (fun event => event.message == "placeholder has no matching slot") =
      (((definition.wholeFiles config).zip set.artifacts).flatMap fun p =>
        p.1.file.unresolvedEvents config.warnUnresolved p.2.document.markedLiterals) ∧
    ∀ event ∈ (definition.assemble config fresh).log,
      event.message = "placeholder has no matching slot" →
      event.level = if config.warnUnresolved then .warn else .debug := by
  have hreports : (definition.assemble config fresh).log.filter Event.isUnresolved =
      ((definition.wholeFiles config).zip set.artifacts).flatMap fun p =>
        p.1.file.unresolvedEvents config.warnUnresolved p.2.document.markedLiterals := by
    have hrun := assemble_eq_ok_iff.1 h
    calc (definition.assemble config fresh).log.filter Event.isUnresolved
        = (definition.wholePlan config definition.invocations).flatMap fun d =>
            d.1.file.unresolvedEvents config.warnUnresolved d.2.markedLiterals := by
          -- what is reported at the end is nothing about placeholders
          rw [assemble, Logged.bind_of_ok hrun, List.filter_append, filter_log_assembleEach hrun]
          exact List.append_nil _
      _ = (definition.wholeDocuments config fresh 0 definition.invocations).flatMap fun d =>
            d.1.file.unresolvedEvents config.warnUnresolved d.2.toDocument.markedLiterals := by
          rw [← definition.map_anonymous_wholeDocuments config fresh 0, List.flatMap_map]
          simp only [SchemaDocument.markedLiterals_map, SchemaDocument.markedLiterals_toDocument]
      _ = _ := by
          rw [← map_fst_wholeDocuments definition config fresh 0]
          exact (flatMap_zip_artifacts (forall₂_artifacts_of_assemble h) fun planned document =>
            planned.file.unresolvedEvents config.warnUnresolved document.markedLiterals).symm
  refine ⟨forall₂_wholeFiles h, hreports, ?_⟩
  intro event hevent hmessage
  have hmem : event ∈ (definition.assemble config fresh).log.filter Event.isUnresolved :=
    List.mem_filter.2 ⟨hevent, beq_iff_eq.2 hmessage⟩
  rw [hreports] at hmem
  obtain ⟨p, _, hp⟩ := List.mem_flatMap.1 hmem
  exact SchemaFile.level_of_mem_unresolvedEvents hp

/-- Trips of two environments to a city on a day, of which only the city is a slot. -/
def dayTrips : Definition :=
  { empty with
    invocations := [⟨"alpha"⟩, ⟨"beta"⟩]
    intents := [⟨"Trip", [], [], [⟨"city", "City", []⟩]⟩]
    utterances := .ofList [("Trip",
      ["\x7bcity\x7d on \x7bday\x7d", "\x7bday\x7d or \x7bday\x7d"])] }

/-- In each of the two environments the day is reported three times, and the city never. -/
theorem unresolved_reported_once_dayTrips :
    ∃ set, (dayTrips.assemble flatGerman (Uuid.generated 0)).result = .ok set ∧
      (dayTrips.assemble flatGerman (Uuid.generated 0)).log.filter
          (fun event => event.message == "placeholder has no matching slot") =
        (((dayTrips.wholeFiles flatGerman).zip set.artifacts).flatMap fun p =>
          p.1.file.unresolvedEvents true p.2.document.markedLiterals) ∧
      (((dayTrips.wholeFiles flatGerman).zip set.artifacts).flatMap fun p =>
          p.1.file.unresolvedEvents true p.2.document.markedLiterals) =
        List.replicate 6 (.unresolvedPlaceholder "Trip" "day" true) := by
  have hok : (dayTrips.assemble flatGerman (Uuid.generated 0)).result.isOk = true := by
    decide +kernel
  obtain ⟨set, hset⟩ := exists_ok_of_isOk hok
  obtain ⟨_, hreports, _⟩ := unresolved_reported_once dayTrips flatGerman (Uuid.generated 0) hset
  refine ⟨set, hset, hreports, hreports.symm.trans ?_⟩
  decide +kernel

end Definition

end VoiceSkill
