import VoiceSkill.Proofs.Assembly.Configurations
import VoiceSkill.Proofs.Assembly.Whole
import VoiceSkill.Proofs.Document.Identifiers
import VoiceSkill.Proofs.Schema
import VoiceSkill.Proofs.Uuid

/-!
# Where identifiers are and that they differ

Entities, intents and the tokens of samples have one identifier each, and nothing else in a schema
has any. An assembly deals out as many as there are such things, each of them once; so they all
differ if those that are dealt out do (`identifiers_dealt_out_once`).
-/

namespace VoiceSkill

/-- An identifier as a document. -/
def Uuid.document (id : Uuid) : Document := .string id.text

theorem Uuid.document_injective : Function.Injective Uuid.document :=
  fun _ _ h => Uuid.text_injective (Document.string.inj h)

open Document

/-! ## The identifiers of a document -/

theorem Token.identifiers_document (token : Token Uuid) :
    token.document.identifiers = [token.id.document] := by
  cases token with
  | literal text id userDefined =>
      exact identifiers_record_of_id (by simp [identifierKey, Uuid.document, Token.id]) (by simp)
        (by simp [identifierKey])
  | slotRef entityType slotName text id userDefined =>
      exact identifiers_record_of_id (by simp [identifierKey, Uuid.document, Token.id]) (by simp)
        (by simp [identifierKey])

theorem Token.get?_id_document (token : Token Uuid) :
    token.document.get? "id" = some token.id.document := by
  cases token <;> simp [Token.document, get?_record, Token.id, Uuid.document]

theorem identifiers_entityDocument (name : String) (id : Uuid) :
    (entityDocument name id).identifiers = [id.document] :=
  identifiers_record_of_id (by simp [identifierKey, Uuid.document]) (by simp)
    (by simp [identifierKey])

theorem identifiers_intentDocument (name : String) (parameters : List Parameter) (id : Uuid) :
    (intentDocument name parameters id).identifiers = [id.document] := by
  have hparameter (parameter : Parameter) : parameter.document.identifiers = [] :=
    identifiers_record_eq_nil (by simp [identifiersUnder, identifierKey])
  refine identifiers_record_of_id (by simp [identifierKey, Uuid.document]) (by simp) ?_
  -- what an intent answers and what leads to it are records of their own
  simp [identifiers_record_eq_nil, identifiersUnder, identifierKey, hparameter, natural]

theorem Utterance.identifiers_document (utterance : Utterance Uuid) :
    utterance.document.identifiers = utterance.ids.map Uuid.document := by
  have htokens : identifiersUnder "data" (.list (utterance.tokens.map Token.document)) =
      utterance.ids.map Uuid.document := by
    rw [identifiersUnder, if_neg (by decide), identifiers_list, List.flatMap_map, ids, List.map_map]
    simp only [Token.identifiers_document]
    exact List.map_eq_flatMap.symm
  rw [← htokens]
  exact identifiers_record_of_mem List.mem_cons_self (by simp)
    (by simp [identifiersUnder, identifierKey, natural])

/-- **A document has the identifiers that were dealt out to it, and no others.** -/
theorem SchemaDocument.identifiers_toDocument (document : SchemaDocument Uuid) :
    document.toDocument.identifiers = document.ids.map Uuid.document := by
  cases document with
  | entity name id => exact identifiers_entityDocument name id
  | intent name parameters id => exact identifiers_intentDocument name parameters id
  | samples utterances =>
      rw [toDocument, identifiers_list, List.flatMap_map, ids, List.map_flatMap]
      exact List.flatMap_congr fun utterance _ => utterance.identifiers_document
  | entries values =>
      rw [toDocument, entriesDocument, identifiers_list, List.flatMap_map]
      refine List.flatMap_eq_nil_iff.2 fun value _ => ?_
      exact identifiers_record_eq_nil (by simp [identifiersUnder, identifierKey, texts])
  | agent =>
      exact identifiers_record_eq_nil
        (by simp [identifiersUnder, identifierKey, identifiers_record_eq_nil])
  | package => exact identifiers_record_eq_nil (by simp [identifiersUnder, identifierKey])

/-! ## What is left without identifiers -/

theorem Token.withoutIdentifiers_document_map (f : Uuid → Uuid) (token : Token Uuid) :
    (token.map f).document.withoutIdentifiers = token.document.withoutIdentifiers := by
  cases token <;>
    simp [Token.map, Token.withId, Token.document, withoutIdentifiers_record, maskedUnder,
      identifierKey]

theorem Utterance.withoutIdentifiers_document_map (f : Uuid → Uuid) (utterance : Utterance Uuid) :
    (utterance.map f).document.withoutIdentifiers = utterance.document.withoutIdentifiers := by
  have htokens : (Document.list ((utterance.map f).tokens.map Token.document)).withoutIdentifiers =
      (Document.list (utterance.tokens.map Token.document)).withoutIdentifiers := by
    rw [withoutIdentifiers_list, withoutIdentifiers_list, map, List.map_map, List.map_map,
      List.map_map]
    congr 1
    exact List.map_congr_left fun token _ => token.withoutIdentifiers_document_map f
  rw [document, document, withoutIdentifiers_record, withoutIdentifiers_record, List.map_cons,
    List.map_cons, maskedUnder, maskedUnder, htokens]
  rfl

/-- Without its identifiers a document is the same whatever they are. -/
theorem SchemaDocument.withoutIdentifiers_toDocument_map (f : Uuid → Uuid)
    (document : SchemaDocument Uuid) :
    (document.map f).toDocument.withoutIdentifiers = document.toDocument.withoutIdentifiers := by
  cases document with
  | entity name id =>
      simp [map, toDocument, entityDocument, withoutIdentifiers_record, maskedUnder, identifierKey]
  | intent name parameters id =>
      simp [map, toDocument, intentDocument, withoutIdentifiers_record, maskedUnder, identifierKey]
  | samples utterances =>
      rw [map, toDocument, toDocument, withoutIdentifiers_list, withoutIdentifiers_list,
        List.map_map, List.map_map, List.map_map]
      congr 1
      exact List.map_congr_left fun utterance _ => utterance.withoutIdentifiers_document_map f
  | _ => rfl

/-- So documents that differ in their identifiers at most are the same without them. -/
theorem SchemaDocument.withoutIdentifiers_eq {document other : SchemaDocument Uuid}
    (h : document.map anonymous = other.map anonymous) :
    document.toDocument.withoutIdentifiers = other.toDocument.withoutIdentifiers := by
  have hsame := congrArg (SchemaDocument.map fun _ => (default : Uuid)) h
  rw [map_map, map_map] at hsame
  rw [← document.withoutIdentifiers_toDocument_map fun _ => default,
    ← other.withoutIdentifiers_toDocument_map fun _ => default]
  exact congrArg (fun d => d.toDocument.withoutIdentifiers) hsame

/-! ## Who has an identifier -/

/-- The kind of document that a kind of file is for. -/
inductive SchemaFile.Holds {ι : Type} : SchemaFile → SchemaDocument ι → Prop where
  | entity (slotKey name : String) (id : ι) : Holds (.entity slotKey) (.entity name id)
  | entries (slotKey : String) (values : List String) : Holds (.entries slotKey) (.entries values)
  | intent (name : String) (parameters : List Parameter) (id : ι) :
    Holds (.intent name) (.intent name parameters id)
  | samples (name : String) (utterances : List (Utterance ι)) :
    Holds (.samples name) (.samples utterances)
  | agent : Holds .agent .agent
  | package : Holds .package .package

/-- What has an identifier in the document of a file: the definition of an entity or of an intent as
a whole, and in samples every token. -/
def SchemaFile.identified (document : Document) : SchemaFile → List Document
  | entity _ => [document]
  | intent _ => [document]
  | samples _ => document.tokens
  | _ => []

/-- All of these have one identifier each, and there are no others. -/
theorem SchemaFile.Holds.identifiers_eq {file : SchemaFile} {document : SchemaDocument Uuid}
    (h : file.Holds document) :
    document.toDocument.identifiers.map some =
      (file.identified document.toDocument).map fun d => d.get? "id" := by
  rw [SchemaDocument.identifiers_toDocument]
  cases h with
  | entity slotKey name id =>
      simp [SchemaDocument.ids, identified, SchemaDocument.toDocument, entityDocument, get?_record,
        Uuid.document]
  | intent name parameters id =>
      simp [SchemaDocument.ids, identified, SchemaDocument.toDocument, intentDocument, get?_record,
        Uuid.document]
  | samples name utterances =>
      have hids : (SchemaDocument.samples utterances).ids =
          (SchemaDocument.samples utterances).tokens.map Token.id := List.map_flatMap.symm
      rw [identified, SchemaDocument.tokens_toDocument, hids, List.map_map, List.map_map,
        List.map_map]
      exact List.map_congr_left fun token _ => token.get?_id_document.symm
  | _ => rfl

theorem SchemaFile.Holds.of_map {ι κ : Type} {f : ι → κ} {file : SchemaFile}
    {document : SchemaDocument ι} (h : file.Holds (document.map f)) : file.Holds document := by
  cases document <;> cases h <;> constructor

namespace Definition

variable {definition : Definition} {config : BuildConfig} {fresh : Nat → Uuid}
  {environment : String} {set : ArtifactSet}

/-- In a plan every file is for its document. -/
theorem holds_of_mem_schemaPlan {d : SchemaFile × SchemaDocument Unit}
    (h : d ∈ definition.schemaPlan config environment) : d.1.Holds d.2 := by
  rw [schemaPlan, List.mem_append, List.mem_append, List.mem_flatMap, List.mem_flatMap] at h
  rcases h with (⟨slot, _, h⟩ | ⟨intent, _, h⟩) | h
  · rcases List.mem_pair.1 h with rfl | rfl
    · exact .entity slot.1 _ _
    · exact .entries slot.1 _
  · rw [intentFiles, List.mem_cons] at h
    rcases h with rfl | h
    · exact .intent intent.name _ _
    · split at h
      · cases h
      · obtain rfl := List.mem_singleton.1 h
        exact .samples intent.name _
  · rcases List.mem_pair.1 h with rfl | rfl
    · exact .agent
    · exact .package

theorem holds_of_mem_wholeDocuments {first : Nat} {invocations : List Invocation}
    {d : PlannedFile × SchemaDocument Uuid}
    (h : d ∈ definition.wholeDocuments config fresh first invocations) : d.1.file.Holds d.2 := by
  have hplan : (d.1, d.2.map anonymous) ∈ definition.wholePlan config invocations := by
    rw [← definition.map_anonymous_wholeDocuments config fresh first]
    exact List.mem_map_of_mem h
  obtain ⟨invocation, _, hplan⟩ := List.mem_flatMap.1 hplan
  obtain ⟨planned, hplanned, heq⟩ := List.mem_map.1 hplan
  obtain ⟨hfile, hdocument⟩ := Prod.mk.inj heq
  have hholds := holds_of_mem_schemaPlan hplanned
  rw [hdocument] at hholds
  rw [← hfile]
  exact hholds.of_map

/-! ## Assemblies -/

/-- The identifiers of an assembly are those that were dealt out, in their order. -/
theorem identifiers_of_assemble (h : (definition.assemble config fresh).result = .ok set) :
    (set.artifacts.flatMap fun artifact => artifact.document.identifiers) =
      (List.range (definition.wholeIdCount config)).map fun i => (fresh i).document := by
  have hdocuments := map_document_artifacts (forall₂_artifacts_of_assemble h)
  calc (set.artifacts.flatMap fun artifact => artifact.document.identifiers)
      = (set.artifacts.map Artifact.document).flatMap identifiers := by rw [List.flatMap_map]
    _ = (definition.wholeDocuments config fresh 0 definition.invocations).flatMap fun d =>
          d.2.ids.map Uuid.document := by
        rw [hdocuments, List.flatMap_map]
        simp only [SchemaDocument.identifiers_toDocument]
    _ = (List.range (definition.wholeIdCount config)).map fun i => (fresh i).document := by
        rw [← List.map_flatMap, ids_wholeDocuments, List.map_map]
        rfl

/-- Every file has the identifiers that it is to have. -/
theorem forall₂_identified (h : (definition.assemble config fresh).result = .ok set) :
    List.Forall₂ (fun (planned : PlannedFile) artifact =>
        planned.path config.layout = .ok artifact.path ∧
        artifact.document.identifiers.map some =
          (planned.file.identified artifact.document).map fun d => d.get? "id")
      (definition.wholeFiles config) set.artifacts := by
  have hpairs := forall₂_artifacts_of_assemble h
  rw [← map_fst_wholeDocuments definition config fresh 0, List.forall₂_map_left_iff]
  obtain ⟨hlength, hartifacts⟩ := List.forall₂_iff_zip.1 hpairs
  refine List.forall₂_iff_zip.2 ⟨hlength, fun {d artifact} hpair => ?_⟩
  have hartifact := hartifacts hpair
  refine ⟨hartifact.path, ?_⟩
  rw [hartifact.document]
  exact (holds_of_mem_wholeDocuments (List.of_mem_zip hpair).1).identifiers_eq

/-- With other identifiers the same is assembled but for them. -/
theorem exists_same_without_identifiers
    (h : (definition.assemble config fresh).result = .ok set) (fresh' : Nat → Uuid) :
    ∃ set', (definition.assemble config fresh').result = .ok set' ∧ set'.paths = set.paths ∧
      set'.artifacts.map (fun artifact => artifact.document.withoutIdentifiers) =
        set.artifacts.map fun artifact => artifact.document.withoutIdentifiers := by
  have halike := definition.outcomesAlike_assemble config fresh fresh'
  rw [h] at halike
  obtain ⟨set', h', hpairs⟩ := halike.exists_of_ok
  refine ⟨set', h', ?_, ?_⟩
  · have hpaths := (paths_of_assemble h').trans (paths_of_assemble h).symm
    exact (List.map_inj_right fun _ _ => Except.ok.inj).1 hpaths
  · rw [← List.forall₂_eq_eq_eq, List.forall₂_map_left_iff, List.forall₂_map_right_iff]
    refine hpairs.flip.imp fun a b hpair => ?_
    obtain ⟨d, e, hsame, hd, he⟩ := hpair.documents
    rw [hd, he, SchemaDocument.withoutIdentifiers_eq hsame]

/-- **Identifiers are dealt out once each.** Whatever is assembled, each definition of an entity and
of an intent and each token of a sample has one identifier, and no other document or part of one has
any. From front to back these are the identifiers that were dealt out, one after the other. So they
all differ, across documents and environments, if no identifier is dealt out that has been before;
and with other identifiers nothing else would be different. -/
theorem identifiers_dealt_out_once (definition : Definition) (config : BuildConfig)
    (fresh : Nat → Uuid) {set : ArtifactSet}
    (h : (definition.assemble config fresh).result = .ok set)
    (hfresh : ∀ j < definition.wholeIdCount config, ∀ i < j, fresh j ≠ fresh i) :
    List.Forall₂ (fun (planned : PlannedFile) artifact =>
        planned.path config.layout = .ok artifact.path ∧
        artifact.document.identifiers.map some =
          (planned.file.identified artifact.document).map fun d => d.get? "id")
      (definition.wholeFiles config) set.artifacts ∧
    (set.artifacts.flatMap fun artifact => artifact.document.identifiers) =
      ((List.range (definition.wholeIdCount config)).map fun i => .string (fresh i).text) ∧
    (set.artifacts.flatMap fun artifact => artifact.document.identifiers).Nodup ∧
    ∀ fresh' : Nat → Uuid, ∃ set', (definition.assemble config fresh').result = .ok set' ∧
      set'.paths = set.paths ∧
      set'.artifacts.map (fun artifact => artifact.document.withoutIdentifiers) =
        set.artifacts.map fun artifact => artifact.document.withoutIdentifiers := by
  have hidentifiers := identifiers_of_assemble h
  refine ⟨forall₂_identified h, hidentifiers, ?_, exists_same_without_identifiers h⟩
  rw [hidentifiers, List.Nodup, List.pairwise_map]
  have hlt : (List.range (definition.wholeIdCount config)).Pairwise (· < ·) :=
    List.pairwise_lt_range
  refine hlt.imp_of_mem fun {i j} _ hj hij hsame => ?_
  exact hfresh j (List.mem_range.1 hj) i hij (Uuid.document_injective hsame).symm

/-- Trips of two environments between cities: one entity, one intent, and two utterances of two
and three tokens. -/
def cityTrips : Definition :=
  { empty with
    invocations := [⟨"alpha"⟩, ⟨"beta"⟩]
    intents := [⟨"Trip", [], [], [⟨"city", "City", []⟩]⟩]
    slots := .ofList [("City", .ofList [⟨"paris", []⟩])]
    utterances := .ofList [("Trip",
      ["\x7bcity\x7d now", "\x7bcity\x7d to \x7bcity\x7d"])] }

/-- Each environment has identifiers of its own, and every token of a city as well. -/
theorem identifiers_dealt_out_once_cityTrips :
    ∃ set, (cityTrips.assemble usEnglish (Uuid.generated 0)).result = .ok set ∧
      (∀ j < cityTrips.wholeIdCount usEnglish, ∀ i < j, Uuid.generated 0 j ≠ Uuid.generated 0 i) ∧
      (set.artifacts.flatMap fun artifact => artifact.document.identifiers).length = 14 ∧
      (set.artifacts.flatMap fun artifact => artifact.document.identifiers).Nodup := by
  have hok : (cityTrips.assemble usEnglish (Uuid.generated 0)).result.isOk = true := by
    decide +kernel
  have hcount : cityTrips.wholeIdCount usEnglish = 14 := by decide +kernel
  have hfresh : ∀ j < cityTrips.wholeIdCount usEnglish, ∀ i < j,
      Uuid.generated 0 j ≠ Uuid.generated 0 i := by
    rw [hcount]
    decide +kernel
  obtain ⟨set, hset⟩ := exists_ok_of_isOk hok
  obtain ⟨_, hidentifiers, hnodup, _⟩ := identifiers_dealt_out_once _ _ _ hset hfresh
  refine ⟨set, hset, hfresh, ?_, hnodup⟩
  rw [hidentifiers, List.length_map, List.length_range, hcount]

end Definition

end VoiceSkill
