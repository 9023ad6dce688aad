import VoiceSkill.Proofs.Assembly.Identifiers
import VoiceSkill.Proofs.Document

/-!
# What schema documents say

Schema documents are read as they are written. Samples consist of tokens (`Document.tokens`) and
refer to slots (`Document.references`), the definition of an intent has parameters
(`Document.parameter?`), the values of an entity have an entry each (`items_entriesDocument`), and
entities and intents have names. What is read there is what the documents were made from, and does
not depend on identifiers.
-/

namespace VoiceSkill

/-! ## Reading documents of a schema -/

namespace Document

/-- The entity and the slot that a token names, if it refers to a slot. -/
def reference? (token : Document) : Option (String × String) := do
  return (← token.textAt? "meta", ← token.textAt? "alias")

/-- The tokens in the samples of an intent, from front to back. -/
def tokens (samples : Document) : List Document :=
  samples.items.flatMap fun utterance => utterance.itemsAt "data"

/-- The references to slots in the samples of an intent. -/
def references (samples : Document) : List (String × String) :=
  samples.items.flatMap fun utterance => (utterance.itemsAt "data").filterMap reference?

/-- The parameters in the definition of an intent. -/
def parameters (declaration : Document) : List Document :=
  (declaration.itemsAt "responses").flatMap fun response => response.itemsAt "parameters"

/-- The first parameter of a name in the definition of an intent. -/
def parameter? (declaration : Document) (name : String) : Option Document :=
  declaration.parameters.find? fun parameter => parameter.textAt? "name" == some name

end Document

/-- The entity and the slot that a token names, if it refers to a slot. -/
def Token.reference? {ι : Type} : Token ι → Option (String × String)
  | literal .. => none
  | slotRef entityType slotName .. => some (entityType, slotName)

/-- The tokens in a document, from front to back. -/
def SchemaDocument.tokens {ι : Type} : SchemaDocument ι → List (Token ι)
  | samples utterances => utterances.flatMap Utterance.tokens
  | _ => []

/-- The references to slots in a document. -/
def SchemaDocument.references {ι : Type} : SchemaDocument ι → List (String × String)
  | samples utterances => utterances.flatMap fun u => u.tokens.filterMap Token.reference?
  | _ => []

/-! ## Tokens and references -/

theorem Token.reference?_document (token : Token Uuid) :
    token.document.reference? = token.reference? := by
  cases token <;> simp [Token.document, Document.reference?, Document.text?, Token.reference?]

theorem Token.reference?_map {ι κ : Type} (f : ι → κ) (token : Token ι) :
    (token.map f).reference? = token.reference? := by
  cases token <;> rfl

theorem Utterance.itemsAt_data (utterance : Utterance Uuid) :
    utterance.document.itemsAt "data" = utterance.tokens.map Token.document := by
  simp [Utterance.document]

/-- The tokens that are written are those of the utterances. -/
theorem SchemaDocument.tokens_toDocument (document : SchemaDocument Uuid) :
    document.toDocument.tokens = document.tokens.map Token.document := by
  cases document with
  | samples utterances =>
      rw [toDocument, Document.tokens, Document.items_list, List.flatMap_map, tokens,
        List.map_flatMap]
      exact List.flatMap_congr fun utterance _ => utterance.itemsAt_data
  | entries values =>
      -- an entry has no tokens
      rw [toDocument, entriesDocument, Document.tokens, Document.items_list, List.flatMap_map]
      simp [tokens]
  | entity name id => rfl
  | intent name parameters id => rfl
  | agent => rfl
  | package => rfl

theorem SchemaDocument.tokens_map {ι κ : Type} (f : ι → κ) (document : SchemaDocument ι) :
    (document.map f).tokens = document.tokens.map (Token.map f) := by
  cases document with
  | samples utterances =>
      rw [map, tokens, tokens, List.flatMap_map, List.map_flatMap]
      rfl
  | _ => rfl

/-- References are what tokens refer to. -/
theorem SchemaDocument.references_eq_filterMap {ι : Type} (document : SchemaDocument ι) :
    document.references = document.tokens.filterMap Token.reference? := by
  cases document with
  | samples utterances => exact List.filterMap_flatMap.symm
  | _ => rfl

/-- **The references that are written are those of the tokens.** -/
theorem SchemaDocument.references_toDocument (document : SchemaDocument Uuid) :
    document.toDocument.references = document.references := by
  calc document.toDocument.references
      = document.toDocument.tokens.filterMap Document.reference? := List.filterMap_flatMap.symm
    _ = document.tokens.filterMap (Document.reference? ∘ Token.document) := by
        rw [tokens_toDocument, List.filterMap_map]
    _ = document.references := by
        rw [references_eq_filterMap]
        exact List.filterMap_congr fun token _ => token.reference?_document

theorem SchemaDocument.references_map {ι κ : Type} (f : ι → κ) (document : SchemaDocument ι) :
    (document.map f).references = document.references := by
  rw [references_eq_filterMap, references_eq_filterMap, tokens_map, List.filterMap_map]
  exact List.filterMap_congr fun token _ => token.reference?_map f

/-! ## Documents without identifiers -/

namespace SchemaDocument

variable {ι κ : Type} {f : ι → κ} {document : SchemaDocument ι} {name : String} {id : κ}

theorem exists_of_map_eq_entity (h : document.map f = .entity name id) :
    ∃ id', document = .entity name id' := by
  cases document with
  | entity name' id' =>
      cases h
      exact ⟨id', rfl⟩
  | _ => cases h

theorem eq_of_map_eq_entries {values : List String} (h : document.map f = .entries values) :
    document = .entries values := by
  cases document with
  | entries values' =>
      cases h
      rfl
  | _ => cases h

theorem exists_of_map_eq_intent {parameters : List Parameter}
    (h : document.map f = .intent name parameters id) :
    ∃ id', document = .intent name parameters id' := by
  cases document with
  | intent name' parameters' id' =>
      cases h
      exact ⟨id', rfl⟩
  | _ => cases h

end SchemaDocument

/-! ## Entries -/

/-- There is one entry for each value, in their order, and a value is the only synonym of itself. -/
theorem items_entriesDocument (values : List String) :
    (entriesDocument values).items.map (fun entry =>
        (entry.textAt? "value", entry.get? "synonyms")) =
      values.map fun value => (some value, some (.texts [value])) := by
  rw [entriesDocument, Document.items_list, List.map_map]
  refine List.map_congr_left fun value _ => ?_
  simp [Document.get?_record, Document.text?]

/-! ## Names and parameters -/

theorem textAt?_name_entityDocument (name : String) (id : Uuid) :
    (entityDocument name id).textAt? "name" = some name := by
  simp [entityDocument, Document.text?]

theorem textAt?_name_intentDocument (name : String) (parameters : List Parameter) (id : Uuid) :
    (intentDocument name parameters id).textAt? "name" = some name := by
  simp [intentDocument, Document.text?]

theorem Parameter.textAt?_name (parameter : Parameter) :
    parameter.document.textAt? "name" = some parameter.name := by
  simp [Parameter.document, Document.text?]

theorem Parameter.textAt?_dataType (parameter : Parameter) :
    parameter.document.textAt? "dataType" = some parameter.entityType := by
  simp [Parameter.document, Document.text?]

theorem parameters_intentDocument (name : String) (parameters : List Parameter) (id : Uuid) :
    (intentDocument name parameters id).parameters = parameters.map Parameter.document := by
  simp [intentDocument, Document.parameters]

theorem parameter?_intentDocument (name : String) (parameters : List Parameter) (id : Uuid)
    (slotName : String) :
    (intentDocument name parameters id).parameter? slotName =
      (parameters.find? fun parameter => parameter.name == slotName).map Parameter.document := by
  rw [Document.parameter?, parameters_intentDocument, List.find?_map]
  congr 2
  funext parameter
  rw [Function.comp_apply, Parameter.textAt?_name]
  rfl

end VoiceSkill
