import VoiceSkill.Schema

/-!
# Documents and their identifiers

Identifiers are dealt out to documents that have none. Whatever the numbers and what is made of
them, taking them out again gives the documents that were there before (`map_anonymous_number`): the
content of a schema never depends on its identifiers. The numbers themselves are dealt out one after
the other, each of them once (`ids_numberDocuments`).
-/

namespace VoiceSkill

variable {ι κ ξ : Type}

/-! ## Functions on identifiers -/

@[simp] theorem Token.map_map (f : ι → κ) (g : κ → ξ) (token : Token ι) :
    (token.map f).map g = token.map (g ∘ f) := by
  cases token <;> rfl

@[simp] theorem Utterance.map_map (f : ι → κ) (g : κ → ξ) (utterance : Utterance ι) :
    (utterance.map f).map g = utterance.map (g ∘ f) := by
  simp [Utterance.map, Function.comp_def]

@[simp] theorem SchemaDocument.map_map (f : ι → κ) (g : κ → ξ) (document : SchemaDocument ι) :
    (document.map f).map g = document.map (g ∘ f) := by
  cases document <;> simp [SchemaDocument.map, Function.comp_def]

/-! ## Numbers -/

/-- The function that takes identifiers out. -/
def anonymous (_ : ι) : Unit := ()

theorem Token.map_anonymous_withId (token : Token Unit) (id : κ) :
    (token.withId id).map anonymous = token := by
  cases token <;> rfl

theorem Utterance.map_anonymous_number (first : Nat) (utterance : Utterance Unit) :
    (utterance.number first).map anonymous = utterance := by
  have htokens : ((utterance.tokens.zipIdx first).map fun t => t.1.withId t.2).map
      (Token.map anonymous) = utterance.tokens := by
    rw [List.map_map]
    calc (utterance.tokens.zipIdx first).map (Token.map anonymous ∘ fun t => t.1.withId t.2)
        = (utterance.tokens.zipIdx first).map Prod.fst := by
          apply List.map_congr_left
          intro t _
          exact Token.map_anonymous_withId t.1 t.2
      _ = utterance.tokens := List.zipIdx_map_fst first utterance.tokens
  rw [Utterance.map, Utterance.number, htokens]

theorem map_anonymous_numberUtterances (first : Nat) (utterances : List (Utterance Unit)) :
    (numberUtterances first utterances).map (Utterance.map anonymous) = utterances := by
  induction utterances generalizing first with
  | nil => rfl
  | cons utterance rest ih =>
      rw [numberUtterances, List.map_cons, Utterance.map_anonymous_number, ih]

theorem SchemaDocument.map_anonymous_number (first : Nat) (document : SchemaDocument Unit) :
    (document.number first).map anonymous = document := by
  cases document with
  | samples utterances =>
      rw [SchemaDocument.number, SchemaDocument.map, map_anonymous_numberUtterances]
  | entity name id => rfl
  | entries values => rfl
  | intent name parameters id => rfl
  | agent => rfl
  | package => rfl

/-! ## Rows of documents -/

/-- Numbers the places for identifiers in documents that are kept with something else. -/
def numberDocuments {α : Type} (first : Nat) :
    List (α × SchemaDocument ι) → List (α × SchemaDocument Nat)
  | [] => []
  | (a, document) :: rest =>
    (a, document.number first) :: numberDocuments (first + document.ids.length) rest

theorem numberDocuments_map {α β : Type} (f : α → β) (first : Nat)
    (documents : List (α × SchemaDocument ι)) :
    numberDocuments first (documents.map fun d => (f d.1, d.2)) =
      (numberDocuments first documents).map fun d => (f d.1, d.2) := by
  induction documents generalizing first with
  | nil => rfl
  | cons d rest ih => rw [List.map_cons, numberDocuments, numberDocuments, List.map_cons, ih]

/-- **Identifiers leave no trace once they are taken out.** -/
theorem map_anonymous_numberDocuments {α : Type} (first : Nat)
    (documents : List (α × SchemaDocument Unit)) :
    (numberDocuments first documents).map (fun d => (d.1, d.2.map anonymous)) = documents := by
  induction documents generalizing first with
  | nil => rfl
  | cons d rest ih =>
      rw [numberDocuments, List.map_cons, SchemaDocument.map_anonymous_number, ih]

/-- So it is if the numbers stand for other identifiers. -/
theorem map_anonymous_map_numberDocuments {α : Type} (fresh : Nat → κ) (first : Nat)
    (documents : List (α × SchemaDocument Unit)) :
    ((numberDocuments first documents).map fun d => (d.1, d.2.map fresh)).map
      (fun d => (d.1, d.2.map anonymous)) = documents := by
  rw [List.map_map]
  calc (numberDocuments first documents).map
        ((fun d => (d.1, d.2.map anonymous)) ∘ fun d => (d.1, d.2.map fresh))
      = (numberDocuments first documents).map fun d => (d.1, d.2.map anonymous) := by
        apply List.map_congr_left
        intro d _
        rw [Function.comp_apply, SchemaDocument.map_map]
        rfl
    _ = documents := map_anonymous_numberDocuments first documents

theorem numberDocuments_append {α : Type} (first : Nat)
    (documents others : List (α × SchemaDocument ι)) :
    numberDocuments first (documents ++ others) = numberDocuments first documents ++
      numberDocuments (first + (documents.flatMap fun d => d.2.ids).length) others := by
  induction documents generalizing first with
  | nil => rfl
  | cons d rest ih =>
      rw [List.cons_append, numberDocuments, numberDocuments, ih, List.flatMap_cons,
        List.length_append, Nat.add_assoc, List.cons_append]

/-! ## Identifiers in a row -/

theorem Token.id_withId (token : Token ι) (id : κ) : (token.withId id).id = id := by
  cases token <;> rfl

theorem Utterance.ids_number (first : Nat) (utterance : Utterance ι) :
    (utterance.number first).ids = List.range' first utterance.ids.length := by
  rw [ids, number, List.map_map]
  calc (utterance.tokens.zipIdx first).map (Token.id ∘ fun t => t.1.withId t.2)
      = (utterance.tokens.zipIdx first).map Prod.snd :=
        List.map_congr_left fun t _ => Token.id_withId t.1 t.2
    _ = List.range' first utterance.ids.length := by
        rw [List.zipIdx_map_snd, ids, List.length_map]

theorem ids_numberUtterances (first : Nat) (utterances : List (Utterance ι)) :
    (numberUtterances first utterances).flatMap Utterance.ids =
      List.range' first (utterances.flatMap Utterance.ids).length := by
  induction utterances generalizing first with
  | nil => rfl
  | cons utterance rest ih =>
      have hlength : utterance.ids.length = utterance.tokens.length := List.length_map _
      rw [numberUtterances, List.flatMap_cons, ih, Utterance.ids_number, List.flatMap_cons,
        List.length_append, ← hlength, List.range'_append_1]

theorem SchemaDocument.ids_number (first : Nat) (document : SchemaDocument ι) :
    (document.number first).ids = List.range' first document.ids.length := by
  cases document with
  | samples utterances => exact ids_numberUtterances first utterances
  | entity name id => rfl
  | entries values => rfl
  | intent name parameters id => rfl
  | agent => rfl
  | package => rfl

/-- **Every number is dealt out once**, from the first one on. -/
theorem ids_numberDocuments {α : Type} (first : Nat) (documents : List (α × SchemaDocument ι)) :
    ((numberDocuments first documents).flatMap fun d => d.2.ids) =
      List.range' first (documents.flatMap fun d => d.2.ids).length := by
  induction documents generalizing first with
  | nil => rfl
  | cons d rest ih =>
      rw [numberDocuments, List.flatMap_cons, ih, SchemaDocument.ids_number, List.flatMap_cons,
        List.length_append, List.range'_append_1]

theorem SchemaDocument.ids_map (f : ι → κ) (document : SchemaDocument ι) :
    (document.map f).ids = document.ids.map f := by
  cases document with
  | samples utterances =>
      have hids (utterance : Utterance ι) : (utterance.map f).ids = utterance.ids.map f := by
        rw [Utterance.ids, Utterance.ids, Utterance.map, List.map_map, List.map_map]
        exact List.map_congr_left fun token _ => Token.id_withId token _
      rw [map, ids, ids, List.flatMap_map, List.map_flatMap]
      simp only [hids]
  | _ => rfl

end VoiceSkill
