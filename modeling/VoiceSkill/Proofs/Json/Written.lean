import VoiceSkill.Json.Decoder
import VoiceSkill.Proofs.Json.Document
import VoiceSkill.Proofs.Json.Reader

/-!
# Texts of documents

The text of a document, spread out or compact or as that of its file, is decoded as the value of the
document is (`Decoder.ofText_pretty`), if the numbers in it are read back. As a document it is the
document again, as long as that is canonical and nests at most 127 levels deep
(`Document.ofText_fileText_eq_ok_iff`).
-/

namespace VoiceSkill

/-! ## Numbers in documents -/

namespace Document

/-- All numbers in the document are read back from their texts. -/
def NumbersReadBack (document : Document) : Prop := ∀ n ∈ document.numbers, n.ReadsBack

variable {α : Type} {write : α → Document}

theorem numbersReadBack_string (s : String) : (string s).NumbersReadBack := List.forall_mem_nil _

theorem numbersReadBack_list_map {as : List α} (h : ∀ a ∈ as, (write a).NumbersReadBack) :
    (list (as.map write)).NumbersReadBack := by
  intro n hn
  obtain ⟨item, hitem, hn⟩ := mem_numbers_list_iff.1 hn
  obtain ⟨a, ha, rfl⟩ := List.mem_map.1 hitem
  exact h a ha n hn

theorem numbersReadBack_texts (texts : List String) : (Document.texts texts).NumbersReadBack :=
  numbersReadBack_list_map fun s _ => numbersReadBack_string s

theorem numbersReadBack_optional {a : Option α} (h : ∀ a, (write a).NumbersReadBack) :
    (optional write a).NumbersReadBack := by
  cases a with
  | none => exact List.forall_mem_nil _
  | some a => exact h a

theorem numbersReadBack_record {members : List (String × Document)}
    (h : ∀ member ∈ members, member.2.NumbersReadBack) : (record members).NumbersReadBack := by
  intro n hn
  obtain ⟨member, hmember, hn⟩ := mem_numbers_object_iff.1 hn
  exact h member (Dict.mem_of_mem_ofList hmember) n hn

theorem numbersReadBack_dict {d : Dict α} (h : ∀ e ∈ d.entries, (write e.2).NumbersReadBack) :
    (object (d.map write).entries).NumbersReadBack := by
  intro n hn
  obtain ⟨member, hmember, hn⟩ := mem_numbers_object_iff.1 hn
  obtain ⟨e, he, rfl⟩ := List.mem_map.1 hmember
  exact h e he n hn

end Document

/-! ## Texts -/

namespace Decoder

variable {α : Type} (decoder : Decoder α) {document : Document}

theorem document_eq_ok_iff {context : Context} {json : Json} {document : Document} :
    Decoder.document context json = .ok document ↔ json.document context.room = .ok document := by
  rw [Decoder.document]
  cases json.document context.room <;> simp

theorem ofText_of_eq {text : String} {json : Json} (h : Json.ofText text = (json, false)) :
    decoder.ofText text = decoder .text json := by
  simp only [ofText, h]
  cases decoder .text json with
  | error e => rfl
  | ok a => rfl

/-- What a text gives, its value gives. -/
theorem of_ofText {text : String} {a : α} (h : decoder.ofText text = .ok a) :
    decoder .text (Json.ofText text).1 = .ok a := by
  simp only [ofText] at h
  cases hread : decoder .text (Json.ofText text).1 with
  | error e => simp [hread] at h
  | ok b =>
      simp only [hread] at h
      split at h
      · cases h
      · exact h

theorem ofText_pretty (h : document.NumbersReadBack) :
    decoder.ofText document.pretty = decoder .text document.json := by
  have hread := Json.ofText_render Document.isBlank_spread h (List.forall_mem_nil _)
  rw [List.append_nil] at hread
  exact decoder.ofText_of_eq hread

theorem ofText_compact (h : document.NumbersReadBack) :
    decoder.ofText document.compact = decoder .text document.json := by
  have hread := Json.ofText_render Document.isBlank_dense h (List.forall_mem_nil _)
  rw [List.append_nil] at hread
  exact decoder.ofText_of_eq hread

theorem ofText_fileText (h : document.NumbersReadBack) :
    decoder.ofText document.fileText = decoder .text document.json := by
  have hgap : Json.IsBlank ['\n'] := by simp [Json.IsBlank, Json.isGap]
  have hread := Json.ofText_render Document.isBlank_spread h hgap
  have htext : document.fileText =
      String.ofList (Document.render Document.spread 0 document ++ ['\n']) := by
    rw [String.ofList_append]
    rfl
  rw [htext]
  exact decoder.ofText_of_eq hread

end Decoder

/-- **The file of a document holds the document**, as long as it is canonical and a text may nest as
deep. -/
theorem Document.ofText_fileText_eq_ok_iff {document : Document} (h : document.NumbersReadBack) :
    Document.ofText document.fileText = .ok document ↔
      document.Canonical ∧ document.depth ≤ 127 := by
  have hfits : document.Fits (some 128) ↔ document.Canonical ∧ document.depth ≤ 127 := by
    constructor
    · intro hfits
      exact ⟨hfits.canonical, Nat.le_of_lt_succ (hfits.depth 128 rfl)⟩
    · rintro ⟨hcanonical, hdepth⟩
      refine ⟨hcanonical, fun room hroom => ?_⟩
      cases hroom
      omega
  rw [Document.ofText, Decoder.ofText_fileText _ h, Decoder.document_eq_ok_iff,
    document_json_eq_ok_iff (by simp [Context.text, HasRoom])]
  exact hfits

end VoiceSkill
