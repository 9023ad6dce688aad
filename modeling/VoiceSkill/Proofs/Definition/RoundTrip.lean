import VoiceSkill.Proofs.Definition.Writing

/-!
# Reading definitions again

A definition comes back from the JSON value that it is written as, and so does every definition that
was read (`reread`). It also comes back from the text of this value, if that nests no deeper than a
text may and the numbers in the free content are read back from their texts. A decimal in there need
not be: its digits are scaled in double precision, which rounds (`not_rereadFromText_drifting`).
-/

namespace VoiceSkill

namespace Definition

variable {definition : Definition}

/-- The definition is read again from its value. -/
def RereadFromValue (definition : Definition) : Prop :=
  decoder.ofDocument definition.document = .ok definition

/-- The definition is read again from its texts, spread out and compact. -/
def RereadFromText (definition : Definition) : Prop :=
  ofText definition.document.pretty = .ok definition ∧
    ofText definition.document.compact = .ok definition

theorem rereadFromValue (h : ∀ e ∈ definition.others.entries, e.2.Canonical) :
    definition.RereadFromValue := by
  have hothers : (Document.object definition.others.entries).Fits none :=
    ⟨Document.canonical_object_iff.2 ⟨definition.others.keysIncrease, h⟩, hasRoom_none _⟩
  exact definition.reads_document .value (fits_document (hasRoom_none 6) hothers)

theorem rereadFromText
    (hcontent : ∀ e ∈ definition.others.entries, e.2.Canonical ∧ e.2.depth ≤ 125)
    (hnumbers : ∀ e ∈ definition.others.entries, e.2.NumbersReadBack) :
    definition.RereadFromText := by
  have hread : (Document.object definition.others.entries).NumbersReadBack := by
    intro n hn
    obtain ⟨e, he, hn⟩ := Document.mem_numbers_object_iff.1 hn
    exact hnumbers e he n hn
  have hfits : (Document.object definition.others.entries).Fits (some 127) := by
    refine Document.fits_object_iff.2 ⟨by simp [HasRoom], definition.others.keysIncrease, ?_⟩
    intro e he
    obtain ⟨hcanonical, hdepth⟩ := hcontent e he
    have hroom : e.2.depth < 126 := by omega
    exact ⟨hcanonical, by simpa [HasRoom, roomInside] using hroom⟩
  have hdecode : decoder .text definition.document.json = .ok definition :=
    definition.reads_document .text (fits_document (by simp [Context.text, HasRoom]) hfits)
  exact ⟨(decoder.ofText_pretty (numbersReadBack_document hread)).trans hdecode,
    (decoder.ofText_compact (numbersReadBack_document hread)).trans hdecode⟩

/-! ## Definitions that were read -/

/-- The free content of a definition that was read from a value is canonical. -/
theorem others_of_ofDocument {document : Document}
    (h : decoder.ofDocument document = .ok definition) :
    ∀ e ∈ definition.others.entries, e.2.Canonical := by
  have hfits := fits_others (hasRoom_none 2) h
  exact (Document.canonical_object_iff.1 hfits.canonical).2

/-- The free content of a definition that was read from a text also nests no deeper than it may. -/
theorem others_of_ofText {text : String} (h : ofText text = .ok definition) :
    ∀ e ∈ definition.others.entries, e.2.Canonical ∧ e.2.depth ≤ 125 := by
  have hfits := fits_others (by simp [Context.text, HasRoom]) (decoder.of_ofText h)
  obtain ⟨-, -, hcontent⟩ := Document.fits_object_iff.1 hfits
  intro e he
  have hdepth := (hcontent e he).depth 126 rfl
  exact ⟨(hcontent e he).canonical, by omega⟩

/-- **Definitions come back from what they are written as.** From the value that it is written as a
definition comes back exactly if its free content is canonical. From the texts of this value, if the
numbers in there are read back from their texts, as all integers of 64 bits are, it comes back
exactly if its free content also nests at most 125 levels deep. So a definition that was read comes
back from its value, and one that was read from a text comes back from its texts unless one of its
numbers does not. -/
theorem reread :
    (∀ definition : Definition,
      definition.RereadFromValue ↔ ∀ e ∈ definition.others.entries, e.2.Canonical) ∧
    (∀ definition : Definition, (∀ e ∈ definition.others.entries, e.2.NumbersReadBack) →
      (definition.RereadFromText ↔
        ∀ e ∈ definition.others.entries, e.2.Canonical ∧ e.2.depth ≤ 125)) ∧
    (∀ (document : Document) (definition : Definition),
      decoder.ofDocument document = .ok definition → definition.RereadFromValue) ∧
    (∀ (text : String) (definition : Definition), ofText text = .ok definition →
      definition.RereadFromValue ∧
      ((∀ e ∈ definition.others.entries, e.2.NumbersReadBack) → definition.RereadFromText)) ∧
    ∀ n : Int, -2 ^ 63 ≤ n → n < 2 ^ 64 → (Number.integer n).ReadsBack := by
  refine ⟨fun _ => ⟨others_of_ofDocument, rereadFromValue⟩, ?_, ?_, ?_, fun _ =>
    Number.readsBack_integer⟩
  · intro definition hnumbers
    exact ⟨fun h => others_of_ofText h.1, fun h => rereadFromText h hnumbers⟩
  · intro document definition h
    exact rereadFromValue (others_of_ofDocument h)
  · intro text definition h
    have hcontent := others_of_ofText h
    exact ⟨rereadFromValue fun e he => (hcontent e he).1, rereadFromText hcontent⟩

/-- A tour with something in each of its fields. -/
def sampleTour : Definition where
  locale := some "en-US"
  skillId := some "tour \x22one\x22"
  leastUtterances := some 18446744073709551615
  invocations := [⟨"alpha"⟩, ⟨""⟩]
  intents := [⟨"Fly", ["dialogFlow"], [], [⟨"city", "City", ["alexa"]⟩, ⟨"", "", []⟩]⟩]
  slots := Dict.ofList [("City", .ofList [⟨"paris", ["city of light", ""]⟩, ⟨"rome", []⟩])]
  utterances := Dict.ofList [("Fly", ["fly", "", "fly"]), ("Walk", [])]
  others := Dict.ofList [
    ("limits", .list [.number (.integer (-2 ^ 63)), .number (.integer (2 ^ 64 - 1))]),
    ("note", .object [("a\n", .null), ("b", .list [.bool true, .object []])])]

theorem others_sampleTour : sampleTour.others.entries = [
    ("limits", .list [.number (.integer (-2 ^ 63)), .number (.integer (2 ^ 64 - 1))]),
    ("note", .object [("a\n", .null), ("b", .list [.bool true, .object []])])] := rfl

/-- The numbers in the free content. -/
def numbers (definition : Definition) : List Number :=
  (Document.object definition.others.entries).numbers

/-- A text whose slot values and samples are not in the form in which they are written. -/
def looseText : String :=
  "\x7b\x22slots\x22:\x7b\x22City\x22:" ++
  "\x7b\x22paris\x22:null,\x22rome\x22:[\x22roma\x22]\x7d\x7d," ++
  "\x22utterances\x22:\x7b\x22Fly\x22:[[\x22fly\x22,null],[[\x22go\x22]]]\x7d," ++
  "\x22others\x22:\x7b\x22n\x22:7\x7d\x7d"

/-- The tour comes back, and so does what is read from the text. -/
theorem reread_sampleTour :
    sampleTour.RereadFromValue ∧ sampleTour.RereadFromText ∧
    ∃ definition, ofText looseText = .ok definition ∧
      definition.RereadFromValue ∧ definition.RereadFromText := by
  obtain ⟨hvalue, htext, -, hagain, hinteger⟩ := reread
  have hsame : (Document.object sampleTour.others.entries).json.document none =
      .ok (.object sampleTour.others.entries) := rfl
  have hcanonical := (Document.canonical_object_iff.1
    (Json.fits_of_document (hasRoom_none 0) hsame).canonical).2
  have hdepth : ∀ e ∈ sampleTour.others.entries, e.2.depth ≤ 125 := by
    simpa only [others_sampleTour, List.forall_mem_cons] using by decide
  have hcontent : ∀ e ∈ sampleTour.others.entries, e.2.Canonical ∧ e.2.depth ≤ 125 :=
    fun e he => ⟨hcanonical e he, hdepth e he⟩
  have hnumbers : ∀ e ∈ sampleTour.others.entries, e.2.NumbersReadBack := by
    rw [others_sampleTour]
    simp only [List.forall_mem_cons, Document.NumbersReadBack, Document.numbers,
      Document.numbersOfItems, Document.numbersOfMembers, List.cons_append, List.nil_append]
    exact ⟨⟨hinteger _ (by decide) (by decide), hinteger _ (by decide) (by decide),
      List.forall_mem_nil _⟩, List.forall_mem_nil _, List.forall_mem_nil _⟩
  refine ⟨(hvalue sampleTour).2 hcanonical, (htext sampleTour hnumbers).2 hcontent, ?_⟩
  have hseven : (ofText looseText).toOption.map numbers = some [.integer 7] := by decide +kernel
  cases hread : ofText looseText with
  | error e => simp [hread, Except.toOption] at hseven
  | ok definition =>
      obtain ⟨hback, hback'⟩ := hagain looseText definition hread
      refine ⟨definition, rfl, hback, hback' fun e he n hn => ?_⟩
      have hmem : n ∈ definition.numbers := Document.mem_numbers_object_iff.2 ⟨e, he, hn⟩
      have hnumber : definition.numbers = [.integer 7] := by
        simpa [hread, Except.toOption] using hseven
      rw [hnumber, List.mem_singleton] at hmem
      rw [hmem]
      exact hinteger 7 (by decide) (by decide)

/-- A text whose number is written differently, and then read as the number below. -/
def driftingText : String := "\x7b\x22others\x22:\x7b\x22x\x22:30e22\x7d\x7d"

theorem not_rereadFromText_drifting :
    ∃ definition, ofText driftingText = .ok definition ∧
      ofText definition.document.compact ≠ .ok definition := by
  have honce : (ofText driftingText).toOption.map numbers =
      some [.decimal ⟨false, 3, 23⟩] := by decide +kernel
  have htwice : ((ofText driftingText).toOption.bind fun definition =>
      (ofText definition.document.compact).toOption.map numbers) =
      some [.decimal ⟨false, 29999999999999997, 7⟩] := by decide +kernel
  cases hread : ofText driftingText with
  | error e => simp [hread, Except.toOption] at honce
  | ok definition =>
      refine ⟨definition, rfl, fun hagain => ?_⟩
      simp [hread, hagain, Except.toOption] at honce htwice
      rw [honce] at htwice
      revert htwice
      decide

end Definition

end VoiceSkill
