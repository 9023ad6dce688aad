import VoiceSkill.Definition
import VoiceSkill.Proofs.SlotValues.Collection

/-!
# Written definitions

A definition is read again from its document (`Definition.reads_document`), record by record: slot
values are written as a list of records and samples as a flat list, which are among the forms that
are read. The document nests no deeper than the free content, or six levels (`fits_document`), and
apart from one count the numbers in it are those of the free content. That content fits one level
inside of whatever the definition was read from (`fits_others`).
-/

namespace VoiceSkill

open RecordType (accepts_of_reads)

/-! ## Slots and intents -/

theorem Slot.reads_document (slot : Slot) : Slot.decoder.Reads slot.document slot := by
  intro context hfits
  have hname := Decoder.reads_string slot.name
  have htype := Decoder.reads_string slot.slotType
  have hplatforms := Decoder.reads_texts slot.platforms
  obtain ⟨fields, hfields, hholds⟩ := Slot.recordType.fieldsOf_record (by simp) (by
    simp only [List.forall_mem_cons]
    exact ⟨accepts_of_reads hname rfl, accepts_of_reads htype rfl,
      accepts_of_reads hplatforms rfl, List.forall_mem_nil _⟩) hfits
  simp only [List.forall_mem_cons] at hholds
  obtain ⟨hholdsName, hholdsType, hholdsPlatforms, -⟩ := hholds
  rw [Slot.decoder, Slot.document, hfields]
  show (fields.get "name" _ >>= _) = _
  simp only [hholdsName.get hname, hholdsType.get htype, hholdsPlatforms.getD hplatforms]
  rfl

theorem Intent.reads_document (intent : Intent) :
    Intent.decoder.Reads intent.document intent := by
  intro context hfits
  have hname := Decoder.reads_string intent.name
  have hplatforms := Decoder.reads_texts intent.platforms
  have henvironments := Decoder.reads_texts intent.environments
  have hslots : (Decoder.list Slot.decoder).Reads (.list (intent.slots.map Slot.document))
      intent.slots := Decoder.reads_list fun slot _ => slot.reads_document
  obtain ⟨fields, hfields, hholds⟩ := Intent.recordType.fieldsOf_record (by simp) (by
    simp only [List.forall_mem_cons]
    exact ⟨accepts_of_reads hname rfl, accepts_of_reads hplatforms rfl,
      accepts_of_reads henvironments rfl, accepts_of_reads hslots rfl,
      List.forall_mem_nil _⟩) hfits
  simp only [List.forall_mem_cons] at hholds
  obtain ⟨hholdsName, hholdsPlatforms, hholdsEnvironments, hholdsSlots, -⟩ := hholds
  rw [Intent.decoder, Intent.document, hfields]
  show (fields.get "intent" _ >>= _) = _
  simp only [hholdsName.get hname, hholdsPlatforms.getD hplatforms,
    hholdsEnvironments.getD henvironments, hholdsSlots.getD hslots]
  rfl

theorem Invocation.reads_document (invocation : Invocation) :
    Invocation.decoder.Reads invocation.document invocation := by
  intro context hfits
  have henvironment := Decoder.reads_string invocation.environment
  obtain ⟨fields, hfields, hholds⟩ := Invocation.recordType.fieldsOf_record (by simp) (by
    simp only [List.forall_mem_cons]
    exact ⟨accepts_of_reads henvironment rfl, List.forall_mem_nil _⟩) hfits
  simp only [List.forall_mem_cons] at hholds
  obtain ⟨hholdsEnvironment, -⟩ := hholds
  rw [Invocation.decoder, Invocation.document, hfields]
  show (fields.get "environment" _ >>= _) = _
  simp only [hholdsEnvironment.get henvironment]
  rfl

/-! ## Slot values -/

namespace SlotValues

/-- Values that differ are those of the collection that they are put into. -/
theorem entries_ofList {entries : List SlotValue} (h : (entries.map SlotValue.value).Nodup) :
    (ofList entries).entries = entries := by
  rw [entries_ofList_eq, keepFirst_eq_self h]

theorem ofList_entries (values : SlotValues) : ofList values.entries = values :=
  SlotValues.ext (entries_ofList values.distinct)

theorem strings?_texts (texts : List String) :
    strings? (Document.texts texts).json = some texts := by
  show (Document.jsonItems (texts.map Document.string)).mapM string? = some texts
  induction texts with
  | nil => rfl
  | cons s texts ih =>
      rw [List.map_cons, Document.jsonItems, List.mapM_cons, ih]
      rfl

theorem entry?_json (entry : SlotValue) :
    entry? (Document.record [("value", .string entry.value),
      ("synonyms", .texts entry.synonyms)]).json = some entry := by
  have hrecord : Document.record [("value", .string entry.value),
      ("synonyms", .texts entry.synonyms)] =
      .object [("synonyms", .texts entry.synonyms), ("value", .string entry.value)] := by
    have hlt : "synonyms" < "value" := by decide
    simp [Document.record, Dict.ofList, Dict.insert, insertEntry, Dict.empty, hlt]
  rw [hrecord]
  show (strings? (Document.texts entry.synonyms).json).map _ = _
  rw [strings?_texts]
  rfl

theorem ofJson?_document (values : SlotValues) : ofJson? values.document.json = some values := by
  have hentries : entries? values.document.json = some values.entries := by
    show (Document.jsonItems (values.entries.map _)).mapM entry? = _
    generalize values.entries = entries
    induction entries with
    | nil => rfl
    | cons entry entries ih =>
        rw [List.map_cons, Document.jsonItems, List.mapM_cons, ih, entry?_json]
        rfl
  rw [ofJson?, hentries, Option.map_some, ofList_entries]

theorem reads_document (values : SlotValues) : decoder.Reads values.document values :=
  Decoder.reads_oneOf values.ofJson?_document

end SlotValues

theorem samples?_texts (samples : List String) :
    samples? (Document.texts samples).json = some samples := by
  show samplesOfItems? (Document.jsonItems (samples.map Document.string)) = some samples
  induction samples with
  | nil => rfl
  | cons sample samples ih =>
      rw [List.map_cons, Document.jsonItems, samplesOfItems?, ih]
      rfl

/-! ## Definitions -/

namespace Definition

/-- **A definition that was written is read again.** -/
theorem reads_document (definition : Definition) :
    decoder.Reads definition.document definition := by
  intro context hfits
  have hlocale : (Decoder.optional Decoder.string).Reads (.optional .string definition.locale)
      definition.locale := Decoder.reads_optional Decoder.reads_string (fun _ => nofun) _
  have hskillId : (Decoder.optional Decoder.string).Reads (.optional .string definition.skillId)
      definition.skillId := Decoder.reads_optional Decoder.reads_string (fun _ => nofun) _
  have hleast : (Decoder.optional Decoder.count).Reads
      (.optional (fun n => .natural n.toNat) definition.leastUtterances)
      definition.leastUtterances := Decoder.reads_optional Decoder.reads_count (fun _ => nofun) _
  have hinvocations : (Decoder.list Invocation.decoder).Reads
      (.list (definition.invocations.map Invocation.document)) definition.invocations :=
    Decoder.reads_list fun invocation _ => invocation.reads_document
  have hintents : (Decoder.list Intent.decoder).Reads
      (.list (definition.intents.map Intent.document)) definition.intents :=
    Decoder.reads_list fun intent _ => intent.reads_document
  have hslots : (Decoder.dict SlotValues.decoder).Reads
      (.object (definition.slots.map SlotValues.document).entries) definition.slots :=
    Decoder.reads_dict fun slot _ => slot.2.reads_document
  have hutterances : (Decoder.dict samplesDecoder).Reads
      (.object (definition.utterances.map Document.texts).entries) definition.utterances :=
    Decoder.reads_dict fun entry _ => Decoder.reads_oneOf (samples?_texts entry.2)
  have hothers := Decoder.reads_documents definition.others
  obtain ⟨fields, hfields, hholds⟩ := recordType.fieldsOf_record (by simp) (by
    simp only [List.forall_mem_cons]
    exact ⟨accepts_of_reads hlocale rfl, accepts_of_reads hskillId rfl,
      accepts_of_reads hleast rfl, accepts_of_reads hinvocations rfl,
      accepts_of_reads hintents rfl, accepts_of_reads hslots rfl,
      accepts_of_reads hutterances rfl, accepts_of_reads hothers rfl,
      List.forall_mem_nil _⟩) hfits
  simp only [List.forall_mem_cons] at hholds
  obtain ⟨hholdsLocale, hholdsSkillId, hholdsLeast, hholdsInvocations, hholdsIntents, hholdsSlots,
    hholdsUtterances, hholdsOthers, -⟩ := hholds
  rw [decoder, document, hfields]
  show (fields.getD "locale" _ _ >>= _) = _
  simp only [hholdsLocale.getD hlocale, hholdsSkillId.getD hskillId, hholdsLeast.getD hleast,
    hholdsInvocations.getD hinvocations, hholdsIntents.getD hintents, hholdsSlots.getD hslots,
    hholdsUtterances.getD hutterances, hholdsOthers.getD hothers]
  rfl

end Definition

/-! ## How deep written definitions nest -/

variable {room : Option Nat}

theorem Slot.fits_document (slot : Slot) (h : HasRoom room 2) : slot.document.Fits room := by
  have hinner : HasRoom (roomInside room) 1 := hasRoom_roomInside_iff.2 h
  have htext : HasRoom (roomInside room) 0 := hinner.mono (by decide)
  refine Document.fits_record (h.mono (by decide)) ?_
  simp only [List.forall_mem_cons]
  exact ⟨⟨trivial, htext⟩, ⟨trivial, htext⟩, Document.fits_texts _ hinner, List.forall_mem_nil _⟩

theorem Intent.fits_document (intent : Intent) (h : HasRoom room 4) :
    intent.document.Fits room := by
  have hinner : HasRoom (roomInside room) 3 := hasRoom_roomInside_iff.2 h
  have htexts : HasRoom (roomInside room) 1 := hinner.mono (by decide)
  have htext : HasRoom (roomInside room) 0 := hinner.mono (by decide)
  refine Document.fits_record (h.mono (by decide)) ?_
  simp only [List.forall_mem_cons]
  refine ⟨⟨trivial, htext⟩, Document.fits_texts _ htexts,
    Document.fits_texts _ htexts, ?_, List.forall_mem_nil _⟩
  exact Document.fits_list_map htexts fun slot _ =>
    slot.fits_document (hasRoom_roomInside_iff.2 hinner)

theorem Invocation.fits_document (invocation : Invocation) (h : HasRoom room 1) :
    invocation.document.Fits room := by
  refine Document.fits_record h ?_
  simp only [List.forall_mem_cons]
  exact ⟨⟨trivial, hasRoom_roomInside_iff.2 h⟩, List.forall_mem_nil _⟩

theorem SlotValues.fits_document (values : SlotValues) (h : HasRoom room 3) :
    values.document.Fits room := by
  have hinner : HasRoom (roomInside room) 2 := hasRoom_roomInside_iff.2 h
  have htexts : HasRoom (roomInside (roomInside room)) 1 := hasRoom_roomInside_iff.2 hinner
  have htext : HasRoom (roomInside (roomInside room)) 0 := htexts.mono (by decide)
  refine Document.fits_list_map (h.mono (by decide)) fun entry _ => ?_
  refine Document.fits_record (hinner.mono (by decide)) ?_
  simp only [List.forall_mem_cons]
  exact ⟨⟨trivial, htext⟩, Document.fits_texts _ htexts, List.forall_mem_nil _⟩

/-- A written definition fits if its free content does: nothing else in it nests deeper than six
levels. -/
theorem Definition.fits_document {definition : Definition} (h : HasRoom room 6)
    (hothers : (Document.object definition.others.entries).Fits (roomInside room)) :
    definition.document.Fits room := by
  have hinner : HasRoom (roomInside room) 5 := hasRoom_roomInside_iff.2 h
  have hitems : HasRoom (roomInside (roomInside room)) 4 := hasRoom_roomInside_iff.2 hinner
  have htext : HasRoom (roomInside room) 0 := hinner.mono (by decide)
  have hlevel : HasRoom (roomInside room) 1 := hinner.mono (by decide)
  refine Document.fits_record (h.mono (by decide)) ?_
  simp only [List.forall_mem_cons]
  refine ⟨?_, ?_, ?_, ?_, ?_, ?_, ?_, hothers, List.forall_mem_nil _⟩
  · exact Document.fits_optional htext fun _ => ⟨trivial, htext⟩
  · exact Document.fits_optional htext fun _ => ⟨trivial, htext⟩
  · exact Document.fits_optional htext fun _ => ⟨trivial, htext⟩
  · exact Document.fits_list_map hlevel fun invocation _ =>
      invocation.fits_document (hitems.mono (by decide))
  · exact Document.fits_list_map hlevel fun intent _ => intent.fits_document hitems
  · exact Document.fits_dict hlevel fun slot _ => slot.2.fits_document (hitems.mono (by decide))
  · exact Document.fits_dict hlevel fun entry _ =>
      Document.fits_texts entry.2 (hitems.mono (by decide))

/-! ## Numbers in written definitions -/

theorem Slot.numbersReadBack_document (slot : Slot) : slot.document.NumbersReadBack := by
  refine Document.numbersReadBack_record ?_
  simp only [List.forall_mem_cons]
  exact ⟨Document.numbersReadBack_string _, Document.numbersReadBack_string _,
    Document.numbersReadBack_texts _, List.forall_mem_nil _⟩

theorem Intent.numbersReadBack_document (intent : Intent) :
    intent.document.NumbersReadBack := by
  refine Document.numbersReadBack_record ?_
  simp only [List.forall_mem_cons]
  exact ⟨Document.numbersReadBack_string _, Document.numbersReadBack_texts _,
    Document.numbersReadBack_texts _,
    Document.numbersReadBack_list_map fun slot _ => slot.numbersReadBack_document,
    List.forall_mem_nil _⟩

theorem Invocation.numbersReadBack_document (invocation : Invocation) :
    invocation.document.NumbersReadBack := by
  refine Document.numbersReadBack_record ?_
  simp only [List.forall_mem_cons]
  exact ⟨Document.numbersReadBack_string _, List.forall_mem_nil _⟩

theorem SlotValues.numbersReadBack_document (values : SlotValues) :
    values.document.NumbersReadBack := by
  refine Document.numbersReadBack_list_map fun entry _ => Document.numbersReadBack_record ?_
  simp only [List.forall_mem_cons]
  exact ⟨Document.numbersReadBack_string _, Document.numbersReadBack_texts _,
    List.forall_mem_nil _⟩

/-- Apart from a count of 64 bits, the numbers of a definition are those of its free content. -/
theorem Definition.numbersReadBack_document {definition : Definition}
    (h : (Document.object definition.others.entries).NumbersReadBack) :
    definition.document.NumbersReadBack := by
  refine Document.numbersReadBack_record ?_
  simp only [List.forall_mem_cons]
  refine ⟨?_, ?_, ?_, ?_, ?_, ?_, ?_, h, List.forall_mem_nil _⟩
  · exact Document.numbersReadBack_optional Document.numbersReadBack_string
  · exact Document.numbersReadBack_optional Document.numbersReadBack_string
  · refine Document.numbersReadBack_optional fun n k hk => ?_
    have hn : n.toNat < 2 ^ 64 := n.toNat_lt
    rw [List.mem_singleton.1 hk]
    exact Number.readsBack_integer (by omega) (by omega)
  · exact Document.numbersReadBack_list_map fun invocation _ =>
      invocation.numbersReadBack_document
  · exact Document.numbersReadBack_list_map fun intent _ => intent.numbersReadBack_document
  · exact Document.numbersReadBack_dict fun slot _ => slot.2.numbersReadBack_document
  · exact Document.numbersReadBack_dict fun entry _ => Document.numbersReadBack_texts entry.2

/-! ## Definitions that have been read -/

/-- **The free content of a definition that has been read fits one level deeper.** -/
theorem Definition.fits_others {definition : Definition} {context : Context} {json : Json}
    (hroom : HasRoom context.room 2) (h : Definition.decoder context json = .ok definition) :
    (Document.object definition.others.entries).Fits (roomInside context.room) := by
  simp only [Definition.decoder, except_bind_eq_ok_iff] at h
  obtain ⟨fields, hfields, locale, -, skillId, -, least, -, invocations, -, intents, -, slots, -,
    utterances, -, others, hothers, h⟩ := h
  cases h
  have hcontext : fields.context.room = roomInside context.room :=
    congrArg Context.room (RecordType.context_of_fieldsOf hfields)
  rw [← hcontext]
  rcases Fields.of_getD hothers with rfl | ⟨value, hvalue⟩
  · have hinner : HasRoom fields.context.room 1 := by
      rw [hcontext]
      exact hasRoom_roomInside_iff.2 hroom
    exact Document.fits_object_iff.2 ⟨hinner, .nil, List.forall_mem_nil _⟩
  · exact Decoder.fits_of_dict hvalue

end VoiceSkill
