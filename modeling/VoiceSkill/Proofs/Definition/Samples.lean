import VoiceSkill.Definition
import VoiceSkill.Proofs.Json.Records
import VoiceSkill.Proofs.Json.Values

/-!
# Samples in definitions

The samples of an intent are read from texts, nulls and lists, nested at will, as the texts among
them from left to right (`samples?_eq_some_iff`). A definition is read with the samples that are
given in it, and not at all if anything else is among them (`Definition.samples_read`).
-/

namespace VoiceSkill

/-- Samples are given as texts, nulls, and lists of these. -/
def isSamplePart : Json → Bool
  | .string _ => true
  | .null => true
  | .list _ => true
  | _ => false

/-- The texts in a value, from left to right. -/
def Json.textsIn (json : Json) : List String := json.values.filterMap SlotValues.string?

theorem Json.textsIn_list (items : List Json) :
    (Json.list items).textsIn = items.flatMap Json.textsIn := by
  have hself : SlotValues.string? (.list items) = none := rfl
  rw [textsIn, values_list, List.filterMap_cons_none hself, List.filterMap_flatMap]
  rfl

/-! ## Nested samples -/

theorem samplesOfItems?_cons_eq_some_iff {item : Json} {items : List Json}
    {samples : List String} :
    samplesOfItems? (item :: items) = some samples ↔
      ∃ first rest, samples? item = some first ∧ samplesOfItems? items = some rest ∧
        first ++ rest = samples := by
  rw [samplesOfItems?]
  cases samples? item with
  | none => simp
  | some first => cases samplesOfItems? items <;> simp

/-- What holds of the items of a list, one by one, holds of the list. -/
theorem samplesOfItems?_eq_some_iff {items : List Json} {samples : List String}
    (h : ∀ item ∈ items, ∀ part, samples? item = some part ↔
      (∀ value ∈ item.values, isSamplePart value = true) ∧ part = item.textsIn) :
    samplesOfItems? items = some samples ↔
      (∀ item ∈ items, ∀ value ∈ item.values, isSamplePart value = true) ∧
        samples = items.flatMap Json.textsIn := by
  induction items generalizing samples with
  | nil =>
      rw [samplesOfItems?, Option.some.injEq, eq_comm]
      simp
  | cons item items ih =>
      obtain ⟨hitem, hitems⟩ := List.forall_mem_cons.1 h
      rw [samplesOfItems?_cons_eq_some_iff, List.forall_mem_cons, List.flatMap_cons]
      constructor
      · rintro ⟨first, rest, hfirst, hrest, rfl⟩
        obtain ⟨hparts, rfl⟩ := (hitem first).1 hfirst
        obtain ⟨hmore, rfl⟩ := (ih hitems).1 hrest
        exact ⟨⟨hparts, hmore⟩, rfl⟩
      · rintro ⟨⟨hparts, hmore⟩, rfl⟩
        exact ⟨_, _, (hitem _).2 ⟨hparts, rfl⟩, (ih hitems).2 ⟨hmore, rfl⟩, rfl⟩

/-- **Samples are the texts in a value that has nothing else in it than nulls and lists.** -/
theorem samples?_eq_some_iff {json : Json} {samples : List String} :
    samples? json = some samples ↔
      (∀ value ∈ json.values, isSamplePart value = true) ∧ samples = json.textsIn := by
  have hleaf {json : Json} (hread : samples? json = some json.textsIn)
      (hparts : ∀ value ∈ json.values, isSamplePart value = true) (samples : List String) :
      samples? json = some samples ↔
        (∀ value ∈ json.values, isSamplePart value = true) ∧ samples = json.textsIn := by
    rw [hread, and_iff_right hparts, Option.some.injEq, eq_comm]
  have hrefused {json : Json} (hread : samples? json = none) (hself : json ∈ json.values)
      (hpart : isSamplePart json = false) (samples : List String) :
      samples? json = some samples ↔
        (∀ value ∈ json.values, isSamplePart value = true) ∧ samples = json.textsIn := by
    rw [hread]
    refine iff_of_false nofun fun h => ?_
    rw [h.1 json hself] at hpart
    cases hpart
  induction json using Json.induction generalizing samples with
  | null => exact hleaf rfl (by decide) samples
  | string s => exact hleaf rfl (fun _ h => by rw [List.mem_singleton.1 h]; rfl) samples
  | list items ih =>
      rw [samples?, samplesOfItems?_eq_some_iff fun item hitem _ => ih item hitem,
        Json.textsIn_list, Json.values_list, List.forall_mem_cons, List.forall_mem_flatMap]
      simp [isSamplePart]
  | bool b => exact hrefused rfl List.mem_cons_self rfl samples
  | number n => exact hrefused rfl List.mem_cons_self rfl samples
  | flawed flaw => exact hrefused rfl List.mem_cons_self rfl samples
  | missing cause => exact hrefused rfl List.mem_cons_self rfl samples
  | object members => exact hrefused rfl (by simp [Json.values]) rfl samples

example : samples? (.list [.string "fly", .null, .string "", .list [.string "go", .list []]]) =
    some ["fly", "", "go"] := by decide

/-! ## Samples by intent -/

/-- Samples are given for intents: every member has a key, and nothing but samples under it. -/
def GivesSamples (members : List (Except Malformed String × Json)) : Prop :=
  ∀ member ∈ members, (∃ intent, member.1 = .ok intent) ∧
    ∀ value ∈ member.2.values, isSamplePart value = true

/-- The samples that an object gives for an intent; of several members with its name the last
stands. -/
def samplesGiven (members : List (Except Malformed String × Json)) (intent : String) :
    Option (List String) :=
  (SlotValues.valuesOf intent members).getLast?.map Json.textsIn

theorem isWhole_of_isSamplePart {json : Json} (h : isSamplePart json = true) :
    json.isWhole = true := by
  cases json with
  | object members => cases h
  | flawed flaw => cases h
  | missing cause => cases h
  | _ => rfl

theorem samplesDecoder_eq_ok_iff {context : Context} {json : Json} {samples : List String} :
    Definition.samplesDecoder context json = .ok samples ↔
      json.NestsWithin context.room ∧ (∀ value ∈ json.values, isSamplePart value = true) ∧
        samples = json.textsIn := by
  rw [Definition.samplesDecoder, Decoder.oneOf_eq_ok_iff, samples?_eq_some_iff]
  constructor
  · rintro ⟨⟨-, hnests⟩, h⟩
    exact ⟨hnests, h⟩
  · rintro ⟨hnests, hparts, h⟩
    exact ⟨⟨fun value hvalue => isWhole_of_isSamplePart (hparts value hvalue), hnests⟩, hparts, h⟩

/-- The last entry under a key comes from the last member with this key. -/
theorem get?_ofList_of_forall₂ {members : List (Except Malformed String × Json)}
    {entries : List (String × List String)}
    (h : List.Forall₂ (fun member entry => member.1 = .ok entry.1 ∧ entry.2 = member.2.textsIn)
      members entries) (intent : String) :
    (Dict.ofList entries).get? intent = samplesGiven members intent := by
  rw [Dict.get?_ofList, samplesGiven, SlotValues.valuesOf, List.getLast?_filterMap]
  -- both look through the members from the last one on
  have hreverse := List.rel_reverse h
  generalize members.reverse = ms, entries.reverse = es at hreverse
  induction hreverse with
  | nil => rfl
  | @cons member entry ms es hentry _ ih =>
      obtain ⟨hkey, hvalue⟩ := hentry
      rw [List.find?_cons, List.findSome?_cons, hkey]
      by_cases hintent : entry.1 = intent
      · simp [hintent, hvalue]
      · simp only [beq_false_of_ne hintent, Bool.false_eq_true, if_false]
        exact ih

theorem exists_forall₂ {α β : Type} {R : α → β → Prop} {as : List α} (h : ∀ a ∈ as, ∃ b, R a b) :
    ∃ bs, List.Forall₂ R as bs := by
  induction as with
  | nil => exact ⟨[], .nil⟩
  | cons a as ih =>
      obtain ⟨⟨b, hb⟩, has⟩ := List.forall_mem_cons.1 h
      obtain ⟨bs, hbs⟩ := ih has
      exact ⟨b :: bs, .cons hb hbs⟩

/-- **The samples of all intents are read from an object that gives nothing but samples.** -/
theorem dict_samplesDecoder_eq_ok_iff {context : Context} {json : Json}
    {utterances : Dict (List String)} :
    Decoder.dict Definition.samplesDecoder context json = .ok utterances ↔
      ∃ members, json = .object members ∧ json.NestsWithin context.room ∧ GivesSamples members ∧
        ∀ intent, utterances.get? intent = samplesGiven members intent := by
  have hmember {member : Except Malformed String × Json} {entry : String × List String} :
      (member.1 = .ok entry.1 ∧
          Definition.samplesDecoder context.inside member.2 = .ok entry.2) ↔
        (member.2.NestsWithin (roomInside context.room) ∧
          (∃ intent, member.1 = .ok intent) ∧
            ∀ value ∈ member.2.values, isSamplePart value = true) ∧
        member.1 = .ok entry.1 ∧ entry.2 = member.2.textsIn := by
    rw [samplesDecoder_eq_ok_iff]
    exact ⟨fun ⟨hkey, hnests, hparts, h⟩ => ⟨⟨hnests, ⟨_, hkey⟩, hparts⟩, hkey, h⟩,
      fun ⟨⟨hnests, _, hparts⟩, hkey, h⟩ => ⟨hkey, hnests, hparts, h⟩⟩
  rw [Decoder.dict_eq_ok_iff]
  simp only [hmember, List.forall₂_and_left]
  constructor
  · rintro ⟨members, rfl, hroom, entries, ⟨hmembers, hentries⟩, rfl⟩
    refine ⟨members, rfl, Json.nestsWithin_object_iff.2 ⟨hroom, fun m hm => (hmembers m hm).1⟩,
      fun m hm => (hmembers m hm).2, get?_ofList_of_forall₂ hentries⟩
  · rintro ⟨members, rfl, hnests, hgives, hutterances⟩
    obtain ⟨hroom, hinner⟩ := Json.nestsWithin_object_iff.1 hnests
    have hentry : ∀ m ∈ members, ∃ entry : String × List String,
        m.1 = .ok entry.1 ∧ entry.2 = m.2.textsIn := by
      intro m hm
      obtain ⟨intent, hintent⟩ := (hgives m hm).1
      exact ⟨(intent, m.2.textsIn), hintent, rfl⟩
    obtain ⟨entries, hentries⟩ := exists_forall₂ hentry
    refine ⟨members, rfl, hroom, entries,
      ⟨fun m hm => ⟨hinner m hm, hgives m hm⟩, hentries⟩, Dict.ext_get? fun intent => ?_⟩
    rw [hutterances, get?_ofList_of_forall₂ hentries]

/-! ## Definitions around their samples -/

namespace Definition

/-- A definition with a place left for its samples: an object with other members in front of them
and behind, or a list with the six fields that come before. -/
inductive SamplesFrame where
  | members (front back : List (Except Malformed String × Json))
  | items (locale skillId leastUtterances invocations intents slots : Json) (back : List Json)

/-- The definition as a record around the field of its samples. -/
def SamplesFrame.record : SamplesFrame → RecordFrame
  | .members front back => .members front back
  | .items locale skillId leastUtterances invocations intents slots back =>
      .items [locale, skillId, leastUtterances, invocations, intents, slots] back

/-- The definition with its samples in their place. -/
def SamplesFrame.put (frame : SamplesFrame) (json : Json) : Json :=
  frame.record.put "utterances" json

/-- The field of the samples. -/
def samplesField : Field := field "utterances" .filled (Decoder.dict samplesDecoder)

theorem hasPlace_samplesField (frame : SamplesFrame) :
    recordType.HasPlace samplesField frame.record := by
  cases frame <;> rfl

/-- What is read of a definition besides its samples. -/
def ofOtherFields (fields : Fields) : Except JsonError Definition := do
  return {
    locale := ← fields.getD "locale" (Decoder.optional Decoder.string) none
    skillId := ← fields.getD "skillId" (Decoder.optional Decoder.string) none
    leastUtterances := ← fields.getD "leastUtterances" (Decoder.optional Decoder.count) none
    invocations := ← fields.getD "invocations" (Decoder.list Invocation.decoder) []
    intents := ← fields.getD "intents" (Decoder.list Intent.decoder) []
    slots := ← fields.getD "slots" (Decoder.dict SlotValues.decoder) .empty
    utterances := .empty
    others := ← fields.getD "others" (Decoder.dict Decoder.document) .empty }

theorem check_samplesField_eq_ok_iff {context : Context} {json : Json} :
    samplesField.check context json = .ok () ↔
      ∃ utterances, Decoder.dict samplesDecoder context json = .ok utterances := by
  rw [samplesField, field, except_map_eq_ok_iff]
  simp

/-- A definition is read as the parts around the samples and the samples themselves. -/
theorem decoder_put_eq_ok_iff {context : Context} {frame : SamplesFrame} {json : Json}
    {definition : Definition} :
    decoder context (frame.put json) = .ok definition ↔
      HasRoom context.room 1 ∧ ∃ first second rest utterances,
        recordType.Leaves context.inside samplesField first second frame.record ∧
          ofOtherFields ⟨context.inside, first ++ second⟩ = .ok rest ∧
          Decoder.dict samplesDecoder context.inside json = .ok utterances ∧
          definition = { rest with utterances } := by
  have hput {fields : Fields} :
      recordType.fieldsOf context (frame.put json) = .ok fields ↔
        HasRoom context.room 1 ∧ samplesField.check context.inside json = .ok () ∧
          ∃ first second, recordType.Leaves context.inside samplesField first second frame.record ∧
            fields = ⟨context.inside, first ++ ("utterances", json) :: second⟩ :=
    RecordType.fieldsOf_put_eq_ok_iff (hasPlace_samplesField frame)
  have hkey {first second : List (String × Json)}
      (hleaves : recordType.Leaves context.inside samplesField first second frame.record) :
      "utterances" ∉ first.map Prod.fst :=
    hleaves.key_not_mem (by decide) (hasPlace_samplesField frame)
  rw [decoder, except_bind_eq_ok_iff]
  constructor
  · rintro ⟨_, hfields, h⟩
    obtain ⟨hroom, -, first, second, hleaves, rfl⟩ := hput.1 hfields
    simp (disch := decide) only [except_bind_eq_ok_iff, Fields.getD_put_of_ne,
      Fields.getD_put_self (hkey hleaves)] at h
    obtain ⟨locale, hlocale, skillId, hskillId, least, hleast, invocations, hinvocations, intents,
      hintents, slots, hslots, utterances, hutterances, others, hothers, h⟩ := h
    cases h
    refine ⟨hroom, first, second,
      ⟨locale, skillId, least, invocations, intents, slots, .empty, others⟩, utterances, hleaves,
      ?_, hutterances, rfl⟩
    simp only [ofOtherFields, hlocale, hskillId, hleast, hinvocations, hintents, hslots, hothers]
    rfl
  · rintro ⟨hroom, first, second, rest, utterances, hleaves, hrest, hutterances, rfl⟩
    refine ⟨_, hput.2 ⟨hroom, check_samplesField_eq_ok_iff.2 ⟨utterances, hutterances⟩, first,
      second, hleaves, rfl⟩, ?_⟩
    simp only [ofOtherFields, except_bind_eq_ok_iff] at hrest
    obtain ⟨locale, hlocale, skillId, hskillId, least, hleast, invocations, hinvocations, intents,
      hintents, slots, hslots, others, hothers, hrest⟩ := hrest
    cases hrest
    simp (disch := decide) only [Fields.getD_put_of_ne, Fields.getD_put_self (hkey hleaves),
      hlocale, hskillId, hleast, hinvocations, hintents, hslots, hutterances, hothers]
    rfl

/-- No samples at all are read wherever others are. -/
theorem dict_samplesDecoder_nil {context : Context} {json : Json}
    {utterances : Dict (List String)}
    (h : Decoder.dict samplesDecoder context json = .ok utterances) :
    Decoder.dict samplesDecoder context (.object []) = .ok .empty := by
  obtain ⟨members, -, hroom, -⟩ := Decoder.dict_eq_ok_iff.1 h
  exact Decoder.dict_eq_ok_iff.2 ⟨[], rfl, hroom, [], .nil, rfl⟩

/-- A definition is another one with the samples that a value gives for intents: the value is an
object of texts, nulls and nested lists, and an intent has the texts in its last member. -/
def IsWithSamples (definition rest : Definition) (json : Json) : Prop :=
  ∃ members utterances, json = .object members ∧ GivesSamples members ∧
    (∀ intent, utterances.get? intent = samplesGiven members intent) ∧
    definition = { rest with utterances }

/-- **A definition is read with the samples that it gives.** Whatever else stands in it, it is read
exactly if it is read without samples and these are an object of texts, nulls and lists, nested at
will. In a text they may nest as deep as there is room for, like anything else. -/
theorem samples_read (frame : SamplesFrame) (json : Json) (definition : Definition) :
    (decoder .value (frame.put json) = .ok definition ↔
      ∃ rest, decoder .value (frame.put (.object [])) = .ok rest ∧
        definition.IsWithSamples rest json) ∧
    ∀ context : Context, decoder context (frame.put json) = .ok definition ↔
      json.NestsWithin (roomInside context.room) ∧
      ∃ rest, decoder context (frame.put (.object [])) = .ok rest ∧
        definition.IsWithSamples rest json := by
  have hread (context : Context) : decoder context (frame.put json) = .ok definition ↔
      json.NestsWithin (roomInside context.room) ∧
      ∃ rest, decoder context (frame.put (.object [])) = .ok rest ∧
        definition.IsWithSamples rest json := by
    rw [decoder_put_eq_ok_iff]
    constructor
    · rintro ⟨hroom, first, second, rest, utterances, hleaves, hrest, hutterances, rfl⟩
      have hwithout : decoder context (frame.put (.object [])) =
          .ok { rest with utterances := .empty } :=
        decoder_put_eq_ok_iff.2 ⟨hroom, first, second, rest, .empty, hleaves, hrest,
          dict_samplesDecoder_nil hutterances, rfl⟩
      obtain ⟨members, hjson, hnests, hgives, hget⟩ := dict_samplesDecoder_eq_ok_iff.1 hutterances
      exact ⟨hnests, _, hwithout, members, utterances, hjson, hgives, hget, rfl⟩
    · rintro ⟨hnests, _, hwithout, members, utterances, hjson, hgives, hget, rfl⟩
      obtain ⟨hroom, first, second, rest, _, hleaves, hrest, -, rfl⟩ :=
        decoder_put_eq_ok_iff.1 hwithout
      exact ⟨hroom, first, second, rest, utterances, hleaves, hrest,
        dict_samplesDecoder_eq_ok_iff.2 ⟨members, hjson, hnests, hgives, hget⟩, rfl⟩
  exact ⟨(hread .value).trans (and_iff_right json.nestsWithin_none), hread⟩

example :
    let frame := SamplesFrame.members [(.ok "locale", .string "en-US")] []
    let given := Json.object [(.ok "Fly", .number (.integer 7)), (.ok "Walk", .null),
      (.ok "Fly", .list [.string "fly", .null, .list [.list [], .string ""], .string "go"])]
    (decoder .value (frame.put given)).toOption.isNone = true := by decide

end Definition

end VoiceSkill
