import VoiceSkill.Proofs.Json.Written

/-!
# Decoding what was written

A decoder reads a value from a document (`Decoder.Reads`) if it gives the value wherever the
document fits. Lists, options and dictionaries are read if what is in them is. In a record every
member is found under its key, if the keys are those of fields and the values pass the checks of
these (`RecordType.fieldsOf_record`).
-/

namespace VoiceSkill

/-- The circumstances inside of a list or an object. -/
def Context.inside (context : Context) : Context :=
  { context with room := roomInside context.room }

theorem Context.enter_eq_ok_iff {context inner : Context} :
    context.enter = .ok inner ↔ HasRoom context.room 1 ∧ inner = context.inside := by
  rw [enter]
  cases henter : Json.enter context.room with
  | error cause =>
      have hroom : ¬ HasRoom context.room 1 := fun h => by
        rw [VoiceSkill.enter_eq_ok_iff.2 ⟨h, rfl⟩] at henter
        cases henter
      simp [hroom]
  | ok room =>
      obtain ⟨hroom, rfl⟩ := VoiceSkill.enter_eq_ok_iff.1 henter
      simp [hroom, inside, eq_comm]

theorem Context.enter_of_hasRoom {context : Context} (h : HasRoom context.room 1) :
    context.enter = .ok context.inside := enter_eq_ok_iff.2 ⟨h, rfl⟩

namespace Decoder

variable {α : Type} {decoder : Decoder α}

/-- The decoder gives a value for a document, wherever the document fits. -/
def Reads (decoder : Decoder α) (document : Document) (a : α) : Prop :=
  ∀ context : Context, document.Fits context.room → decoder context document.json = .ok a

theorem reads_string (s : String) : Decoder.string.Reads (.string s) s := fun _ _ => rfl

theorem below_natural {n bound : Nat} (h : n < bound) (type : String) (context : Context) :
    below bound type context (Document.natural n).json = .ok n := by
  show (if 0 ≤ (n : Int) && (n : Int) < bound then Except.ok (n : Int).toNat else _) = _
  rw [if_pos (by simpa using h), Int.toNat_natCast]

theorem reads_count (n : UInt64) : count.Reads (.natural n.toNat) n := by
  intro context _
  rw [count, below_natural n.toNat_lt]
  exact congrArg Except.ok (UInt64.ofNat_toNat (x := n))

theorem reads_document (d : Document) : Decoder.document.Reads d d :=
  fun _ h => document_eq_ok_iff.2 (Document.document_json h)

theorem optional_of_ne_null {json : Json} (h : json ≠ .null) (context : Context) :
    optional decoder context json = (decoder context json).map some := by
  rw [optional]
  exact h

theorem reads_optional {write : α → Document} (h : ∀ a, decoder.Reads (write a) a)
    (hnull : ∀ a, (write a).json ≠ .null) (x : Option α) :
    (optional decoder).Reads (.optional write x) x := by
  intro context hfits
  cases x with
  | none => rfl
  | some a =>
      have hread : decoder context (write a).json = .ok a := h a context hfits
      rw [Document.optional, optional_of_ne_null (hnull a), hread]
      rfl

theorem items_map {write : α → Document} (context : Context) {as : List α}
    (h : ∀ a ∈ as, decoder context (write a).json = .ok a) :
    items decoder context (Document.jsonItems (as.map write)) = .ok as := by
  induction as with
  | nil => rfl
  | cons a as ih =>
      obtain ⟨ha, has⟩ := List.forall_mem_cons.1 h
      rw [List.map_cons, Document.jsonItems, items, ha, ih has]
      rfl

theorem reads_list {write : α → Document} {as : List α} (h : ∀ a ∈ as, decoder.Reads (write a) a) :
    (list decoder).Reads (.list (as.map write)) as := by
  intro context hfits
  obtain ⟨hroom, hitems⟩ := Document.fits_list_iff.1 hfits
  have hread := items_map context.inside fun a ha =>
    h a ha context.inside (hitems (write a) (List.mem_map_of_mem ha))
  rw [Document.json, list, Context.enter_of_hasRoom hroom]
  exact hread

theorem reads_texts (texts : List String) : (list Decoder.string).Reads (.texts texts) texts :=
  reads_list fun s _ => reads_string s

theorem members_map {write : α → Document} (context : Context) {entries : List (String × α)}
    (h : ∀ e ∈ entries, decoder context (write e.2).json = .ok e.2) (read : Dict α) :
    members decoder context read
        (Document.jsonMembers (entries.map fun e => (e.1, write e.2))) =
      .ok (entries.foldl (fun d e => d.insert e.1 e.2) read) := by
  induction entries generalizing read with
  | nil => rfl
  | cons e entries ih =>
      obtain ⟨he, hentries⟩ := List.forall_mem_cons.1 h
      rw [List.map_cons, Document.jsonMembers, members, he]
      exact ih hentries _

theorem reads_dict {write : α → Document} {d : Dict α}
    (h : ∀ e ∈ d.entries, decoder.Reads (write e.2) e.2) :
    (dict decoder).Reads (.object (d.map write).entries) d := by
  intro context hfits
  obtain ⟨hroom, -, hmembers⟩ := Document.fits_object_iff.1 hfits
  have hread := members_map context.inside (fun e he =>
    h e he context.inside (hmembers (e.1, write e.2) (List.mem_map_of_mem he))) .empty
  rw [Document.json, dict, Context.enter_of_hasRoom hroom]
  exact hread.trans (congrArg Except.ok d.ofList_entries)

/-- A dictionary of documents is read as it is. -/
theorem reads_documents (d : Dict Document) :
    (dict Decoder.document).Reads (.object d.entries) d := by
  have hread : (dict Decoder.document).Reads (.object (d.map id).entries) d :=
    reads_dict fun e _ => reads_document e.2
  have hid : (d.map id).entries = d.entries := List.map_id d.entries
  rwa [hid] at hread

theorem reads_oneOf {type : String} {form : Json → Option α} {document : Document} {a : α}
    (h : form document.json = some a) : (oneOf type form).Reads document a := by
  intro context hfits
  rw [oneOf, reads_document document context hfits]
  simp only [h]
  rfl

end Decoder

/-! ## Records -/

/-- The fields found in a record give what a decoder reads from the document under a key. -/
def Fields.Holds (fields : Fields) (key : String) (document : Document) : Prop :=
  ∀ {α : Type} {decoder : Decoder α} {a : α}, decoder.Reads document a →
    fields.get? key decoder = .ok (some a)

theorem Fields.Holds.get {fields : Fields} {key : String} {document : Document}
    (h : fields.Holds key document) {α : Type} {decoder : Decoder α} {a : α}
    (hread : decoder.Reads document a) : fields.get key decoder = .ok a := by
  rw [Fields.get, h hread]
  rfl

theorem Fields.Holds.getD {fields : Fields} {key : String} {document : Document}
    (h : fields.Holds key document) {α : Type} {decoder : Decoder α} {a : α}
    (hread : decoder.Reads document a) (default : α) :
    fields.getD key decoder default = .ok a := by
  rw [Fields.getD, h hread]
  rfl

namespace RecordType

variable {type : RecordType}

/-- A document may stand under a key: the key is that of a field, and the document passes its
check. -/
def Admits (type : RecordType) (context : Context) (key : String) (document : Document) : Prop :=
  ∃ f, (type.fields.find? fun f => f.key == key) = some f ∧ f.check context document.json = .ok ()

/-- A document may stand under a key wherever it fits. -/
def Accepts (type : RecordType) (key : String) (document : Document) : Prop :=
  ∀ context : Context, document.Fits context.room → type.Admits context key document

/-- What the decoder of a field takes may stand under its key. -/
theorem admits_of_decoder {context : Context} {key : String} {absence : Absence} {α : Type}
    {decoder : Decoder α} {document : Document} {a : α}
    (h : decoder context document.json = .ok a)
    (hfield : (type.fields.find? fun f => f.key == key) = some (field key absence decoder)) :
    type.Admits context key document := by
  refine ⟨_, hfield, ?_⟩
  show (decoder context document.json).map _ = _
  rw [h]
  rfl

/-- What the decoder of a field reads may stand under its key. -/
theorem accepts_of_reads {key : String} {absence : Absence} {α : Type} {decoder : Decoder α}
    {document : Document} {a : α} (hread : decoder.Reads document a)
    (hfield : (type.fields.find? fun f => f.key == key) = some (field key absence decoder)) :
    type.Accepts key document :=
  fun context hfits => admits_of_decoder (hread context hfits) hfield

/-- Members that may stand under their keys all pass the check. -/
theorem checkMembers_jsonMembers {context : Context} {seen : List String}
    {members : List (String × Document)} (hkeys : (members.map Prod.fst).Nodup)
    (hseen : ∀ member ∈ members, member.1 ∉ seen)
    (hadmits : ∀ member ∈ members, type.Admits context member.1 member.2) :
    type.checkMembers context seen (Document.jsonMembers members) =
      .ok (members.map fun member => (member.1, member.2.json)) := by
  induction members generalizing seen with
  | nil => rfl
  | cons member members ih =>
      obtain ⟨hkey, hkeys⟩ := List.nodup_cons.1 hkeys
      obtain ⟨hfirst, hseen⟩ := List.forall_mem_cons.1 hseen
      obtain ⟨⟨f, hfind, hcheck⟩, hadmits⟩ := List.forall_mem_cons.1 hadmits
      have hnew : ¬ seen.contains member.1 = true := by simpa using hfirst
      have hnext : ∀ other ∈ members, other.1 ∉ member.1 :: seen := by
        intro other hother
        rw [List.mem_cons, not_or]
        exact ⟨fun heq => hkey (heq ▸ List.mem_map_of_mem hother), hseen other hother⟩
      have hrest := ih hkeys hnext hadmits
      rw [Document.jsonMembers, checkMembers]
      simp only [hfind, if_neg hnew, hcheck, List.map_cons]
      show (type.checkMembers context (member.1 :: seen) (Document.jsonMembers members) >>= _) = _
      rw [hrest]
      rfl

/-- In an object all members are found that may stand under their keys, in their order. -/
theorem fieldsOf_object {context : Context} {members : List (String × Document)}
    (hkeys : (members.map Prod.fst).Nodup) (hroom : HasRoom context.room 1)
    (hadmits : ∀ member ∈ members, type.Admits context.inside member.1 member.2) :
    type.fieldsOf context (Document.object members).json =
      .ok ⟨context.inside, members.map fun member => (member.1, member.2.json)⟩ := by
  have hnone : ∀ member ∈ members, member.1 ∉ ([] : List String) := by simp
  have hcheck := checkMembers_jsonMembers hkeys hnone hadmits
  rw [Document.json, fieldsOf, Context.enter_of_hasRoom hroom]
  show (type.checkMembers context.inside [] _ >>= _) = _
  rw [hcheck]
  rfl

/-- **The members of a written record are all found.** -/
theorem fieldsOf_record (type : RecordType) {members : List (String × Document)}
    (hkeys : (members.map Prod.fst).Nodup)
    (haccepts : ∀ member ∈ members, type.Accepts member.1 member.2) {context : Context}
    (hfits : (Document.record members).Fits context.room) :
    ∃ fields, type.fieldsOf context (Document.record members).json = .ok fields ∧
      ∀ member ∈ members, fields.Holds member.1 member.2 := by
  let values := (Dict.ofList members).entries.map fun entry => (entry.1, entry.2.json)
  obtain ⟨hroom, hincrease, hvalues⟩ := Document.fits_object_iff.1 hfits
  have hentries : ((Dict.ofList members).entries.map Prod.fst).Nodup :=
    (Dict.ofList members).nodup_keys
  have hadmits : ∀ entry ∈ (Dict.ofList members).entries,
      type.Admits context.inside entry.1 entry.2 := fun entry hentry =>
    haccepts entry (Dict.mem_of_mem_ofList hentry) context.inside (hvalues entry hentry)
  refine ⟨⟨context.inside, values⟩, fieldsOf_object hentries hroom hadmits, ?_⟩
  intro member hmember α decoder a hread
  have hfind := Dict.find?_ofList_of_mem hkeys hmember
  have hvalue := hvalues member (List.mem_of_find?_eq_some hfind)
  have hlookup : (values.find? fun value => value.1 == member.1) =
      some (member.1, member.2.json) := by
    rw [List.find?_map]
    exact congrArg (Option.map _) hfind
  rw [Fields.get?, hlookup]
  simp only [hread context.inside hvalue]
  rfl

end RecordType

/-! ## What decoding gives -/

/-- The fields of a record, written as an object or as a list, lie inside of it. -/
theorem RecordType.context_of_fieldsOf {type : RecordType} {context : Context} {json : Json}
    {fields : Fields} (h : type.fieldsOf context json = .ok fields) :
    fields.context = context.inside := by
  cases json with
  | object members =>
      obtain ⟨inner, hinner, h⟩ := except_bind_eq_ok_iff.1 h
      obtain ⟨values, -, h⟩ := except_bind_eq_ok_iff.1 h
      cases h
      exact (Context.enter_eq_ok_iff.1 hinner).2
  | list items =>
      obtain ⟨inner, hinner, h⟩ := except_bind_eq_ok_iff.1 h
      obtain ⟨values, -, h⟩ := except_bind_eq_ok_iff.1 h
      cases h
      exact (Context.enter_eq_ok_iff.1 hinner).2
  | _ => cases h

/-- Documents that have been read one after the other all fit. -/
theorem Decoder.fits_of_members {context : Context} (hroom : HasRoom context.room 0)
    {members : List (Except Malformed String × Json)} {read result : Dict Document}
    (hread : ∀ e ∈ read.entries, e.2.Fits context.room)
    (h : Decoder.members Decoder.document context read members = .ok result) :
    ∀ e ∈ result.entries, e.2.Fits context.room := by
  induction members generalizing read with
  | nil =>
      cases h
      exact hread
  | cons member members ih =>
      obtain ⟨key, json⟩ := member
      cases key with
      | error cause => cases h
      | ok key =>
          obtain ⟨d, hd, h⟩ := except_bind_eq_ok_iff.1 h
          have hfits := Json.fits_of_document hroom (Decoder.document_eq_ok_iff.1 hd)
          exact ih (Json.forall_mem_insert hread key hfits) h

/-- A dictionary of documents that has been read fits as an object. -/
theorem Decoder.fits_of_dict {context : Context} {json : Json} {d : Dict Document}
    (h : Decoder.dict Decoder.document context json = .ok d) :
    (Document.object d.entries).Fits context.room := by
  cases json with
  | object members =>
      obtain ⟨inner, hinner, h⟩ := except_bind_eq_ok_iff.1 h
      obtain ⟨hroom, rfl⟩ := Context.enter_eq_ok_iff.1 hinner
      have hlevel : HasRoom context.inside.room 0 := hasRoom_roomInside_iff.2 hroom
      have hentries := Decoder.fits_of_members hlevel (List.forall_mem_nil _) h
      exact Document.fits_object_iff.2 ⟨hroom, d.keysIncrease, hentries⟩
  | _ => cases h

/-- A field that may be absent holds what its decoder gives, or what stands in for it. -/
theorem Fields.of_getD {α : Type} {fields : Fields} {key : String} {decoder : Decoder α}
    {default a : α} (h : fields.getD key decoder default = .ok a) :
    a = default ∨ ∃ json, decoder fields.context json = .ok a := by
  obtain ⟨found, hfound, h⟩ := except_bind_eq_ok_iff.1 h
  cases h
  rw [Fields.get?] at hfound
  split at hfound
  · cases hfound
    exact .inl rfl
  · rename_i value _
    obtain ⟨a, ha, rfl⟩ := except_map_eq_ok_iff.1 hfound
    exact .inr ⟨value.2, ha⟩

end VoiceSkill
