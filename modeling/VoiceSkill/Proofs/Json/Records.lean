import VoiceSkill.Proofs.Json.Decoding

/-!
# One field of a record

A record is written around the value of one of its fields (`RecordFrame`), as an object or as a
list. What is found in it besides that value does not depend on the value, and the value is found
where it was put (`RecordType.fieldsOf_put_eq_ok_iff`).
-/

namespace VoiceSkill

/-- A record with a place left for the value of one field: what is written in front of the value and
behind it. -/
inductive RecordFrame where
  | members (front back : List (Except Malformed String × Json))
  | items (front back : List Json)

/-- The record with a value in its place. In an object it stands under the key of its field. -/
def RecordFrame.put (key : String) (json : Json) : RecordFrame → Json
  | .members front back => .object (front ++ (.ok key, json) :: back)
  | .items front back => .list (front ++ json :: back)

/-! ## Looking up -/

namespace Fields

variable {α : Type} {context : Context} {front back : List (String × Json)} {key other : String}
  {json : Json} {decoder : Decoder α}

theorem get?_put_self (h : key ∉ front.map Prod.fst) :
    Fields.get? ⟨context, front ++ (key, json) :: back⟩ key decoder =
      (decoder context json).map some := by
  have hfront : (front.find? fun value => value.1 == key) = none := by
    rw [List.find?_eq_none]
    intro value hvalue hkey
    exact h (List.mem_map.2 ⟨value, hvalue, by simpa using hkey⟩)
  simp [Fields.get?, List.find?_append, hfront]

theorem get?_put_of_ne (h : other ≠ key) :
    Fields.get? ⟨context, front ++ (key, json) :: back⟩ other decoder =
      Fields.get? ⟨context, front ++ back⟩ other decoder := by
  have hkey : (key == other) = false := beq_false_of_ne h.symm
  simp [Fields.get?, List.find?_append, hkey]

theorem getD_put_self (h : key ∉ front.map Prod.fst) (default : α) :
    Fields.getD ⟨context, front ++ (key, json) :: back⟩ key decoder default =
      decoder context json := by
  rw [Fields.getD, get?_put_self h]
  cases decoder context json <;> rfl

theorem getD_put_of_ne (h : other ≠ key) (default : α) :
    Fields.getD ⟨context, front ++ (key, json) :: back⟩ other decoder default =
      Fields.getD ⟨context, front ++ back⟩ other decoder default := by
  rw [Fields.getD, get?_put_of_ne h]
  rfl

end Fields

/-! ## Checking one part after the other -/

namespace RecordType

variable {type : RecordType} {context : Context} {f : Field}

/-- A member that is a field is checked, and is not to have stood before. -/
theorem checkMembers_cons_eq_ok_iff {seen : List String} {key : String} {json : Json}
    {members : List (Except Malformed String × Json)} {values : List (String × Json)}
    (hf : (type.fields.find? fun f => f.key == key) = some f) :
    type.checkMembers context seen ((.ok key, json) :: members) = .ok values ↔
      key ∉ seen ∧ f.check context json = .ok () ∧
        ∃ rest, type.checkMembers context (key :: seen) members = .ok rest ∧
          values = (key, json) :: rest := by
  rw [checkMembers]
  simp only [hf]
  by_cases hseen : key ∈ seen
  · simp [hseen, throw, throwThe, MonadExceptOf.throw, bind, Except.bind]
  · simp only [List.contains_iff_mem, hseen, if_false, not_false_eq_true, true_and]
    constructor
    · intro h
      obtain ⟨⟨⟩, hcheck, h⟩ := except_bind_eq_ok_iff.1 h
      obtain ⟨rest, hrest, hvalues⟩ := except_bind_eq_ok_iff.1 h
      cases hvalues
      exact ⟨hcheck, rest, hrest, rfl⟩
    · rintro ⟨hcheck, rest, hrest, rfl⟩
      exact except_bind_eq_ok_iff.2 ⟨(), hcheck, except_bind_eq_ok_iff.2 ⟨rest, hrest, rfl⟩⟩

/-- Members are checked one after the other, the later ones with the keys of the earlier ones
seen. -/
theorem checkMembers_append_eq_ok_iff {seen : List String}
    {front back : List (Except Malformed String × Json)} {values : List (String × Json)} :
    type.checkMembers context seen (front ++ back) = .ok values ↔
      ∃ first second, type.checkMembers context seen front = .ok first ∧
        type.checkMembers context ((first.map Prod.fst).reverse ++ seen) back = .ok second ∧
        values = first ++ second := by
  induction front generalizing seen values with
  | nil => simp [checkMembers, eq_comm]
  | cons member front ih =>
      obtain ⟨key, json⟩ := member
      cases key with
      | error cause => simp [checkMembers]
      | ok key =>
          cases hf : type.fields.find? fun f => f.key == key with
          | none =>
              rw [List.cons_append, checkMembers, checkMembers]
              simp only [hf]
              cases json.skip with
              | error cause => simp
              | ok _ => exact ih
          | some f =>
              rw [List.cons_append, checkMembers_cons_eq_ok_iff hf]
              simp only [checkMembers_cons_eq_ok_iff hf, ih]
              constructor
              · rintro ⟨hkey, hcheck, rest, ⟨first, second, hfirst, hsecond, rfl⟩, rfl⟩
                refine ⟨(key, json) :: first, second, ⟨hkey, hcheck, first, hfirst, rfl⟩, ?_, rfl⟩
                simpa using hsecond
              · rintro ⟨_, second, ⟨hkey, hcheck, first, hfirst, rfl⟩, hsecond, rfl⟩
                refine ⟨hkey, hcheck, first ++ second, ⟨first, second, hfirst, ?_, rfl⟩, rfl⟩
                simpa using hsecond

/-- An item is checked as the value of its field. -/
theorem checkItems_cons_eq_ok_iff {position : Nat} {fields : List Field} {item : Json}
    {items : List Json} {values : List (String × Json)} :
    type.checkItems context position (f :: fields) (item :: items) = .ok values ↔
      f.check context item = .ok () ∧
        ∃ rest, type.checkItems context (position + 1) fields items = .ok rest ∧
          values = (f.key, item) :: rest := by
  rw [checkItems]
  constructor
  · intro h
    obtain ⟨⟨⟩, hcheck, h⟩ := except_bind_eq_ok_iff.1 h
    obtain ⟨rest, hrest, hvalues⟩ := except_bind_eq_ok_iff.1 h
    cases hvalues
    exact ⟨hcheck, rest, hrest, rfl⟩
  · rintro ⟨hcheck, rest, hrest, rfl⟩
    exact except_bind_eq_ok_iff.2 ⟨(), hcheck, except_bind_eq_ok_iff.2 ⟨rest, hrest, rfl⟩⟩

theorem checkItems_nil (position : Nat) : type.checkItems context position [] [] = .ok [] := by
  rw [checkItems, surplus]
  cases context.origin <;> rfl

/-- Items are checked one after the other, each against the field at its position. -/
theorem checkItems_append_eq_ok_iff {position : Nat} {before after : List Field}
    {front back : List Json} {values : List (String × Json)}
    (hlength : front.length = before.length) :
    type.checkItems context position (before ++ after) (front ++ back) = .ok values ↔
      ∃ first second, type.checkItems context position before front = .ok first ∧
        type.checkItems context (position + before.length) after back = .ok second ∧
        values = first ++ second := by
  induction before generalizing front position values with
  | nil =>
      rw [List.length_eq_zero_iff.1 hlength]
      simp [checkItems_nil, eq_comm]
  | cons f before ih =>
      obtain ⟨item, front, rfl⟩ := List.exists_cons_of_length_eq_add_one hlength
      have hposition : position + (f :: before).length = position + 1 + before.length := by
        rw [List.length_cons]
        omega
      rw [List.cons_append, List.cons_append, checkItems_cons_eq_ok_iff, hposition]
      simp only [checkItems_cons_eq_ok_iff, ih (Nat.succ.inj hlength)]
      constructor
      · rintro ⟨hcheck, rest, ⟨first, second, hfirst, hsecond, rfl⟩, rfl⟩
        exact ⟨(f.key, item) :: first, second, ⟨hcheck, first, hfirst, rfl⟩, hsecond, rfl⟩
      · rintro ⟨_, second, ⟨hcheck, first, hfirst, rfl⟩, hsecond, rfl⟩
        exact ⟨hcheck, first ++ second, ⟨first, second, hfirst, hsecond, rfl⟩, rfl⟩

/-- The items of a list stand under the keys of their fields. -/
theorem map_fst_of_checkItems {position : Nat} {fields : List Field} {items : List Json}
    {values : List (String × Json)} (hlength : items.length = fields.length)
    (h : type.checkItems context position fields items = .ok values) :
    values.map Prod.fst = fields.map Field.key := by
  induction fields generalizing items position values with
  | nil =>
      rw [List.length_eq_zero_iff.1 hlength, checkItems_nil] at h
      cases h
      rfl
  | cons f fields ih =>
      obtain ⟨item, items, rfl⟩ := List.exists_cons_of_length_eq_add_one hlength
      obtain ⟨-, rest, hrest, rfl⟩ := checkItems_cons_eq_ok_iff.1 h
      rw [List.map_cons, List.map_cons, ih (Nat.succ.inj hlength) hrest]

/-! ## The place of a field -/

/-- A field has its place: in an object it is any field of the record, in a list it is the one at
the position of its value. -/
def HasPlace (type : RecordType) (f : Field) : RecordFrame → Prop
  | .members _ _ => (type.fields.find? fun g => g.key == f.key) = some f
  | .items front _ => type.fields[front.length]? = some f

theorem fields_eq_of_hasPlace {front back : List Json}
    (hplace : type.HasPlace f (.items front back)) :
    type.fields =
      type.fields.take front.length ++ f :: type.fields.drop (front.length + 1) := by
  obtain ⟨hlt, hget⟩ := List.getElem?_eq_some_iff.1 hplace
  rw [← hget, List.getElem_cons_drop, List.take_append_drop]

theorem length_take_of_hasPlace {front back : List Json}
    (hplace : type.HasPlace f (.items front back)) :
    (type.fields.take front.length).length = front.length := by
  obtain ⟨hlt, -⟩ := List.getElem?_eq_some_iff.1 hplace
  rw [List.length_take, Nat.min_eq_left (Nat.le_of_lt hlt)]

/-- What is found in a record in front of the place of a field and behind it. -/
def Leaves (type : RecordType) (context : Context) (f : Field)
    (first second : List (String × Json)) : RecordFrame → Prop
  | .members front back =>
      type.checkMembers context [] front = .ok first ∧ f.key ∉ first.map Prod.fst ∧
        type.checkMembers context (f.key :: (first.map Prod.fst).reverse) back = .ok second
  | .items front back =>
      type.checkItems context 0 (type.fields.take front.length) front = .ok first ∧
        type.checkItems context (front.length + 1) (type.fields.drop (front.length + 1)) back =
          .ok second

/-- The key of the field is not found in front of its place. -/
theorem Leaves.key_not_mem {frame : RecordFrame} {first second : List (String × Json)}
    (hkeys : (type.fields.map Field.key).Nodup) (hplace : type.HasPlace f frame)
    (h : type.Leaves context f first second frame) : f.key ∉ first.map Prod.fst := by
  cases frame with
  | members front back => exact h.2.1
  | items front back =>
      rw [map_fst_of_checkItems (length_take_of_hasPlace hplace).symm h.1]
      rw [fields_eq_of_hasPlace hplace, List.map_append, List.nodup_append] at hkeys
      intro hmem
      exact hkeys.2.2 f.key hmem f.key List.mem_cons_self rfl

/-- **A record is read around a field.** The value in the place of the field passes the check of the
field and is found there, and what is found besides it is the same for every value. -/
theorem fieldsOf_put_eq_ok_iff {frame : RecordFrame} {json : Json} {fields : Fields}
    (hplace : type.HasPlace f frame) :
    type.fieldsOf context (frame.put f.key json) = .ok fields ↔
      HasRoom context.room 1 ∧ f.check context.inside json = .ok () ∧
        ∃ first second, type.Leaves context.inside f first second frame ∧
          fields = ⟨context.inside, first ++ (f.key, json) :: second⟩ := by
  cases frame with
  | members front back =>
      rw [RecordFrame.put, fieldsOf]
      simp only [except_bind_eq_ok_iff, Context.enter_eq_ok_iff, checkMembers_append_eq_ok_iff,
        checkMembers_cons_eq_ok_iff hplace, Leaves]
      constructor
      · rintro ⟨_, ⟨hroom, rfl⟩, _,
          ⟨first, _, hfirst, ⟨hkey, hcheck, second, hsecond, rfl⟩, rfl⟩, h⟩
        cases h
        rw [List.append_nil] at hkey hsecond
        exact ⟨hroom, hcheck, first, second, ⟨hfirst, by simpa using hkey, hsecond⟩, rfl⟩
      · rintro ⟨hroom, hcheck, first, second, ⟨hfirst, hkey, hsecond⟩, rfl⟩
        refine ⟨_, ⟨hroom, rfl⟩, _, ⟨first, _, hfirst, ⟨?_, hcheck, second, ?_, rfl⟩, rfl⟩, rfl⟩
        · simpa using hkey
        · rwa [List.append_nil]
  | items front back =>
      have hlength : front.length = (type.fields.take front.length).length :=
        (length_take_of_hasPlace hplace).symm
      have hitems {inner : Context} {values : List (String × Json)} :
          type.checkItems inner 0 type.fields (front ++ json :: back) = .ok values ↔
            ∃ first second, type.Leaves inner f first second (.items front back) ∧
              f.check inner json = .ok () ∧ values = first ++ (f.key, json) :: second := by
        conv_lhs => rw [fields_eq_of_hasPlace hplace]
        simp only [checkItems_append_eq_ok_iff hlength, checkItems_cons_eq_ok_iff, Nat.zero_add,
          ← hlength, Leaves]
        constructor
        · rintro ⟨first, _, hfirst, ⟨hcheck, second, hsecond, rfl⟩, rfl⟩
          exact ⟨first, second, ⟨hfirst, hsecond⟩, hcheck, rfl⟩
        · rintro ⟨first, second, ⟨hfirst, hsecond⟩, hcheck, rfl⟩
          exact ⟨first, _, hfirst, ⟨hcheck, second, hsecond, rfl⟩, rfl⟩
      rw [RecordFrame.put, fieldsOf]
      simp only [except_bind_eq_ok_iff, Context.enter_eq_ok_iff, hitems]
      constructor
      · rintro ⟨_, ⟨hroom, rfl⟩, _, ⟨first, second, hleaves, hcheck, rfl⟩, h⟩
        cases h
        exact ⟨hroom, hcheck, first, second, hleaves, rfl⟩
      · rintro ⟨hroom, hcheck, first, second, hleaves, rfl⟩
        exact ⟨_, ⟨hroom, rfl⟩, _, ⟨first, second, hleaves, hcheck, rfl⟩, rfl⟩

end RecordType

end VoiceSkill
