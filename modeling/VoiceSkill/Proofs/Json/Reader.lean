import VoiceSkill.Proofs.Document.Structure
import VoiceSkill.Proofs.Json.Number

/-!
# Reading written documents

A document that was written in a style of blanks is read as it is (`reads_render`), if its numbers
are read back: a text that is read as a value (`Reads`) stays one in a list or an object, and no
text takes more than three steps for each of its characters. So the reader of JSON texts gives the
document that a file was written from, and finds nothing after it (`ofText_render`).
-/

namespace VoiceSkill

open Document (render renderItems renderMembers renderText jsonItems jsonMembers)

/-! ## Blanks -/

/-- Nothing but blanks. -/
def Json.IsBlank (text : List Char) : Prop := ∀ c ∈ text, isGap c = true

namespace Document

/-- A style that adds blanks only. -/
structure Style.IsBlank (style : Style) : Prop where
  lineBreak : ∀ depth, Json.IsBlank (style.lineBreak depth)
  colon : ∃ gap, style.colon = ':' :: gap ∧ Json.IsBlank gap

theorem isBlank_spread : spread.IsBlank where
  lineBreak depth := by
    intro c hc
    rcases List.mem_cons.1 hc with rfl | hc
    · decide
    · rw [List.eq_of_mem_replicate hc]
      decide
  colon := ⟨[' '], rfl, by simp [Json.IsBlank, Json.isGap]⟩

theorem isBlank_dense : dense.IsBlank where
  lineBreak _ := by simp [dense, Json.IsBlank]
  colon := ⟨[], rfl, by simp [Json.IsBlank]⟩

end Document

namespace Json

theorem endsNumeral_cons {c : Char} (h : c.isDigit = false ∧ c ≠ '.' ∧ c ≠ 'e' ∧ c ≠ 'E')
    (rest : List Char) : EndsNumeral (c :: rest) := by
  simpa [EndsNumeral] using h

theorem endsNumeral_nil : EndsNumeral [] := by
  simp [EndsNumeral]

theorem endsNumeral_append {gap : List Char} (h : IsBlank gap) {rest : List Char}
    (hrest : EndsNumeral rest) : EndsNumeral (gap ++ rest) := by
  cases gap with
  | nil => exact hrest
  | cons c gap =>
      have hc := h c List.mem_cons_self
      simp only [isGap, Bool.or_eq_true, beq_iff_eq] at hc
      rcases hc with ((rfl | rfl) | rfl) | rfl <;> exact endsNumeral_cons (by decide) _

theorem readValue_append_gap {gap : List Char} (h : IsBlank gap) (fuel : Nat) (text : List Char) :
    readValue fuel (gap ++ text) = readValue fuel text := by
  cases fuel with
  | zero => rfl
  | succ fuel => rw [readValue, readValue, afterGap_append h]

/-! ## Texts that are read as values -/

/-- A text that is read as a value, whatever comes after it. Its first character stands in no gap
and closes no list, and three steps for each character are enough. -/
structure Reads (text : List Char) (json : Json) : Prop where
  start : ∃ c rest, text = c :: rest ∧ isGap c = false ∧ c ≠ ']'
  read : ∀ {fuel : Nat} {rest : List Char}, 3 * text.length ≤ fuel → EndsNumeral rest →
    readValue fuel (text ++ rest) = ⟨json, some rest⟩

variable {text gap : List Char} {json : Json}

/-- A text with a first character is read if it is read with some fuel. -/
theorem Reads.of_cons {c : Char} (hgap : isGap c = false) (hclose : c ≠ ']')
    (h : ∀ {fuel : Nat} {rest : List Char}, 3 * text.length ≤ fuel → EndsNumeral rest →
      readValue (fuel + 3) (c :: (text ++ rest)) = ⟨json, some rest⟩) : Reads (c :: text) json where
  start := ⟨c, text, rfl, hgap, hclose⟩
  read := by
    intro fuel rest hfuel hrest
    obtain ⟨fuel, rfl⟩ : ∃ k, fuel = k + 3 := ⟨fuel - 3, by rw [List.length_cons] at hfuel; omega⟩
    rw [List.length_cons] at hfuel
    exact h (by omega) hrest

/-- Blanks in front of it do not tell. -/
theorem Reads.afterGap_append (h : Reads text json) (hgap : IsBlank gap) (rest : List Char) :
    afterGap (gap ++ (text ++ rest)) = text ++ rest := by
  obtain ⟨c, more, rfl, hc, -⟩ := h.start
  rw [Json.afterGap_append hgap, List.cons_append, afterGap_cons hc]

theorem reads_null : Reads ['n', 'u', 'l', 'l'] .null :=
  .of_cons (by decide) (by decide) fun _ _ => rfl

theorem reads_bool (style : Document.Style) (depth : Nat) (b : Bool) :
    Reads (render style depth (.bool b)) (.bool b) := by
  cases b with
  | false => exact .of_cons (by decide) (by decide) fun _ _ => rfl
  | true => exact .of_cons (by decide) (by decide) fun _ _ => rfl

theorem readValue_quote (fuel : Nat) (text : List Char) :
    readValue (fuel + 1) ('\x22' :: text) =
      (quoted text).reading true fun s => .string (String.ofList s) := by
  rw [readValue, afterGap_cons (by decide)]
  rfl

theorem reads_string (s : String) : Reads (renderText s) (.string s) := by
  rw [renderText, List.cons_append]
  refine .of_cons (by decide) (by decide) fun {fuel rest} _ _ => ?_
  rw [List.append_assoc, List.singleton_append, readValue_quote, quoted_escape]
  simp [Lexeme.reading]

theorem reads_number {n : Number} (h : n.ReadsBack) : Reads n.render (.number n) := by
  obtain ⟨c, text, htext, hc⟩ := n.exists_render_cons
  have hgap : isGap c = false := by
    rcases hc with rfl | hc
    · decide
    · exact isGap_eq_false_of_isDigit hc
  have hclose : c ≠ ']' := by
    rintro rfl
    revert hc
    decide
  rw [htext]
  refine .of_cons hgap hclose fun {fuel rest} _ hrest => ?_
  rw [← List.cons_append, ← htext]
  exact Number.readValue_render h hrest _

/-! ## Lists -/

theorem readItems_last (h : Reads text json) (hgap : IsBlank gap) {fuel : Nat}
    (hfuel : 3 * text.length ≤ fuel) (rest : List Char) :
    readItems (fuel + 1) (text ++ (gap ++ ']' :: rest)) = ⟨[json], some rest⟩ := by
  have hread := h.read hfuel
    (endsNumeral_append hgap (endsNumeral_cons (c := ']') (by decide) rest))
  have hafter : afterGap (gap ++ ']' :: rest) = ']' :: rest := by
    rw [afterGap_append hgap, afterGap_cons (by decide)]
  rw [readItems]
  simp only [hread, hafter]

theorem readItems_cons (h : Reads text json) (hgap : IsBlank gap) {next : List Char}
    {json' : Json} (hnext : Reads next json') {fuel : Nat} (hfuel : 3 * text.length ≤ fuel)
    (rest : List Char) :
    readItems (fuel + 1) (text ++ ',' :: (gap ++ (next ++ rest))) =
      ⟨json :: (readItems fuel (next ++ rest)).value, (readItems fuel (next ++ rest)).rest⟩ := by
  have hread := h.read hfuel (endsNumeral_cons (c := ',') (by decide) (gap ++ (next ++ rest)))
  have hcomma : afterGap (',' :: (gap ++ (next ++ rest))) = ',' :: (gap ++ (next ++ rest)) :=
    afterGap_cons (by decide) _
  obtain ⟨c, more, rfl, -⟩ := hnext.start
  rw [readItems]
  simp only [hread, hcomma, hnext.afterGap_append hgap]
  rfl

theorem readList_of_reads (h : Reads text json) (hgap : IsBlank gap) (fuel : Nat)
    (rest : List Char) :
    readList (fuel + 1) (gap ++ (text ++ rest)) = readItems fuel (text ++ rest) := by
  have hafter := h.afterGap_append hgap rest
  obtain ⟨c, more, rfl, -, hc⟩ := h.start
  rw [readList, hafter]
  split
  · contradiction
  · simp_all
  · rfl

/-- The items of a list are read one after the other. -/
theorem readItems_render {style : Document.Style} (hstyle : style.IsBlank) {depth : Nat}
    {item : Document} {items : List Document}
    (h : ∀ d ∈ item :: items, Reads (render style depth d) d.json) (hgap : IsBlank gap)
    {fuel : Nat}
    (hfuel : 3 * (render style depth item ++ renderItems style depth items).length < fuel)
    (rest : List Char) :
    readItems fuel (render style depth item ++
      (renderItems style depth items ++ (gap ++ ']' :: rest))) =
        ⟨jsonItems (item :: items), some rest⟩ := by
  induction items generalizing item fuel with
  | nil =>
      obtain ⟨fuel, rfl⟩ := Nat.exists_eq_succ_of_ne_zero (Nat.ne_zero_of_lt hfuel)
      rw [renderItems, List.append_nil] at hfuel
      exact readItems_last (h item List.mem_cons_self) hgap (by omega) rest
  | cons next items ih =>
      obtain ⟨fuel, rfl⟩ := Nat.exists_eq_succ_of_ne_zero (Nat.ne_zero_of_lt hfuel)
      obtain ⟨hitem, hitems⟩ := List.forall_mem_cons.1 h
      simp only [renderItems, List.cons_append, List.append_assoc, List.length_append,
        List.length_cons] at hfuel ⊢
      rw [readItems_cons hitem (hstyle.lineBreak depth) (hitems next List.mem_cons_self)
        (by omega), ih hitems (by rw [List.length_append]; omega)]
      rfl

/-! ## Objects -/

theorem readMembers_last (key : String) (h : Reads text json) {colonGap : List Char}
    (hcolon : IsBlank colonGap) (hgap : IsBlank gap) {fuel : Nat} (hfuel : 3 * text.length ≤ fuel)
    (rest : List Char) :
    readMembers (fuel + 1) (renderText key ++
      ':' :: (colonGap ++ (text ++ (gap ++ '\x7d' :: rest)))) =
        ⟨[(.ok key, json)], some rest⟩ := by
  have hread := h.read hfuel
    (endsNumeral_append hgap (endsNumeral_cons (c := '\x7d') (by decide) rest))
  have hafter : afterGap (gap ++ '\x7d' :: rest) = '\x7d' :: rest := by
    rw [afterGap_append hgap, afterGap_cons (by decide)]
  have hpoint : ∀ text, afterGap (':' :: text) = ':' :: text := afterGap_cons (by decide)
  rw [renderText, List.append_assoc, List.singleton_append, List.cons_append, readMembers]
  simp only [quoted_escape, hpoint, readValue_append_gap hcolon, hread, hafter, Lexeme.key,
    String.ofList_toList]

theorem readMembers_cons (key : String) (h : Reads text json) {colonGap : List Char}
    (hcolon : IsBlank colonGap) (hgap : IsBlank gap) {fuel : Nat} (hfuel : 3 * text.length ≤ fuel)
    (next : String) (rest : List Char) :
    readMembers (fuel + 1) (renderText key ++
      ':' :: (colonGap ++ (text ++ ',' :: (gap ++ (renderText next ++ rest))))) =
        ⟨(.ok key, json) :: (readMembers fuel (renderText next ++ rest)).value,
          (readMembers fuel (renderText next ++ rest)).rest⟩ := by
  have hread := h.read hfuel
    (endsNumeral_cons (c := ',') (by decide) (gap ++ (renderText next ++ rest)))
  have hmark : ∀ c text, isGap c = false → afterGap (c :: text) = c :: text :=
    fun _ text hc => afterGap_cons hc text
  rw [renderText, List.append_assoc, List.singleton_append, List.cons_append, readMembers]
  simp only [quoted_escape, hmark ':' _ (by decide), readValue_append_gap hcolon, hread,
    hmark ',' _ (by decide), (reads_string next).afterGap_append hgap, Lexeme.key,
    String.ofList_toList]

theorem readObject_of_key (key : String) (hgap : IsBlank gap) (fuel : Nat) (rest : List Char) :
    readObject (fuel + 1) (gap ++ (renderText key ++ rest)) =
      readMembers fuel (renderText key ++ rest) := by
  rw [readObject, (reads_string key).afterGap_append hgap]
  rfl

/-- The members of an object are read one after the other. -/
theorem readMembers_render {style : Document.Style} (hstyle : style.IsBlank) {depth : Nat}
    {key : String} {value : Document} {members : List (String × Document)}
    (h : ∀ member ∈ (key, value) :: members,
      Reads (render style depth member.2) member.2.json)
    (hgap : IsBlank gap) {fuel : Nat}
    (hfuel : 3 * (render style depth value ++ renderMembers style depth members).length < fuel)
    (rest : List Char) :
    readMembers fuel (renderText key ++ (style.colon ++ (render style depth value ++
      (renderMembers style depth members ++ (gap ++ '\x7d' :: rest))))) =
        ⟨jsonMembers ((key, value) :: members), some rest⟩ := by
  obtain ⟨colonGap, hcolon, hblank⟩ := hstyle.colon
  induction members generalizing key value fuel with
  | nil =>
      obtain ⟨fuel, rfl⟩ := Nat.exists_eq_succ_of_ne_zero (Nat.ne_zero_of_lt hfuel)
      rw [renderMembers, List.append_nil] at hfuel
      have hvalue : Reads (render style depth value) value.json := h _ List.mem_cons_self
      rw [hcolon]
      exact readMembers_last key hvalue hblank hgap (by omega) rest
  | cons next members ih =>
      obtain ⟨fuel, rfl⟩ := Nat.exists_eq_succ_of_ne_zero (Nat.ne_zero_of_lt hfuel)
      have hvalue : Reads (render style depth value) value.json := h _ List.mem_cons_self
      have hmembers := (List.forall_mem_cons.1 h).2
      simp only [renderMembers, List.cons_append, List.append_assoc, List.length_append,
        List.length_cons] at hfuel ⊢
      have hnext : 3 * (render style depth next.2 ++ renderMembers style depth members).length <
          fuel := by
        rw [List.length_append]
        omega
      have hrest := ih hmembers hnext
      rw [hcolon, List.cons_append, readMembers_cons key hvalue hblank (hstyle.lineBreak depth)
        (by omega), ← hcolon, hrest]
      rfl

/-! ## Documents -/

theorem readValue_bracket (fuel : Nat) (text : List Char) :
    readValue (fuel + 1) ('[' :: text) =
      ⟨.list (readList fuel text).value, (readList fuel text).rest⟩ := by
  rw [readValue, afterGap_cons (by decide)]
  rfl

theorem readValue_brace (fuel : Nat) (text : List Char) :
    readValue (fuel + 1) ('\x7b' :: text) =
      ⟨.object (readObject fuel text).value, (readObject fuel text).rest⟩ := by
  rw [readValue, afterGap_cons (by decide)]
  rfl

variable {style : Document.Style} {depth : Nat}

theorem reads_list (hstyle : style.IsBlank) {items : List Document}
    (h : ∀ item ∈ items, Reads (render style (depth + 1) item) item.json) :
    Reads (render style depth (.list items)) (.list (jsonItems items)) := by
  cases items with
  | nil =>
      refine .of_cons (by decide) (by decide) fun {fuel rest} _ _ => ?_
      rw [readValue_bracket]
      rfl
  | cons item items =>
      rw [render, List.cons_append, List.cons_append, List.cons_append, List.cons_append]
      refine .of_cons (by decide) (by decide) fun {fuel rest} hfuel _ => ?_
      simp only [List.append_assoc, List.length_append, List.length_singleton,
        List.singleton_append] at hfuel ⊢
      rw [readValue_bracket, readList_of_reads (h item List.mem_cons_self)
        (hstyle.lineBreak (depth + 1)), readItems_render hstyle h (hstyle.lineBreak depth)
        (by rw [List.length_append]; omega)]

theorem reads_object (hstyle : style.IsBlank) {members : List (String × Document)}
    (h : ∀ member ∈ members, Reads (render style (depth + 1) member.2) member.2.json) :
    Reads (render style depth (.object members)) (.object (jsonMembers members)) := by
  cases members with
  | nil =>
      refine .of_cons (by decide) (by decide) fun {fuel rest} _ _ => ?_
      rw [readValue_brace]
      rfl
  | cons member members =>
      rw [render, List.cons_append, List.cons_append, List.cons_append, List.cons_append,
        List.cons_append, List.cons_append]
      refine .of_cons (by decide) (by decide) fun {fuel rest} hfuel _ => ?_
      simp only [List.append_assoc, List.length_append, List.length_singleton,
        List.singleton_append] at hfuel ⊢
      rw [readValue_brace, readObject_of_key member.1 (hstyle.lineBreak (depth + 1)),
        readMembers_render hstyle h (hstyle.lineBreak depth)
        (by rw [List.length_append]; omega)]

/-- **A written document is read as it is**, if its numbers are read back. -/
theorem reads_render (hstyle : style.IsBlank) (document : Document)
    (h : ∀ n ∈ document.numbers, n.ReadsBack) (depth : Nat) :
    Reads (render style depth document) document.json := by
  induction document using Document.induction generalizing depth with
  | null => exact reads_null
  | bool b => exact reads_bool style depth b
  | number n => exact reads_number (h n List.mem_cons_self)
  | string s => exact reads_string s
  | list items ih =>
      refine reads_list hstyle fun item hitem => ih item hitem (fun n hn => ?_) (depth + 1)
      exact h n (Document.mem_numbers_list_iff.2 ⟨item, hitem, hn⟩)
  | object members ih =>
      refine reads_object hstyle fun member hmember =>
        ih member hmember (fun n hn => ?_) (depth + 1)
      exact h n (Document.mem_numbers_object_iff.2 ⟨member, hmember, hn⟩)

/-- The text of a document, with blanks after it, is the document and nothing else. -/
theorem ofText_render (hstyle : style.IsBlank) {document : Document}
    (h : ∀ n ∈ document.numbers, n.ReadsBack) (hgap : IsBlank gap) :
    ofText (String.ofList (render style 0 document ++ gap)) = (document.json, false) := by
  have hends : EndsNumeral gap := by
    simpa using endsNumeral_append hgap endsNumeral_nil
  have hafter : afterGap gap = [] := List.dropWhile_eq_nil_iff.2 hgap
  have hfuel : 3 * (render style 0 document).length ≤
      3 * (render style 0 document ++ gap).length + 3 := by
    rw [List.length_append]
    omega
  have hread := (reads_render hstyle document h 0).read hfuel hends
  rw [ofText, String.toList_ofList]
  simp only [hread, Option.getD_some, hafter]
  rfl

end Json

end VoiceSkill
