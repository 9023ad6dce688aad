import VoiceSkill.Proofs.Decimal
import VoiceSkill.Proofs.Json.Text
import VoiceSkill.Json.Reader
import Mathlib.Algebra.Group.Int.Defs
import Mathlib.Data.List.TakeDrop
import Mathlib.Data.List.TakeWhile

/-!
# Written numbers

Some numbers are read back from the text that they are written as (`Number.ReadsBack`): all integers
of 64 bits are (`readsBack_integer`); a decimal need not be, since it is scaled in double precision.
A number that is read back from its text alone is read back in front of whatever a numeral cannot go
on with (`readValue_render`).
-/

namespace VoiceSkill

namespace Json

/-! ## Numerals and what follows them -/

/-- Nothing that a numeral could go on with. -/
def EndsNumeral (rest : List Char) : Prop :=
  ∀ c ∈ rest.head?, c.isDigit = false ∧ c ≠ '.' ∧ c ≠ 'e' ∧ c ≠ 'E'

variable {rest : List Char} {n : Number}

theorem spanDigits_append (h : EndsNumeral rest) (text : List Char) :
    spanDigits (text ++ rest) = ((spanDigits text).1, (spanDigits text).2 ++ rest) := by
  simp only [spanDigits, List.span_eq_takeWhile_dropWhile]
  induction text with
  | nil =>
      cases rest with
      | nil => rfl
      | cons c rest => simp [(h c rfl).1]
  | cons c text ih =>
      by_cases hc : c.isDigit = true
      · simpa [hc] using ih
      · simp [hc]

theorem finish_eq_iff {numeral : Numeral} {text : List Char} :
    finish numeral text = ⟨.ok n, .ok rest⟩ ↔ numeral.value? = some n ∧ text = rest := by
  rw [finish]
  cases numeral.value? <;> simp

/-- At least one digit, and what is read after the digits. -/
def digitsThen (next : List Char → List Char → Lexeme Number) (text : List Char) :
    Lexeme Number :=
  match spanDigits text with
  | ([], rest) => noDigit rest
  | (digits, rest) => next digits rest

theorem digitsThen_append (h : EndsNumeral rest) {next : List Char → List Char → Lexeme Number}
    (hnext : ∀ digits text, next digits text = ⟨.ok n, .ok []⟩ →
      next digits (text ++ rest) = ⟨.ok n, .ok rest⟩)
    {text : List Char} (hread : digitsThen next text = ⟨.ok n, .ok []⟩) :
    digitsThen next (text ++ rest) = ⟨.ok n, .ok rest⟩ := by
  rw [digitsThen] at hread ⊢
  rw [spanDigits_append h]
  match hspan : spanDigits text with
  | ([], after) => simp [hspan, noDigit] at hread
  | (c :: digits, after) =>
      rw [hspan] at hread
      exact hnext _ _ hread

/-- The sign of an exponent, and what comes after it. -/
def exponentSign : List Char → Bool × List Char
  | '-' :: rest => (true, rest)
  | '+' :: rest => (false, rest)
  | rest => (false, rest)

theorem exponentSign_of_ne {text : List Char} (hminus : ∀ rest, text ≠ '-' :: rest)
    (hplus : ∀ rest, text ≠ '+' :: rest) : exponentSign text = (false, text) := by
  rw [exponentSign]
  · exact hminus
  · exact hplus

theorem exponentSign_append {text : List Char} (htext : text ≠ []) (rest : List Char) :
    exponentSign (text ++ rest) = ((exponentSign text).1, (exponentSign text).2 ++ rest) := by
  obtain ⟨c, text, rfl⟩ := List.exists_cons_of_ne_nil htext
  by_cases hminus : c = '-'
  · rw [hminus]
    rfl
  · by_cases hplus : c = '+'
    · rw [hplus]
      rfl
    · rw [exponentSign_of_ne, exponentSign_of_ne] <;> simp_all

theorem exponentPart_cons {e : Char} (he : (e == 'e' || e == 'E') = true) (numeral : Numeral)
    (text : List Char) :
    exponentPart numeral (e :: text) = digitsThen (fun digits rest =>
      finish { numeral with exponent := some ((exponentSign text).1, digits) } rest)
        (exponentSign text).2 := by
  unfold exponentPart
  simp only [if_pos he]
  rfl

theorem exponentPart_of_ends (h : EndsNumeral rest) (numeral : Numeral) :
    exponentPart numeral rest = finish numeral rest := by
  cases rest with
  | nil => rfl
  | cons c rest =>
      obtain ⟨-, -, he, hE⟩ := h c rfl
      simp [exponentPart, he, hE]

theorem exponentPart_append (h : EndsNumeral rest) {numeral : Numeral} {text : List Char}
    (hread : exponentPart numeral text = ⟨.ok n, .ok []⟩) :
    exponentPart numeral (text ++ rest) = ⟨.ok n, .ok rest⟩ := by
  cases text with
  | nil =>
      obtain ⟨hvalue, -⟩ := finish_eq_iff.1 hread
      rw [List.nil_append, exponentPart_of_ends h]
      exact finish_eq_iff.2 ⟨hvalue, rfl⟩
  | cons e text =>
      by_cases he : (e == 'e' || e == 'E') = true
      · have htext : text ≠ [] := by
          rintro rfl
          rw [exponentPart_cons he] at hread
          simp [exponentSign, digitsThen, spanDigits, noDigit] at hread
        rw [exponentPart_cons he] at hread
        rw [List.cons_append, exponentPart_cons he, exponentSign_append htext]
        refine digitsThen_append h (fun digits after hafter => ?_) hread
        obtain ⟨hvalue, rfl⟩ := finish_eq_iff.1 hafter
        exact finish_eq_iff.2 ⟨hvalue, rfl⟩
      · unfold exponentPart at hread
        simp only [if_neg he] at hread
        obtain ⟨-, hnil⟩ := finish_eq_iff.1 hread
        cases hnil

theorem fractionPart_of_ne {text : List Char} (h : ∀ c ∈ text.head?, c ≠ '.')
    (numeral : Numeral) : fractionPart numeral text = exponentPart numeral text := by
  unfold fractionPart
  split
  · exact absurd rfl (h '.' rfl)
  · rfl

theorem fractionPart_point (numeral : Numeral) (text : List Char) :
    fractionPart numeral ('.' :: text) = digitsThen (fun digits rest =>
      exponentPart { numeral with fraction := some digits } rest) text := rfl

theorem fractionPart_append (h : EndsNumeral rest) {numeral : Numeral} {text : List Char}
    (hread : fractionPart numeral text = ⟨.ok n, .ok []⟩) :
    fractionPart numeral (text ++ rest) = ⟨.ok n, .ok rest⟩ := by
  cases text with
  | nil =>
      rw [fractionPart_of_ne (by simp)] at hread
      rw [List.nil_append, fractionPart_of_ne fun c hc => (h c hc).2.1]
      exact exponentPart_append h hread
  | cons c text =>
      by_cases hpoint : c = '.'
      · subst hpoint
        rw [fractionPart_point] at hread
        rw [List.cons_append, fractionPart_point]
        exact digitsThen_append h (fun _ _ => exponentPart_append h) hread
      · rw [fractionPart_of_ne (by simpa using hpoint)] at hread ⊢
        exact exponentPart_append h hread

theorem numeral_eq (negative : Bool) (text : List Char) :
    numeral negative text = digitsThen (fun digits rest => match digits with
      | '0' :: _ :: _ => .broken .unexpected
      | digits => fractionPart ⟨negative, digits, none, none⟩ rest) text := by
  rw [numeral, digitsThen]
  split <;> simp_all

theorem numeral_append (h : EndsNumeral rest) {negative : Bool} {text : List Char}
    (hread : numeral negative text = ⟨.ok n, .ok []⟩) :
    numeral negative (text ++ rest) = ⟨.ok n, .ok rest⟩ := by
  rw [numeral_eq] at hread ⊢
  refine digitsThen_append h (fun digits after hafter => ?_) hread
  split at hafter
  · simp [Lexeme.broken] at hafter
  · exact fractionPart_append h hafter

theorem numeral_decimalDigits (negative : Bool) (n : Nat) :
    numeral negative (decimalDigits n) = finish ⟨negative, decimalDigits n, none, none⟩ [] := by
  have hspan : spanDigits (decimalDigits n) = (decimalDigits n, []) := by
    rw [spanDigits, List.span_eq_takeWhile_dropWhile,
      List.takeWhile_eq_self_iff.2 (isDigit_of_mem_decimalDigits n),
      List.dropWhile_eq_nil_iff.2 (isDigit_of_mem_decimalDigits n)]
  rw [numeral, hspan]
  split
  · rename_i h
    exact absurd (congrArg Prod.fst h) (decimalDigits_ne_nil n)
  · rename_i h
    exact absurd (congrArg Prod.fst h) (decimalDigits_ne_zero_cons n _ _)
  · rename_i h
    cases h
    rfl

/-! ## Values -/

theorem readValue_minus (fuel : Nat) (text : List Char) :
    readValue (fuel + 1) ('-' :: text) = (numeral true text).reading false .number := by
  rw [readValue, afterGap_cons (by decide)]
  rfl

theorem beq_eq_false_of_isDigit {c : Char} (h : c.isDigit = true) {d : Char}
    (hd : d.isDigit = false) : (c == d) = false := by
  apply beq_false_of_ne
  rintro rfl
  rw [h] at hd
  cases hd

theorem isGap_eq_false_of_isDigit {c : Char} (h : c.isDigit = true) : isGap c = false := by
  simp [isGap, beq_eq_false_of_isDigit h]

theorem readValue_digit (fuel : Nat) {c : Char} (h : c.isDigit = true) (text : List Char) :
    readValue (fuel + 1) (c :: text) = (numeral false (c :: text)).reading false .number := by
  rw [readValue, afterGap_cons (isGap_eq_false_of_isDigit h)]
  simp [beq_eq_false_of_isDigit h, h]

theorem reading_number_eq_iff {lexeme : Lexeme Number} {n : Number} {rest : List Char} :
    lexeme.reading false .number = ⟨.number n, some rest⟩ ↔ lexeme = ⟨.ok n, .ok rest⟩ := by
  obtain ⟨value, after⟩ := lexeme
  cases value <;> cases after <;> simp [Lexeme.reading]

end Json

namespace Number

/-- A number that is read back from the text that it is written as. -/
def ReadsBack (n : Number) : Prop := Json.readValue 1 n.render = ⟨.number n, some []⟩

/-- Every integer of 64 bits is read back, with or without sign. -/
theorem readsBack_integer {n : Int} (hleast : -2 ^ 63 ≤ n) (hgreatest : n < 2 ^ 64) :
    (Number.integer n).ReadsBack := by
  have habs : n.natAbs ≤ Numeral.greatestSignificand := by
    simp [Numeral.greatestSignificand]
    omega
  rw [ReadsBack, render, integerDigits]
  split
  · rename_i hnegative
    have hvalue : Numeral.value? ⟨true, decimalDigits n.natAbs, none, none⟩ =
        some (.integer (-n.natAbs)) := by
      rw [Numeral.value?_of_le true habs, if_neg (by decide), if_neg (by omega),
        if_pos (by simp; omega)]
    have hint : -(n.natAbs : Int) = n := by omega
    rw [Json.readValue_minus, Json.reading_number_eq_iff, Json.numeral_decimalDigits,
      Json.finish_eq_iff, hvalue, hint]
    exact ⟨rfl, rfl⟩
  · rename_i hnegative
    have hvalue : Numeral.value? ⟨false, decimalDigits n.natAbs, none, none⟩ =
        some (.integer n.natAbs) := by
      rw [Numeral.value?_of_le false habs, if_pos (by decide)]
    have hint : (n.natAbs : Int) = n := by omega
    obtain ⟨c, digits, hdigits⟩ := List.exists_cons_of_ne_nil (decimalDigits_ne_nil n.natAbs)
    have hc : c.isDigit = true := isDigit_of_mem_decimalDigits n.natAbs c (by simp [hdigits])
    rw [hdigits, Json.readValue_digit 0 hc, ← hdigits, Json.reading_number_eq_iff,
      Json.numeral_decimalDigits, Json.finish_eq_iff, hvalue, hint]
    exact ⟨rfl, rfl⟩

theorem exists_positional {c : Char} (h : c.isDigit = true) (digits : List Char) (whole : Int) :
    ∃ d text, Decimal.positional (c :: digits) whole = d :: text ∧ d.isDigit = true := by
  rw [Decimal.positional]
  split
  · exact ⟨'0', _, rfl, rfl⟩
  · obtain ⟨k, hk⟩ : ∃ k, whole.toNat = k + 1 := ⟨whole.toNat - 1, by omega⟩
    rw [hk]
    exact ⟨c, _, rfl, h⟩

/-- The text of a decimal begins with its sign or a digit. -/
theorem exists_render_decimal (d : Decimal) :
    ∃ c text, d.render = c :: text ∧ (c = '-' ∨ c.isDigit = true) := by
  obtain ⟨c, digits, hdigits⟩ := List.exists_cons_of_ne_nil (decimalDigits_ne_nil d.digits)
  have hc : c.isDigit = true := isDigit_of_mem_decimalDigits d.digits c (by simp [hdigits])
  obtain ⟨e, text, htext, he⟩ := exists_positional hc digits
    (d.exponent + (c :: digits).length - 1 + 1)
  rw [Decimal.render, hdigits, htext]
  cases d.negative with
  | true => split <;> [skip; split] <;> exact ⟨'-', _, rfl, .inl rfl⟩
  | false =>
      split
      · exact ⟨'0', _, rfl, .inr rfl⟩
      split
      · exact ⟨e, text, rfl, .inr he⟩
      · exact ⟨c, _, rfl, .inr hc⟩

/-- The text of a number begins with a sign or a digit. -/
theorem exists_render_cons (n : Number) :
    ∃ c text, n.render = c :: text ∧ (c = '-' ∨ c.isDigit = true) := by
  cases n with
  | integer n =>
      obtain ⟨c, digits, hdigits⟩ := List.exists_cons_of_ne_nil (decimalDigits_ne_nil n.natAbs)
      rw [render, integerDigits]
      split
      · exact ⟨'-', _, rfl, .inl rfl⟩
      · have hc : c.isDigit = true := isDigit_of_mem_decimalDigits n.natAbs c (by simp [hdigits])
        exact ⟨c, digits, hdigits, .inr hc⟩
  | decimal d => exact exists_render_decimal d

/-- A number is read back in front of anything that a numeral cannot go on with. -/
theorem readValue_render {n : Number} (h : n.ReadsBack) {rest : List Char}
    (hrest : Json.EndsNumeral rest) (fuel : Nat) :
    Json.readValue (fuel + 1) (n.render ++ rest) = ⟨.number n, some rest⟩ := by
  obtain ⟨c, text, htext, rfl | hc⟩ := n.exists_render_cons
  all_goals rw [ReadsBack, htext] at h; rw [htext, List.cons_append]
  · rw [Json.readValue_minus, Json.reading_number_eq_iff] at h ⊢
    exact Json.numeral_append hrest h
  · rw [Json.readValue_digit _ hc, Json.reading_number_eq_iff] at h ⊢
    exact Json.numeral_append hrest h

end Number

end VoiceSkill
