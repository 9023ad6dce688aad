import VoiceSkill.Uuid
import VoiceSkill.Proofs.Json.Text
import VoiceSkill.Proofs.Path

/-!
# Identifiers as texts

An identifier is read back from its written form (`Uuid.ofText?_text`), so that different
identifiers are written differently (`Uuid.text_injective`).
-/

namespace VoiceSkill

theorem intercalate_cons_cons (separator : Char) (piece next : List Char)
    (rest : List (List Char)) :
    [separator].intercalate (piece :: next :: rest) =
      piece ++ separator :: [separator].intercalate (next :: rest) := by
  simp [List.intercalate]

/-- Stretches without separators are told apart again once they have been joined. -/
theorem splitAtChar_intercalate {separator : Char} {pieces : List (List Char)} (hne : pieces ≠ [])
    (h : ∀ piece ∈ pieces, separator ∉ piece) :
    splitAtChar separator ([separator].intercalate pieces) = pieces := by
  induction pieces with
  | nil => exact absurd rfl hne
  | cons piece pieces ih =>
      obtain ⟨hpiece, hpieces⟩ := List.forall_mem_cons.1 h
      cases pieces with
      | nil => simpa [List.intercalate] using splitAtChar_of_not_mem hpiece
      | cons next rest =>
          rw [intercalate_cons_cons, splitAtChar_append, splitAtChar_of_not_mem hpiece,
            ih (List.cons_ne_nil next rest) hpieces, List.singleton_append]

namespace Uuid

/-! ## Digits -/

theorem length_hexTail (count n : Nat) : (hexTail count n).length = count := by
  induction count generalizing n with
  | zero => rfl
  | succ count ih => rw [hexTail, List.length_append, ih, List.length_singleton]

theorem isSome_hexDigitValue_of_mem_hexTail {count n : Nat} {c : Char} (h : c ∈ hexTail count n) :
    (hexDigitValue c).isSome = true := by
  induction count generalizing n with
  | zero => cases h
  | succ count ih =>
      rw [hexTail, List.mem_append, List.mem_singleton] at h
      rcases h with h | rfl
      · exact ih h
      · rw [Json.hexDigitValue_hexDigit _ (Nat.mod_lt n (by decide))]
        rfl

theorem hexNumber?_concat (digits : List Char) (c : Char) :
    hexNumber? (digits ++ [c]) =
      (hexNumber? digits).bind fun n => (hexDigitValue c).map (16 * n + ·) := by
  rw [hexNumber?, List.foldlM_append]
  simp only [List.foldlM_cons, List.foldlM_nil, bind_pure]
  rfl

/-- The last digits of a number have the value of its remainder. -/
theorem hexNumber?_hexTail (count n : Nat) :
    hexNumber? (hexTail count n) = some (n % Nat.pow 16 count) := by
  induction count generalizing n with
  | zero =>
      show some 0 = some (n % 1)
      rw [Nat.mod_one]
  | succ count ih =>
      have hvalue : 16 * (n / 16 % Nat.pow 16 count) + n % 16 = n % Nat.pow 16 (count + 1) := by
        show _ = n % (Nat.pow 16 count * 16)
        rw [Nat.mul_comm (Nat.pow 16 count), Nat.mod_mul, Nat.add_comm]
      rw [hexTail, hexNumber?_concat, ih, Option.bind_some,
        Json.hexDigitValue_hexDigit _ (Nat.mod_lt n (by decide)), Option.map_some, hvalue]

theorem ofDigits?_digits (uuid : Uuid) : ofDigits? uuid.digits = some uuid := by
  have hbound : uuid.bits.toNat % Nat.pow 16 32 = uuid.bits.toNat :=
    Nat.mod_eq_of_lt uuid.bits.isLt
  rw [digits, ofDigits?, if_pos (length_hexTail 32 _), hexNumber?_hexTail, hbound,
    Option.map_some, BitVec.ofNat_toNat, BitVec.setWidth_eq]

/-! ## Groups -/

/-- How many characters groups of the given lengths have. -/
def totalLength (lengths : List Nat) : Nat := lengths.foldr (· + ·) 0

theorem totalLength_cons (n : Nat) (lengths : List Nat) :
    totalLength (n :: lengths) = n + totalLength lengths := rfl

theorem flatten_groups (lengths : List Nat) (text : List Char) :
    (groups lengths text).flatten = text.take (totalLength lengths) := by
  induction lengths generalizing text with
  | nil => rfl
  | cons n lengths ih => rw [groups, List.flatten_cons, ih, totalLength_cons, List.take_add]

theorem map_length_groups {lengths : List Nat} {text : List Char}
    (h : totalLength lengths ≤ text.length) : (groups lengths text).map List.length = lengths := by
  induction lengths generalizing text with
  | nil => rfl
  | cons n lengths ih =>
      rw [totalLength_cons] at h
      rw [groups, List.map_cons, List.length_take, Nat.min_eq_left (by omega),
        ih (by rw [List.length_drop]; omega)]

/-- Joining groups adds a character between any two of them. -/
theorem length_intercalate_groups {lengths : List Nat} (hne : lengths ≠ []) {text : List Char}
    (h : totalLength lengths ≤ text.length) :
    (['-'].intercalate (groups lengths text)).length =
      totalLength lengths + lengths.length - 1 := by
  induction lengths generalizing text with
  | nil => exact absurd rfl hne
  | cons n lengths ih =>
      rw [totalLength_cons] at h
      have hfirst : (text.take n).length = n := by rw [List.length_take]; omega
      cases lengths with
      | nil => simpa [groups, List.intercalate, totalLength] using hfirst
      | cons m lengths =>
          have hdrop : totalLength (m :: lengths) ≤ (text.drop n).length := by
            rw [List.length_drop]
            omega
          have hrest := ih (List.cons_ne_nil m lengths) hdrop
          rw [groups] at hrest ⊢
          rw [groups, intercalate_cons_cons, List.length_append, List.length_cons, hrest, hfirst]
          simp only [totalLength_cons, List.length_cons]
          omega

theorem ofGroups?_groups (uuid : Uuid) :
    ofGroups? (['-'].intercalate (groups groupLengths uuid.digits)) = some uuid := by
  have hlength : uuid.digits.length = totalLength groupLengths := length_hexTail 32 _
  have hpieces : ∀ piece ∈ groups groupLengths uuid.digits, '-' ∉ piece := by
    intro piece hpiece hhyphen
    have hmem : '-' ∈ (groups groupLengths uuid.digits).flatten :=
      List.mem_flatten.2 ⟨piece, hpiece, hhyphen⟩
    rw [flatten_groups] at hmem
    have hdigit := isSome_hexDigitValue_of_mem_hexTail (List.mem_of_mem_take hmem)
    exact absurd hdigit (by decide)
  have hne : groups groupLengths uuid.digits ≠ [] := List.cons_ne_nil _ _
  have hsplit := splitAtChar_intercalate hne hpieces
  rw [ofGroups?, hsplit, if_pos (map_length_groups hlength.ge), flatten_groups, ← hlength,
    List.take_length, ofDigits?_digits]

/-- **An identifier is read back from its written form.** -/
theorem ofText?_text (uuid : Uuid) : ofText? uuid.text = some uuid := by
  have hlength : (['-'].intercalate (groups groupLengths uuid.digits)).length = 36 :=
    length_intercalate_groups (by decide) (length_hexTail 32 _).ge
  rw [ofText?, text, String.toList_ofList, hlength, if_neg (by decide), if_pos rfl,
    ofGroups?_groups]

/-- Different identifiers are written differently. -/
theorem text_injective : Function.Injective text := by
  intro uuid other h
  have hread := ofText?_text uuid
  rw [h, ofText?_text] at hread
  exact (Option.some.inj hread).symm

end Uuid

end VoiceSkill
