import VoiceSkill.Dict
import Mathlib.Tactic.SplitIfs

/-!
# The order of keys

Keys are compared character by character, and their UTF-8 bytes come in the same order
(`lt_iff_utf8_lt`): a later character has a greater byte where the bytes of two characters first
differ. So the entries of a dictionary are in the order of the bytes of their keys
(`Dict.keys_pairwise_utf8`).
-/

namespace VoiceSkill

/-! ## Characters -/

theorem byte_lt_iff {a b : Nat} (ha : a < 256) (hb : b < 256) :
    UInt8.ofNat a < UInt8.ofNat b ↔ a < b := by
  rw [UInt8.lt_iff_toNat_lt, UInt8.toNat_ofNat_of_lt' ha, UInt8.toNat_ofNat_of_lt' hb]

theorem byte_eq_iff {a b : Nat} (ha : a < 256) (hb : b < 256) :
    UInt8.ofNat a = UInt8.ofNat b ↔ a = b := by
  rw [← UInt8.toNat_inj, UInt8.toNat_ofNat_of_lt' ha, UInt8.toNat_ofNat_of_lt' hb]

theorem lt_sextet {n m : Nat} (h : n < m) :
    n / 64 < m / 64 ∨ n / 64 = m / 64 ∧ n % 64 < m % 64 := by
  omega

/-- Four groups of bits, of which the last three have six bits, are compared from the front. -/
theorem lt_sextets {n m : Nat} (h : n < m) :
    n / 262144 < m / 262144 ∨ n / 262144 = m / 262144 ∧
      (n / 4096 % 64 < m / 4096 % 64 ∨ n / 4096 % 64 = m / 4096 % 64 ∧
        (n / 64 % 64 < m / 64 % 64 ∨ n / 64 % 64 = m / 64 % 64 ∧ n % 64 < m % 64)) := by
  have hlast := lt_sextet h
  have hthird (h : n / 64 < m / 64) := lt_sextet h
  have hsecond (h : n / 64 / 64 < m / 64 / 64) := lt_sextet h
  simp only [Nat.div_div_eq_div_mul, Nat.reduceMul] at hthird hsecond
  omega

theorem codePoint_lt (c : Char) : c.val.toNat < 0x110000 := by
  rcases c.valid with h | h
  · exact Nat.lt_trans h (by decide)
  · exact h.2

/-- The bytes of a later character are greater, whatever follows them. -/
theorem utf8EncodeChar_append_lt {c d : Char} (h : c < d) (rest others : List UInt8) :
    String.utf8EncodeChar c ++ rest < String.utf8EncodeChar d ++ others := by
  have hlt : c.val.toNat < d.val.toNat := h
  have hc := codePoint_lt c
  have hd := codePoint_lt d
  unfold String.utf8EncodeChar
  generalize c.val.toNat = n at hlt hc
  generalize d.val.toNat = m at hlt hd
  have hsextets := lt_sextets hlt
  -- the leading byte of four has room for more bits than there are
  have hn : n / 262144 % 8 = n / 262144 := Nat.mod_eq_of_lt (by omega)
  have hm : m / 262144 % 8 = m / 262144 := Nat.mod_eq_of_lt (by omega)
  dsimp only
  -- more bytes begin with a greater one, and as many are compared one by one
  split_ifs <;>
    simp (disch := omega) only [List.cons_append, List.cons_lt_cons_iff, byte_lt_iff, byte_eq_iff,
      hn, hm] <;>
    omega

/-! ## Texts -/

/-- The UTF-8 bytes of a text. -/
def utf8 (text : String) : List UInt8 := text.toUTF8.data.toList

theorem utf8_eq_flatMap (text : String) :
    utf8 text = text.toList.flatMap String.utf8EncodeChar := by
  have hbytes : text.toByteArray = text.toList.utf8Encode := by
    rw [← String.toByteArray_ofList, String.ofList_toList]
  rw [utf8, String.toUTF8_eq_toByteArray, hbytes, List.utf8Encode, List.toList_data_toByteArray]

theorem flatMap_utf8EncodeChar_lt {a b : List Char} (h : a < b) :
    a.flatMap String.utf8EncodeChar < b.flatMap String.utf8EncodeChar := by
  induction a generalizing b with
  | nil =>
      cases b with
      | nil => exact absurd h (List.lt_irrefl _)
      | cons d rest =>
          obtain ⟨byte, bytes, hbytes⟩ := List.exists_cons_of_ne_nil
            (String.utf8EncodeChar_ne_nil (c := d))
          rw [List.flatMap_cons, hbytes]
          exact List.nil_lt_cons _ _
  | cons c rest ih =>
      cases b with
      | nil => cases h
      | cons d others =>
          rw [List.flatMap_cons, List.flatMap_cons]
          rcases List.cons_lt_cons_iff.1 h with hlt | ⟨rfl, hrest⟩
          · exact utf8EncodeChar_append_lt hlt _ _
          · exact List.append_left_lt (ih hrest)

/-- **Texts are in the order of their bytes.** -/
theorem lt_iff_utf8_lt {a b : String} : a < b ↔ utf8 a < utf8 b := by
  have hforward {a b : String} (h : a < b) : utf8 a < utf8 b := by
    rw [utf8_eq_flatMap, utf8_eq_flatMap]
    exact flatMap_utf8EncodeChar_lt (String.lt_iff.1 h)
  refine ⟨hforward, fun h => Decidable.byContradiction fun hnot => ?_⟩
  by_cases hlt : b < a
  · exact List.lt_asymm h (hforward hlt)
  · rw [eq_of_not_lt hnot hlt] at h
    exact List.lt_irrefl _ h

theorem Dict.keys_pairwise_utf8 {α : Type} (d : Dict α) :
    d.keys.Pairwise fun a b => utf8 a < utf8 b :=
  d.keys_pairwise.imp lt_iff_utf8_lt.1

end VoiceSkill
