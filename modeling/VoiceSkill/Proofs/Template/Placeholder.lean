import VoiceSkill.Template.Segment

/-!
# Placeholders

What a placeholder is, said without the pattern that finds it: braces around a name. The pattern
matches at the start of a text exactly if the text begins with a placeholder, and it takes just
that one (`matchLength_placeholder_eq_some_iff`). Two placeholders in one text are the same or do
not meet (`IsPlaceholder.same_or_apart`), which is why a text can be cut at all of them.
-/

namespace VoiceSkill

/-! ## Names and placeholders -/

/-- Whether a character is a brace. -/
def isBrace (c : Char) : Bool := c == '\x7b' || c == '\x7d'

/-- A text that braces can make a placeholder of: not empty, without braces. -/
structure IsSlotName (name : List Char) : Prop where
  nonempty : name ≠ []
  braceless : ∀ c ∈ name, isBrace c = false

/-- A text in braces. -/
def braced (name : List Char) : List Char := '\x7b' :: (name ++ ['\x7d'])

/-- A placeholder: a name in braces. -/
def IsPlaceholder (text : List Char) : Prop := ∃ name, IsSlotName name ∧ text = braced name

theorem length_braced (name : List Char) : (braced name).length = name.length + 2 := by
  simp [braced]

theorem braced_append (name rest : List Char) :
    braced name ++ rest = '\x7b' :: (name ++ '\x7d' :: rest) := by
  simp [braced]

theorem IsPlaceholder.ne_nil {text : List Char} (h : IsPlaceholder text) : text ≠ [] := by
  obtain ⟨name, _, rfl⟩ := h
  simp [braced]

/-- A closing brace ends a name in one way only. -/
theorem braceless_append_inj {a b r s : List Char} (ha : ∀ c ∈ a, isBrace c = false)
    (hb : ∀ c ∈ b, isBrace c = false) (h : a ++ '\x7d' :: r = b ++ '\x7d' :: s) :
    a = b ∧ r = s := by
  induction a generalizing b with
  | nil =>
      cases b with
      | nil => exact ⟨rfl, by simpa using h⟩
      | cons c b =>
          have hc : isBrace c = false := hb c (by simp)
          simp only [List.nil_append, List.cons_append, List.cons.injEq] at h
          rw [← h.1] at hc
          exact absurd hc (by decide)
  | cons c a ih =>
      cases b with
      | nil =>
          have hc : isBrace c = false := ha c (by simp)
          simp only [List.nil_append, List.cons_append, List.cons.injEq] at h
          rw [h.1] at hc
          exact absurd hc (by decide)
      | cons d b =>
          simp only [List.cons_append, List.cons.injEq] at h
          obtain ⟨rfl, hrest⟩ := h
          obtain ⟨rfl, rfl⟩ := ih (fun x hx => ha x (by simp [hx]))
            (fun x hx => hb x (by simp [hx])) hrest
          exact ⟨rfl, rfl⟩

/-- A text begins with one placeholder at most. -/
theorem IsPlaceholder.eq_of_append_eq {p q r s : List Char} (hp : IsPlaceholder p)
    (hq : IsPlaceholder q) (h : p ++ r = q ++ s) : p = q := by
  obtain ⟨a, ha, rfl⟩ := hp
  obtain ⟨b, hb, rfl⟩ := hq
  rw [braced_append, braced_append, List.cons.injEq] at h
  rw [(braceless_append_inj ha.braceless hb.braceless h.2).1]

/-- **Placeholders never overlap**: one that occurs in a text which begins with a placeholder is
that one, or lies behind it. -/
theorem IsPlaceholder.same_or_apart {p q rest before after : List Char} (hp : IsPlaceholder p)
    (hq : IsPlaceholder q) (h : p ++ rest = before ++ q ++ after) :
    (before = [] ∧ q = p ∧ after = rest) ∨
      ∃ between, before = p ++ between ∧ rest = between ++ q ++ after := by
  rw [List.append_assoc] at h
  rcases List.append_eq_append_iff.1 h with ⟨between, rfl, hrest⟩ | ⟨tail, hptail, hq'⟩
  · exact Or.inr ⟨between, rfl, by rw [hrest, List.append_assoc]⟩
  · cases before with
    | nil =>
        have hsame : p = q := hp.eq_of_append_eq hq h
        subst hsame
        exact Or.inl ⟨rfl, rfl, (List.append_cancel_left h).symm⟩
    | cons c before =>
        cases tail with
        | nil =>
            refine Or.inr ⟨[], ?_, ?_⟩
            · simpa using hptail.symm
            · simpa using hq'.symm
        | cons d tail =>
            -- the opening brace of `q` would stand in the name of `p` or close it
            obtain ⟨a, ha, rfl⟩ := hp
            obtain ⟨b, _, rfl⟩ := hq
            rw [braced_append, List.cons_append, List.cons.injEq] at hq'
            obtain ⟨rfl, _⟩ := hq'
            rw [braced, List.cons_append, List.cons.injEq] at hptail
            have hmem : '\x7b' ∈ a ++ ['\x7d'] := by rw [hptail.2]; simp
            rcases List.mem_append.1 hmem with hin | hin
            · exact absurd (ha.braceless _ hin) (by decide)
            · exact absurd hin (by decide)

/-- Beside a placeholder in the midst of a text, another one stands in front of it, is that one, or
stands behind it. -/
theorem IsPlaceholder.before_same_or_behind {p q left right before after : List Char}
    (hp : IsPlaceholder p) (hq : IsPlaceholder q)
    (h : left ++ p ++ right = before ++ q ++ after) :
    (∃ between, left = before ++ q ++ between ∧ after = between ++ p ++ right) ∨
      (before = left ∧ q = p ∧ after = right) ∨
        ∃ between, before = left ++ p ++ between ∧ right = between ++ q ++ after := by
  rw [List.append_assoc, List.append_assoc] at h
  -- the one that begins first stands at the front of what is left of the text
  rcases List.append_eq_append_iff.1 h with ⟨tail, rfl, htext⟩ | ⟨tail, rfl, htext⟩
  · rw [← List.append_assoc] at htext
    rcases hp.same_or_apart hq htext with ⟨rfl, hsame, hafter⟩ | ⟨between, rfl, hright⟩
    · exact Or.inr (Or.inl ⟨by simp, hsame, hafter⟩)
    · exact Or.inr (Or.inr ⟨between, by simp, hright⟩)
  · rw [← List.append_assoc] at htext
    rcases hq.same_or_apart hp htext with ⟨rfl, hsame, hafter⟩ | ⟨between, rfl, hafter⟩
    · exact Or.inr (Or.inl ⟨by simp, hsame.symm, hafter.symm⟩)
    · exact Or.inl ⟨between, by simp, hafter⟩

/-! ## What the pattern matches -/

namespace CharSet

theorem contains_singleton (c d : Char) : (singleton c).contains d = (d == c) := by
  rw [Bool.eq_iff_iff, beq_iff_eq]
  simp only [singleton, contains, List.any_cons, List.any_nil, Bool.or_false]
  simp only [Bool.false_bne, Bool.and_eq_true, decide_eq_true_eq]
  exact ⟨fun h => Char.le_antisymm h.2 h.1, fun h => h ▸ ⟨Char.le_refl _, Char.le_refl _⟩⟩

end CharSet

namespace Pattern

/-- The pattern is what its written form says. -/
theorem ofSource?_placeholderSource : ofSource? placeholderSource = some placeholder := by
  rfl

/-- The characters of names. -/
def nameSet : CharSet := ⟨true, [('\x7b', '\x7b'), ('\x7d', '\x7d')]⟩

theorem contains_nameSet (c : Char) : nameSet.contains c = !isBrace c := by
  have hopen := CharSet.contains_singleton '\x7b' c
  have hclose := CharSet.contains_singleton '\x7d' c
  simp only [CharSet.singleton, CharSet.contains, List.any_cons, List.any_nil, Bool.or_false,
    Bool.false_bne] at hopen hclose
  simp only [nameSet, CharSet.contains, List.any_cons, List.any_nil, Bool.or_false, hopen, hclose,
    isBrace, Bool.true_bne]

theorem matchPieces_once_cons (set : CharSet) (pieces : List Piece) (c : Char) (rest : List Char) :
    matchPieces (⟨set, .once⟩ :: pieces) (c :: rest) =
      if set.contains c then (matchPieces pieces rest).map (· + 1) else none := rfl

theorem matchPieces_atLeastOnce_cons (set : CharSet) (pieces : List Piece) (c : Char)
    (rest : List Char) :
    matchPieces (⟨set, .atLeastOnce⟩ :: pieces) (c :: rest) =
      if set.contains c then (takeMost set (matchPieces pieces) rest).map (· + 1) else none := rfl

/-- The rest of a pattern behind the name. -/
def closing : List Char → Option Nat := matchPieces [⟨.singleton '\x7d', .once⟩]

theorem closing_nil : closing [] = none := rfl

theorem closing_cons (c : Char) (rest : List Char) :
    closing (c :: rest) = if c = '\x7d' then some 1 else none := by
  rw [closing, matchPieces_once_cons, CharSet.contains_singleton]
  simp only [beq_iff_eq]
  rfl

/-- A name is taken as far as its closing brace. -/
theorem takeMost_closing_eq_some_iff {text : List Char} {n : Nat} :
    takeMost nameSet closing text = some n ↔
      ∃ name rest, (∀ c ∈ name, isBrace c = false) ∧ text = name ++ '\x7d' :: rest ∧
        n = name.length + 1 := by
  induction text generalizing n with
  | nil => simp [takeMost, closing_nil]
  | cons c text ih =>
      rw [takeMost, contains_nameSet]
      cases hc : isBrace c with
      | true =>
          -- a brace ends the name, which is empty here
          simp only [Bool.not_true, Bool.false_eq_true, if_false, closing_cons]
          constructor
          · intro h
            split at h
            · rename_i hclose
              subst hclose
              exact ⟨[], text, by simp, rfl, by simpa using h.symm⟩
            · cases h
          · rintro ⟨name, rest, hname, htext, rfl⟩
            cases name with
            | nil =>
                simp only [List.nil_append, List.cons.injEq] at htext
                simp [htext.1]
            | cons d name =>
                simp only [List.cons_append, List.cons.injEq] at htext
                have hd : isBrace d = false := hname d (by simp)
                rw [← htext.1, hc] at hd
                cases hd
      | false =>
          have hne : c ≠ '\x7d' := fun h => by rw [h] at hc; exact absurd hc (by decide)
          simp only [Bool.not_false, if_true, closing_cons, if_neg hne]
          constructor
          · intro h
            cases hrest : takeMost nameSet closing text with
            | none => simp [hrest] at h
            | some m =>
                obtain ⟨name, rest, hname, rfl, rfl⟩ := ih.1 hrest
                refine ⟨c :: name, rest, ?_, rfl, by simpa [hrest] using h.symm⟩
                intro d hd
                rcases List.mem_cons.1 hd with rfl | hd
                · exact hc
                · exact hname d hd
          · rintro ⟨name, rest, hname, htext, rfl⟩
            cases name with
            | nil =>
                simp only [List.nil_append, List.cons.injEq] at htext
                exact absurd htext.1 hne
            | cons d name =>
                simp only [List.cons_append, List.cons.injEq] at htext
                obtain ⟨rfl, rfl⟩ := htext
                have hrest : takeMost nameSet closing (name ++ '\x7d' :: rest) =
                    some (name.length + 1) :=
                  ih.2 ⟨name, rest, fun x hx => hname x (by simp [hx]), rfl, rfl⟩
                rw [hrest]
                rfl

theorem matchLength_placeholder_nil : placeholder.matchLength [] = none := rfl

theorem matchLength_placeholder_singleton (c : Char) : placeholder.matchLength [c] = none := by
  rw [matchLength, placeholder, matchPieces_once_cons]
  split <;> rfl

theorem matchLength_placeholder_cons_cons (c d : Char) (rest : List Char) :
    placeholder.matchLength (c :: d :: rest) =
      if c = '\x7b' ∧ isBrace d = false then (takeMost nameSet closing rest).map (· + 2)
      else none := by
  have hinner : matchPieces [⟨nameSet, .atLeastOnce⟩, ⟨.singleton '\x7d', .once⟩] (d :: rest) =
      if isBrace d = false then (takeMost nameSet closing rest).map (· + 1) else none := by
    rw [matchPieces_atLeastOnce_cons, contains_nameSet]
    cases isBrace d <;> rfl
  have houter : placeholder.matchLength (c :: d :: rest) =
      if (c == '\x7b') = true then
        (matchPieces [⟨nameSet, .atLeastOnce⟩, ⟨.singleton '\x7d', .once⟩] (d :: rest)).map (· + 1)
      else none := by
    rw [matchLength, placeholder, matchPieces_once_cons, CharSet.contains_singleton]
    rfl
  rw [houter, hinner]
  by_cases hc : c = '\x7b' <;> cases hd : isBrace d <;>
    simp [hc, Option.map_map, Function.comp_def]

/-- **The pattern finds placeholders**: it matches at the start of a text exactly if the text
begins with a placeholder, and takes as many characters as that has. -/
theorem matchLength_placeholder_eq_some_iff {text : List Char} {n : Nat} :
    placeholder.matchLength text = some n ↔
      ∃ p rest, IsPlaceholder p ∧ text = p ++ rest ∧ n = p.length := by
  constructor
  · intro h
    match text with
    | [] => cases h
    | [c] => rw [matchLength_placeholder_singleton] at h; cases h
    | c :: d :: text =>
        rw [matchLength_placeholder_cons_cons] at h
        split at h
        · rename_i hcd
          obtain ⟨rfl, hd⟩ := hcd
          obtain ⟨m, hm, rfl⟩ := Option.map_eq_some_iff.1 h
          obtain ⟨name, rest, hname, rfl, rfl⟩ := takeMost_closing_eq_some_iff.1 hm
          refine ⟨braced (d :: name), rest, ⟨d :: name, ⟨by simp, ?_⟩, rfl⟩, ?_, ?_⟩
          · intro x hx
            rcases List.mem_cons.1 hx with rfl | hx
            · exact hd
            · exact hname x hx
          · rw [braced_append, List.cons_append]
          · rw [length_braced, List.length_cons]
        · cases h
  · rintro ⟨_, rest, ⟨name, hname, rfl⟩, rfl, rfl⟩
    obtain ⟨d, name, rfl⟩ := List.exists_cons_of_ne_nil hname.nonempty
    have htake : takeMost nameSet closing (name ++ '\x7d' :: rest) = some (name.length + 1) :=
      takeMost_closing_eq_some_iff.2
        ⟨name, rest, fun x hx => hname.braceless x (by simp [hx]), rfl, rfl⟩
    rw [braced_append, List.cons_append, matchLength_placeholder_cons_cons,
      if_pos ⟨rfl, hname.braceless d (by simp)⟩, htake, length_braced, List.length_cons]
    rfl

/-- Where the pattern does not match, no placeholder begins. -/
theorem matchLength_placeholder_eq_none_iff {text : List Char} :
    placeholder.matchLength text = none ↔ ∀ p rest, IsPlaceholder p → text ≠ p ++ rest := by
  rw [Option.eq_none_iff_forall_ne_some]
  constructor
  · intro h p rest hp htext
    exact h p.length (matchLength_placeholder_eq_some_iff.2 ⟨p, rest, hp, htext, rfl⟩)
  · intro h n hn
    obtain ⟨p, rest, hp, htext, _⟩ := matchLength_placeholder_eq_some_iff.1 hn
    exact h p rest hp htext

end Pattern

end VoiceSkill
