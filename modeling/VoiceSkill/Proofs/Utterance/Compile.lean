import VoiceSkill.Utterance.Compile
import VoiceSkill.Proofs.SlotChoice
import VoiceSkill.Proofs.Template.Scan

/-!
# What a sample compiles to

Every segment of a sample becomes one token in its place that keeps the segment's text
(`forall₂_isTokenOf`). A placeholder refers to the slot that its name stands for, or stays literal
and marked; a segment without both kinds of braces stays literal and unmarked.

A reference is well formed if its text is the name of its slot in braces. That holds of everything a
sample compiles to exactly if no stretch between its placeholders, read without its first opening
and its first closing brace, spells the name of a slot (`tokens_isWellFormed_iff`).
-/

namespace VoiceSkill

/-! ## The name that a segment gives -/

theorem toList_withoutFirst (c : Char) (text : String) :
    (withoutFirst c text).toList = text.toList.erase c := by
  rw [withoutFirst, String.toList_ofList]

theorem placeholderName?_eq_none_iff {segment : String} :
    placeholderName? segment = none ↔ '\x7b' ∉ segment.toList ∨ '\x7d' ∉ segment.toList := by
  rw [placeholderName?, ite_eq_right_iff]
  simp only [Bool.and_eq_true, List.contains_iff_mem, reduceCtorEq, imp_false, not_and_or]

theorem placeholderName?_eq_some_iff {segment name : String} :
    placeholderName? segment = some name ↔
      '\x7b' ∈ segment.toList ∧ '\x7d' ∈ segment.toList ∧
        name = withoutFirst '\x7d' (withoutFirst '\x7b' segment) := by
  rw [placeholderName?]
  split
  · rename_i h
    rw [Bool.and_eq_true, List.contains_iff_mem, List.contains_iff_mem] at h
    rw [Option.some.injEq, eq_comm]
    exact ⟨fun hname => ⟨h.1, h.2, hname⟩, fun hname => hname.2.2⟩
  · rename_i h
    rw [Bool.and_eq_true, List.contains_iff_mem, List.contains_iff_mem] at h
    constructor
    · intro hname
      cases hname
    · rintro ⟨hopen, hclose, _⟩
      exact absurd ⟨hopen, hclose⟩ h

/-- A placeholder gives the name in its braces. -/
theorem placeholderName?_of_braced {segment name : String} (hname : IsSlotName name.toList)
    (hsegment : segment.toList = braced name.toList) : placeholderName? segment = some name := by
  have hclose : '\x7d' ∉ name.toList := by
    intro hmem
    exact absurd (hname.braceless _ hmem) (by decide)
  rw [placeholderName?_eq_some_iff, ← String.toList_inj, toList_withoutFirst, toList_withoutFirst,
    hsegment, braced]
  refine ⟨by simp, by simp, ?_⟩
  rw [List.erase_cons_head, List.erase_append_right _ hclose, List.erase_cons_head,
    List.append_nil]

/-! ## The segments of a sample -/

/-- No segment is empty, so that every segment becomes a token. -/
theorem sampleSegments_eq_scan (sample : String) :
    sampleSegments sample = Pattern.placeholder.scan sample := by
  rw [sampleSegments, List.filter_eq_self]
  intro segment hsegment
  have hmem : segment.toList ∈ (Pattern.placeholder.scan sample).map String.toList :=
    List.mem_map_of_mem hsegment
  have hne : segment.toList ≠ [] := (Pattern.segmentation_scan sample).nonempty _ hmem
  rw [bne_iff_ne]
  rintro rfl
  exact hne rfl

/-- One after the other the segments spell the sample. -/
theorem join_scan (sample : String) :
    String.join (Pattern.placeholder.scan sample) = sample := by
  rw [← String.toList_inj, String.toList_join]
  exact (Pattern.segmentation_scan sample).spells

/-! ## The token of a segment -/

/-- The token that a segment of a sample has to become. It keeps the text of the segment (`text`).
For a placeholder it refers to a slot exactly if the name is known (`refers`), and then to the one
that the name stands for, with the name of its type as entity (`reference`); otherwise it is a
literal that is marked (`marked`). Where a kind of brace is missing it is a literal that is not
(`plain`). -/
structure IsTokenOf (intent : Intent) (platform segment : String) (token : Token Unit) : Prop where
  text : token.text = segment
  refers : ∀ name : String, IsSlotName name.toList → segment.toList = braced name.toList →
    (token.isSlotRef = true ↔ IsKnownName intent platform name)
  reference : ∀ name : String, IsSlotName name.toList → segment.toList = braced name.toList →
    token.isSlotRef = true → ∃ slot, StandsFor intent platform name slot ∧
      intent.slot? platform name = some slot ∧
      (intent.resolver platform).slot? name = some slot ∧
      token = .slotRef ("@" ++ kebabCase slot.slotType) name segment () true
  marked : ∀ name : String, IsSlotName name.toList → segment.toList = braced name.toList →
    token.isSlotRef = false → token = .literal segment () true
  plain : '\x7b' ∉ segment.toList ∨ '\x7d' ∉ segment.toList →
    token = .literal segment () false

theorem Resolver.text_token (resolver : Resolver) (segment : String) :
    (resolver.token segment).text = segment := by
  rw [Resolver.token]
  split
  · rfl
  · split <;> rfl

theorem Resolver.token_of_placeholderName? (resolver : Resolver) {segment name : String}
    (h : placeholderName? segment = some name) :
    resolver.token segment =
      match resolver.slot? name with
      | some slot => .slotRef (entityReference slot.slotType) slot.name segment () true
      | none => .literal segment () true := by
  cases hslot : resolver.slot? name with
  | none => simp only [Resolver.token, h, hslot]
  | some slot => simp only [Resolver.token, h, hslot]

theorem isTokenOf_token (intent : Intent) (platform segment : String) :
    IsTokenOf intent platform segment ((intent.resolver platform).token segment) := by
  have hplaceholder : ∀ name : String, IsSlotName name.toList →
      segment.toList = braced name.toList →
      (∃ slot, StandsFor intent platform name slot ∧ (intent.resolver platform).token segment =
          .slotRef ("@" ++ kebabCase slot.slotType) name segment () true) ∨
        (¬ IsKnownName intent platform name ∧
          (intent.resolver platform).token segment = .literal segment () true) := by
    intro name hname hsegment
    rw [Resolver.token_of_placeholderName? _ (placeholderName?_of_braced hname hsegment),
      Intent.resolver_slot?]
    cases hslot : intent.slot? platform name with
    | none => exact Or.inr ⟨Intent.slot?_eq_none_iff.1 hslot, rfl⟩
    | some slot =>
        have hstands := Intent.slot?_eq_some_iff.1 hslot
        obtain ⟨_, _, _, _, hslotName, _⟩ := id hstands
        exact Or.inl ⟨slot, hstands, by rw [← hslotName]; rfl⟩
  refine ⟨Resolver.text_token _ segment, ?_, ?_, ?_, ?_⟩
  · intro name hname hsegment
    rcases hplaceholder name hname hsegment with ⟨slot, hstands, htoken⟩ | ⟨hunknown, htoken⟩
    · obtain ⟨before, after, hslots, hvisible, hslotName, _⟩ := hstands
      rw [htoken]
      exact ⟨fun _ => ⟨slot, by rw [hslots]; simp, hvisible, hslotName⟩, fun _ => rfl⟩
    · rw [htoken]
      constructor
      · intro href
        cases href
      · intro hknown
        exact absurd hknown hunknown
  · intro name hname hsegment href
    rcases hplaceholder name hname hsegment with ⟨slot, hstands, htoken⟩ | ⟨_, htoken⟩
    · have hslot := Intent.slot?_eq_some_iff.2 hstands
      exact ⟨slot, hstands, hslot, by rw [Intent.resolver_slot?, hslot], htoken⟩
    · rw [htoken] at href
      cases href
  · intro name hname hsegment hliteral
    rcases hplaceholder name hname hsegment with ⟨slot, _, htoken⟩ | ⟨_, htoken⟩
    · rw [htoken] at hliteral
      cases hliteral
    · exact htoken
  · intro hmissing
    rw [Resolver.token, placeholderName?_eq_none_iff.2 hmissing]

theorem tokens_compileSample (config : BuildConfig) (intent : Intent) (sample : String) :
    (compileSample config intent sample).tokens =
      (Pattern.placeholder.scan sample).map (intent.resolver config.platform).token := by
  rw [← sampleSegments_eq_scan]
  rfl

/-- **What a sample compiles to**: one token for each of its segments, in their order, each with its
segment's text, so that together they spell the sample. -/
theorem forall₂_isTokenOf (config : BuildConfig) (intent : Intent) (sample : String) :
    List.Forall₂ (IsTokenOf intent config.platform) (Pattern.placeholder.scan sample)
        (compileSample config intent sample).tokens ∧
      (compileSample config intent sample).sample = sample := by
  rw [Utterance.sample, tokens_compileSample]
  constructor
  · rw [List.forall₂_map_right_iff, List.forall₂_same]
    intro segment _
    exact isTokenOf_token intent config.platform segment
  · have htexts : ((Pattern.placeholder.scan sample).map
        (intent.resolver config.platform).token).map Token.text =
        Pattern.placeholder.scan sample := by
      rw [List.map_map]
      exact List.map_id'' (fun segment => Resolver.text_token _ segment) _
    rw [htexts, join_scan]

/-! ## Well-formed references -/

/-- A reference to a slot is well formed if its text is the name of the slot in braces, a name being
not empty and without braces. -/
def Token.IsWellFormed {ι : Type} (token : Token ι) : Prop :=
  ∀ slotName : String, token.slotName? = some slotName →
    IsSlotName slotName.toList ∧ token.text.toList = braced slotName.toList

theorem Token.isWellFormed_literal {ι : Type} (text : String) (id : ι) (userDefined : Bool) :
    (Token.literal text id userDefined).IsWellFormed := by
  intro slotName hslotName
  cases hslotName

theorem Token.isWellFormed_slotRef_iff {ι : Type} {entityType slotName text : String} {id : ι}
    {userDefined : Bool} :
    (Token.slotRef entityType slotName text id userDefined).IsWellFormed ↔
      IsSlotName slotName.toList ∧ text.toList = braced slotName.toList := by
  constructor
  · intro hwell
    exact hwell slotName rfl
  · intro hbraced name hname
    obtain rfl : slotName = name := Option.some.inj hname
    exact hbraced

/-- A segment that gives a name is a placeholder only if that name stands in its braces. -/
theorem isPlaceholder_iff_of_placeholderName? {segment name : String}
    (h : placeholderName? segment = some name) :
    IsPlaceholder segment.toList ↔
      IsSlotName name.toList ∧ segment.toList = braced name.toList := by
  constructor
  · rintro ⟨inner, hinner, hbraced⟩
    have hread : placeholderName? segment = some (String.ofList inner) :=
      placeholderName?_of_braced (by rwa [String.toList_ofList]) (by rwa [String.toList_ofList])
    have hname : name.toList = inner := by
      rw [Option.some.inj (h.symm.trans hread), String.toList_ofList]
    rw [hname]
    exact ⟨hinner, hbraced⟩
  · rintro ⟨hname, hbraced⟩
    exact ⟨name.toList, hname, hbraced⟩

/-- The token of a segment is well formed unless the segment is no placeholder and yet, without the
first of each brace, spells a name that is known. -/
theorem isWellFormed_token_iff (intent : Intent) (platform segment : String) :
    ((intent.resolver platform).token segment).IsWellFormed ↔
      (¬ IsPlaceholder segment.toList → '\x7b' ∈ segment.toList → '\x7d' ∈ segment.toList →
        ¬ IsKnownName intent platform (withoutFirst '\x7d' (withoutFirst '\x7b' segment))) := by
  cases hname : placeholderName? segment with
  | none =>
      have htoken : (intent.resolver platform).token segment = .literal segment () false := by
        rw [Resolver.token, hname]
      rw [htoken]
      refine iff_of_true (Token.isWellFormed_literal segment () false) ?_
      intro _ hopen hclose
      rcases placeholderName?_eq_none_iff.1 hname with hmissing | hmissing
      · exact absurd hopen hmissing
      · exact absurd hclose hmissing
  | some name =>
      have hplaceholder := isPlaceholder_iff_of_placeholderName? hname
      have htoken := (intent.resolver platform).token_of_placeholderName? hname
      rw [Intent.resolver_slot?] at htoken
      obtain ⟨hopen, hclose, rfl⟩ := placeholderName?_eq_some_iff.1 hname
      cases hslot : intent.slot? platform
          (withoutFirst '\x7d' (withoutFirst '\x7b' segment)) with
      | none =>
          rw [hslot] at htoken
          rw [htoken]
          refine iff_of_true (Token.isWellFormed_literal segment () true) ?_
          intro _ _ _
          exact Intent.slot?_eq_none_iff.1 hslot
      | some slot =>
          rw [hslot] at htoken
          obtain ⟨_, _, _, _, hslotName, _⟩ := Intent.slot?_eq_some_iff.1 hslot
          have hknown : IsKnownName intent platform
              (withoutFirst '\x7d' (withoutFirst '\x7b' segment)) :=
            Intent.isSome_slot?_iff.1 (by rw [hslot]; rfl)
          -- the name of the slot is the one that was read, so it decides about the braces
          rw [htoken, Token.isWellFormed_slotRef_iff, hslotName, ← hplaceholder]
          constructor
          · intro hwell hmalformed
            exact absurd hwell hmalformed
          · intro hcondition
            by_contra hmalformed
            exact hcondition hmalformed hopen hclose hknown

/-- **When all references of a sample are well formed**: exactly if no segment that is not a
placeholder, but has both kinds of braces, spells a known name without the first of each. -/
theorem tokens_isWellFormed_iff (config : BuildConfig) (intent : Intent) (sample : String) :
    (∀ token ∈ (compileSample config intent sample).tokens, token.IsWellFormed) ↔
      ∀ segment ∈ Pattern.placeholder.scan sample, ¬ IsPlaceholder segment.toList →
        '\x7b' ∈ segment.toList → '\x7d' ∈ segment.toList →
        ¬ IsKnownName intent config.platform
          (withoutFirst '\x7d' (withoutFirst '\x7b' segment)) := by
  rw [tokens_compileSample, List.forall_mem_map]
  simp only [isWellFormed_token_iff]

/-- A name between stray braces: the closing one in front and the opening one behind. -/
def strayBraced (name : String) : String := "\x7d" ++ name ++ "\x7b"

theorem toList_strayBraced (name : String) :
    (strayBraced name).toList = '\x7d' :: (name.toList ++ ['\x7b']) := by
  simp [strayBraced]

/-- Stray braces around a name without braces make no placeholder anywhere. -/
theorem not_isPlaceholder_of_infix_strayBraced {name : String} {p : List Char}
    (hname : ∀ c ∈ name.toList, isBrace c = false) (hp : p <:+: (strayBraced name).toList) :
    ¬ IsPlaceholder p := by
  rintro ⟨inner, _, rfl⟩
  obtain ⟨before, after, htext⟩ := hp
  rw [List.append_assoc, braced_append, toList_strayBraced] at htext
  cases before with
  | nil =>
      simp only [List.nil_append, List.cons.injEq] at htext
      exact absurd htext.1 (by decide)
  | cons c before =>
      rw [List.cons_append, List.cons.injEq] at htext
      rcases List.append_eq_append_iff.1 htext.2 with ⟨tail, hhead, htail⟩ | ⟨tail, _, htail⟩
      · -- the opening brace of the placeholder stands in the name, or is the last character
        cases tail with
        | nil => simp at htail
        | cons d tail =>
            rw [List.cons_append, List.cons.injEq] at htail
            have hmem : '\x7b' ∈ name.toList := by rw [hhead, ← htail.1]; simp
            exact absurd (hname _ hmem) (by decide)
      · have hlength := congrArg List.length htail
        simp only [List.length_append, List.length_cons, List.length_nil] at hlength
        omega

/-- **Every slot whose name has no braces can be referred to with stray braces**, and the text of
that reference is no placeholder. -/
theorem tokens_strayBraced (config : BuildConfig) {intent : Intent} {name : String}
    (hknown : IsKnownName intent config.platform name)
    (hname : ∀ c ∈ name.toList, isBrace c = false) :
    ∃ slot, StandsFor intent config.platform name slot ∧
      (compileSample config intent (strayBraced name)).tokens =
        [.slotRef ("@" ++ kebabCase slot.slotType) name (strayBraced name) () true] := by
  have hfree : ∀ p, p <:+: (strayBraced name).toList → ¬ IsPlaceholder p :=
    fun p hp => not_isPlaceholder_of_infix_strayBraced hname hp
  have hscan : Pattern.placeholder.scan (strayBraced name) = [strayBraced name] := by
    have hsingle : Segmentation (strayBraced name).toList [(strayBraced name).toList] :=
      .single (by rw [toList_strayBraced]; simp) hfree
    have hsegments := (Pattern.segmentation_scan (strayBraced name)).unique hsingle
    exact (List.map_inj_right fun _ _ => String.toList_inj.1).1 hsegments
  have hread : placeholderName? (strayBraced name) = some name := by
    have hopen : '\x7b' ∉ name.toList := fun hmem => absurd (hname _ hmem) (by decide)
    rw [placeholderName?_eq_some_iff, ← String.toList_inj, toList_withoutFirst,
      toList_withoutFirst, toList_strayBraced]
    refine ⟨by simp, by simp, ?_⟩
    rw [List.erase_cons_tail (by decide), List.erase_append_right _ hopen, List.erase_cons_head,
      List.erase_cons_head, List.append_nil]
  obtain ⟨slot, hslot⟩ := Option.isSome_iff_exists.1 (Intent.isSome_slot?_iff.2 hknown)
  have hstands := Intent.slot?_eq_some_iff.1 hslot
  obtain ⟨_, _, _, _, hslotName, _⟩ := id hstands
  refine ⟨slot, hstands, ?_⟩
  rw [tokens_compileSample, hscan, List.map_singleton, Resolver.token_of_placeholderName? _ hread,
    Intent.resolver_slot?, hslot, ← hslotName]
  rfl

/-- Stray braces around the name of the only slot make a reference that is not well formed. -/
theorem not_isWellFormed_stray_city :
    ¬ ∀ token ∈ (compileSample ⟨.enUS, none, "dialogFlow", false, false, 5⟩
        ⟨"BookFlight", [], [], [⟨"city", "City", []⟩]⟩ "\x7dcity\x7b").tokens,
      token.IsWellFormed := by
  have htext : "\x7dcity\x7b" = strayBraced "city" := by decide
  rw [htext]
  intro h
  have hknown : IsKnownName ⟨"BookFlight", [], [], [⟨"city", "City", []⟩]⟩ "dialogFlow" "city" :=
    ⟨_, List.mem_singleton_self _, rfl, rfl⟩
  have hname : ∀ c ∈ "city".toList, isBrace c = false := by simp [isBrace]
  obtain ⟨slot, _, htokens⟩ :=
    tokens_strayBraced ⟨.enUS, none, "dialogFlow", false, false, 5⟩ hknown hname
  obtain ⟨_, hbraced⟩ := h _ (by rw [htokens]; exact List.mem_singleton_self _) "city" rfl
  have hdiffer : (strayBraced "city").toList ≠ braced "city".toList := by decide
  exact hdiffer hbraced

end VoiceSkill
