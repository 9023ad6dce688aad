import VoiceSkill.Proofs.Utterance.Locality
import Mathlib.Logic.Relation

/-!
# What an intent has to say about its samples

Of an intent, only the types that names stand for on the platform have a part in what a sample
compiles to (`compilesAlike_of_sameTypes`). Whatever leaves these as they are can be edited, in any
number of steps: the name of the intent and its tags, slots of other platforms, slots declared again
under the name of an earlier one, and the order of slots with different names (`Edit`).
-/

namespace VoiceSkill

/-- On a platform a name stands for a slot of a type. -/
def HasType (platform : String) (intent : Intent) (name slotType : String) : Prop :=
  ∃ slot, StandsFor intent platform name slot ∧ slot.slotType = slotType

/-- On a platform every name stands for slots of one type in both intents, or for none in either. -/
def SameTypes (platform : String) (intent other : Intent) : Prop :=
  ∀ name slotType, HasType platform intent name slotType ↔ HasType platform other name slotType

/-- Every sample compiles to the same tokens for both intents, but for their identifiers. -/
def CompilesAlike (config config' : BuildConfig) (intent other : Intent) : Prop :=
  ∀ (sample : String) (fresh fresh' : Nat → Uuid) (first first' : Nat),
    List.Forall₂ Token.Alike (compiledTokens config intent fresh first sample)
      (compiledTokens config' other fresh' first' sample)

/-- The entity that a name refers to on a platform. -/
def RefersTo (platform : String) (intent : Intent) (name entity : String) : Prop :=
  ∃ slotType, HasType platform intent name slotType ∧ entity = entityReference slotType

variable {platform : String} {intent other : Intent}

/-! ## Types -/

theorem hasType_iff {name slotType : String} :
    HasType platform intent name slotType ↔
      (intent.slot? platform name).map Slot.slotType = some slotType := by
  rw [HasType, Option.map_eq_some_iff]
  simp only [Intent.slot?_eq_some_iff]

theorem sameTypes_iff :
    SameTypes platform intent other ↔
      ∀ name, (intent.slot? platform name).map Slot.slotType =
        (other.slot? platform name).map Slot.slotType := by
  simp only [SameTypes, hasType_iff]
  constructor
  · intro h name
    exact Option.ext (h name)
  · intro h name slotType
    rw [h name]

theorem refersTo_iff {name entity : String} :
    RefersTo platform intent name entity ↔
      (intent.slot? platform name).map (fun slot => entityReference slot.slotType) =
        some entity := by
  simp only [RefersTo, hasType_iff, Option.map_eq_some_iff]
  constructor
  · rintro ⟨_, ⟨slot, hslot, rfl⟩, rfl⟩
    exact ⟨slot, hslot, rfl⟩
  · rintro ⟨slot, hslot, rfl⟩
    exact ⟨slot.slotType, ⟨slot, hslot, rfl⟩, rfl⟩

/-- The token of a segment depends on the types of names alone. -/
theorem token_of_sameTypes (h : SameTypes platform intent other) (segment : String) :
    (intent.resolver platform).token segment = (other.resolver platform).token segment := by
  cases hname : placeholderName? segment with
  | none => rw [Resolver.token, Resolver.token, hname]
  | some name =>
      rw [Resolver.token_of_placeholderName? _ hname, Resolver.token_of_placeholderName? _ hname,
        Intent.resolver_slot?, Intent.resolver_slot?]
      have htypes := sameTypes_iff.1 h name
      cases hslot : intent.slot? platform name with
      | none =>
          rw [hslot] at htypes
          rw [Option.map_eq_none_iff.1 htypes.symm]
      | some slot =>
          rw [hslot] at htypes
          obtain ⟨second, hsecond, hslotType⟩ := Option.map_eq_some_iff.1 htypes.symm
          -- both slots carry the name that was looked for
          obtain ⟨_, _, _, _, hslotName, _⟩ := Intent.slot?_eq_some_iff.1 hslot
          obtain ⟨_, _, _, _, hsecondName, _⟩ := Intent.slot?_eq_some_iff.1 hsecond
          rw [hsecond]
          simp only [hslotType, hslotName, hsecondName]

theorem compilesAlike_iff {config config' : BuildConfig} :
    CompilesAlike config config' intent other ↔
      ∀ sample, (compileSample config intent sample).tokens =
        (compileSample config' other sample).tokens := by
  have hanonymous (sample : String) (fresh fresh' : Nat → Uuid) (first first' : Nat) :
      List.Forall₂ Token.Alike (compiledTokens config intent fresh first sample)
          (compiledTokens config' other fresh' first' sample) ↔
        (compileSample config intent sample).tokens =
          (compileSample config' other sample).tokens := by
    rw [← map_anonymous_compiledTokens config intent fresh first sample,
      ← map_anonymous_compiledTokens config' other fresh' first' sample,
      ← List.forall₂_eq_eq_eq, List.forall₂_map_left_iff, List.forall₂_map_right_iff]
    rfl
  constructor
  · intro h sample
    exact (hanonymous sample (Uuid.generated 0) (Uuid.generated 0) 0 0).1 (h sample _ _ _ _)
  · intro h sample fresh fresh' first first'
    exact (hanonymous sample fresh fresh' first first').2 (h sample)

/-! ## Edits -/

/-- An edit of an intent that is of no account on a platform. -/
inductive Edit (platform : String) : Intent → Intent → Prop where
  /-- The intent is given another name and other tags. -/
  | declaration (intent : Intent) (name : String) (platforms environments : List String) :
    Edit platform intent { intent with name, platforms, environments }
  /-- A slot of other platforms is left out. -/
  | hidden (intent : Intent) (before after : List Slot) (slot : Slot)
    (hslots : intent.slots = before ++ slot :: after)
    (hhidden : slot.appliesToPlatform platform = false) :
    Edit platform intent { intent with slots := before ++ after }
  /-- A slot is left out that carries the name of a visible one declared before it. -/
  | repeated (intent : Intent) (before after : List Slot) (earlier slot : Slot)
    (hslots : intent.slots = before ++ slot :: after) (hearlier : earlier ∈ before)
    (hvisible : earlier.appliesToPlatform platform = true) (hname : earlier.name = slot.name) :
    Edit platform intent { intent with slots := before ++ after }
  /-- Two neighbours with different names change places. -/
  | swap (intent : Intent) (before after : List Slot) (left right : Slot)
    (hslots : intent.slots = before ++ left :: right :: after) (hname : left.name ≠ right.name) :
    Edit platform intent { intent with slots := before ++ right :: left :: after }

/-- An edit changes no name's slot. -/
theorem Edit.slot? (h : Edit platform intent other) (name : String) :
    other.slot? platform name = intent.slot? platform name := by
  cases h with
  | declaration => rfl
  | hidden before after slot hslots hhidden =>
      simp only [Intent.slot?, hslots, List.find?_append, List.find?_cons, hhidden,
        Bool.false_and]
  | repeated before after earlier slot hslots hearlier hvisible hname =>
      simp only [Intent.slot?, hslots, List.find?_append, List.find?_cons]
      cases hfound : (slot.appliesToPlatform platform && slot.name == name) with
      | false => rfl
      | true =>
          -- the earlier slot carries the name as well, so the search never comes to this one
          obtain ⟨_, hslotName⟩ := Bool.and_eq_true_iff.1 hfound
          have hsome : (before.find? fun slot =>
              slot.appliesToPlatform platform && slot.name == name).isSome = true := by
            rw [List.find?_isSome]
            exact ⟨earlier, hearlier, by rw [hvisible, hname, hslotName]; rfl⟩
          obtain ⟨found, hfound⟩ := Option.isSome_iff_exists.1 hsome
          rw [hfound]
          rfl
  | swap before after left right hslots hname =>
      simp only [Intent.slot?, hslots, List.find?_append, List.find?_cons]
      cases hleft : left.name == name with
      | false => simp only [Bool.and_false]
      | true =>
          have hright : (right.name == name) = false := by
            rw [beq_eq_false_iff_ne, ← beq_iff_eq.1 hleft]
            exact Ne.symm hname
          simp only [hright, Bool.and_false]

theorem SameTypes.symm (h : SameTypes platform intent other) :
    SameTypes platform other intent :=
  fun name slotType => (h name slotType).symm

theorem SameTypes.trans {third : Intent} (h : SameTypes platform intent other)
    (h' : SameTypes platform other third) : SameTypes platform intent third :=
  fun name slotType => (h name slotType).trans (h' name slotType)

/-- Any number of edits, made or undone, leave the types of names as they are. -/
theorem sameTypes_of_edits (h : Relation.EqvGen (Edit platform) intent other) :
    SameTypes platform intent other := by
  induction h with
  | rel intent other hedit =>
      rw [sameTypes_iff]
      intro name
      rw [hedit.slot? name]
  | refl intent => exact fun _ _ => Iff.rfl
  | symm intent other _ ih => exact ih.symm
  | trans intent other third _ _ ih ih' => exact ih.trans ih'

/-! ## Tokens -/

/-- The entity that a name refers to shows in what the name in braces compiles to. -/
theorem refersTo_of_tokens_eq {config config' : BuildConfig}
    (hplatform : config'.platform = config.platform) {name : String}
    (hname : IsSlotName name.toList)
    (h : (compileSample config intent (inBraces name)).tokens =
      (compileSample config' other (inBraces name)).tokens) (entity : String) :
    RefersTo config.platform intent name entity ↔ RefersTo config.platform other name entity := by
  have hread : placeholderName? (inBraces name) = some name :=
    placeholderName?_of_braced hname (by simp [inBraces, braced])
  rw [tokens_compileSample, tokens_compileSample, scan_inBraces hname, List.map_singleton,
    List.map_singleton, List.singleton_inj, hplatform,
    Resolver.token_of_placeholderName? _ hread, Resolver.token_of_placeholderName? _ hread,
    Intent.resolver_slot?, Intent.resolver_slot?] at h
  rw [refersTo_iff, refersTo_iff]
  cases hslot : intent.slot? config.platform name <;>
    cases hsecond : other.slot? config.platform name <;>
    simp_all

/-- **Only the types of names have a part in what a sample compiles to.** Two intents in which every
name stands for slots of one type on the platform compile every sample to the same tokens, but for
identifiers, and so do two of which one comes from the other by edits that are of no account there.
The types do have a part: intents that compile alike refer to the same entity by every name that can
stand in braces. -/
theorem compilesAlike_of_sameTypes (config config' : BuildConfig)
    (hplatform : config'.platform = config.platform) (intent other : Intent) :
    (SameTypes config.platform intent other → CompilesAlike config config' intent other) ∧
    (Relation.EqvGen (Edit config.platform) intent other →
      CompilesAlike config config' intent other) ∧
    (CompilesAlike config config' intent other → ∀ name entity, IsSlotName name.toList →
      (RefersTo config.platform intent name entity ↔
        RefersTo config.platform other name entity)) := by
  have hsame (h : SameTypes config.platform intent other) :
      CompilesAlike config config' intent other := by
    rw [compilesAlike_iff]
    intro sample
    rw [tokens_compileSample, tokens_compileSample, hplatform]
    exact List.map_congr_left fun segment _ => token_of_sameTypes h segment
  refine ⟨hsame, fun h => hsame (sameTypes_of_edits h), ?_⟩
  intro h name entity hname
  exact refersTo_of_tokens_eq hplatform hname (compilesAlike_iff.1 h _) entity

/-- An intent for flights, with a slot for another platform and a name that is declared twice. -/
def flightIntent : Intent :=
  ⟨"BookFlight", [], ["alpha"],
    [⟨"city", "City", []⟩, ⟨"date", "Date", ["alexa"]⟩, ⟨"city", "Town", []⟩, ⟨"seat", "Seat", []⟩]⟩

/-- What is left of it for one platform, under another name and in another order. -/
def briefFlightIntent : Intent :=
  ⟨"Fly", ["dialogFlow"], [], [⟨"seat", "Seat", []⟩, ⟨"city", "City", []⟩]⟩

theorem edits_flightIntent :
    Relation.EqvGen (Edit "dialogFlow") flightIntent briefFlightIntent := by
  have hrenamed : Edit "dialogFlow" flightIntent ⟨"Fly", ["dialogFlow"], [], flightIntent.slots⟩ :=
    .declaration flightIntent "Fly" ["dialogFlow"] []
  have hhidden : Edit "dialogFlow" ⟨"Fly", ["dialogFlow"], [], flightIntent.slots⟩
      ⟨"Fly", ["dialogFlow"], [],
        [⟨"city", "City", []⟩, ⟨"city", "Town", []⟩, ⟨"seat", "Seat", []⟩]⟩ :=
    .hidden _ [⟨"city", "City", []⟩] [⟨"city", "Town", []⟩, ⟨"seat", "Seat", []⟩]
      ⟨"date", "Date", ["alexa"]⟩ rfl (by decide)
  have hrepeated : Edit "dialogFlow"
      ⟨"Fly", ["dialogFlow"], [],
        [⟨"city", "City", []⟩, ⟨"city", "Town", []⟩, ⟨"seat", "Seat", []⟩]⟩
      ⟨"Fly", ["dialogFlow"], [], [⟨"city", "City", []⟩, ⟨"seat", "Seat", []⟩]⟩ :=
    .repeated _ [⟨"city", "City", []⟩] [⟨"seat", "Seat", []⟩] ⟨"city", "City", []⟩
      ⟨"city", "Town", []⟩ rfl List.mem_cons_self (by decide) rfl
  have hswap : Edit "dialogFlow"
      ⟨"Fly", ["dialogFlow"], [], [⟨"city", "City", []⟩, ⟨"seat", "Seat", []⟩]⟩
      briefFlightIntent :=
    .swap _ [] [] ⟨"city", "City", []⟩ ⟨"seat", "Seat", []⟩ rfl (by decide)
  exact .trans _ _ _ (.rel _ _ hrenamed) (.trans _ _ _ (.rel _ _ hhidden)
    (.trans _ _ _ (.rel _ _ hrepeated) (.rel _ _ hswap)))

/-- Both compile alike, whatever else the configurations say, and both refer to cities by name. -/
theorem compilesAlike_flightIntent :
    SameTypes "dialogFlow" flightIntent briefFlightIntent ∧
      Relation.EqvGen (Edit "dialogFlow") flightIntent briefFlightIntent ∧
      CompilesAlike ⟨.enUS, none, "dialogFlow", false, false, 5⟩
        ⟨.deDE, none, "dialogFlow", true, true, 1⟩ flightIntent briefFlightIntent ∧
      RefersTo "dialogFlow" briefFlightIntent "city" "@city" := by
  obtain ⟨hsame, hedits, hrefers⟩ :=
    compilesAlike_of_sameTypes ⟨.enUS, none, "dialogFlow", false, false, 5⟩
      ⟨.deDE, none, "dialogFlow", true, true, 1⟩ rfl flightIntent briefFlightIntent
  have htypes := sameTypes_of_edits edits_flightIntent
  have hname : IsSlotName "city".toList := ⟨by decide, by simp [isBrace]⟩
  refine ⟨htypes, edits_flightIntent, hedits edits_flightIntent, ?_⟩
  exact (hrefers (hsame htypes) "city" "@city" hname).1 (refersTo_iff.2 (by decide +kernel))

end VoiceSkill
