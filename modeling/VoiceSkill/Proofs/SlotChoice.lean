import VoiceSkill.Intent

/-!
# The slot that a name stands for

Of the slots of an intent that are visible on a platform, the first one that carries a name stands
for it (`StandsFor`). Looking among all slots and looking among the visible ones, as a resolver
does, find that same slot (`slot?_eq_some_iff`, `resolver_slot?`).
-/

namespace VoiceSkill

/-- A slot stands for a name on a platform: it is visible there and carries the name, and no slot
declared before it is and does. -/
def StandsFor (intent : Intent) (platform name : String) (slot : Slot) : Prop :=
  ∃ before after, intent.slots = before ++ slot :: after ∧
    slot.appliesToPlatform platform = true ∧ slot.name = name ∧
    ∀ other ∈ before, other.appliesToPlatform platform = true → other.name ≠ name

/-- A name is known on a platform: some slot that is visible there carries it. -/
def IsKnownName (intent : Intent) (platform name : String) : Prop :=
  ∃ slot ∈ intent.slots, slot.appliesToPlatform platform = true ∧ slot.name = name

namespace Intent

variable {intent : Intent} {platform name : String} {slot : Slot}

theorem slot?_eq_some_iff :
    intent.slot? platform name = some slot ↔ StandsFor intent platform name slot := by
  rw [slot?, List.find?_eq_some_iff_append, Bool.and_eq_true, beq_iff_eq]
  constructor
  · rintro ⟨⟨hplatform, hname⟩, before, after, hslots, hbefore⟩
    refine ⟨before, after, hslots, hplatform, hname, ?_⟩
    intro other hother hvisible heq
    simpa [hvisible, heq] using hbefore other hother
  · rintro ⟨before, after, hslots, hplatform, hname, hbefore⟩
    refine ⟨⟨hplatform, hname⟩, before, after, hslots, ?_⟩
    intro other hother
    cases hvisible : other.appliesToPlatform platform with
    | false => rfl
    | true => simpa using hbefore other hother hvisible

theorem isSome_slot?_iff :
    (intent.slot? platform name).isSome = true ↔ IsKnownName intent platform name := by
  rw [slot?, List.find?_isSome]
  simp only [Bool.and_eq_true, beq_iff_eq]
  rfl

theorem slot?_eq_none_iff :
    intent.slot? platform name = none ↔ ¬ IsKnownName intent platform name := by
  rw [← isSome_slot?_iff, Bool.not_eq_true, Option.isSome_eq_false_iff, Option.isNone_iff_eq_none]

/-- A resolver finds what is found among all slots of its intent. -/
theorem resolver_slot? (intent : Intent) (platform name : String) :
    (intent.resolver platform).slot? name = intent.slot? platform name := by
  rw [Resolver.slot?, resolver, visibleSlots, List.find?_filter, slot?]
  simp only [Bool.decide_and, Bool.decide_eq_true]

end Intent

end VoiceSkill
