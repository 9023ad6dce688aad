import VoiceSkill.Proofs.Assembly.Identifiers
import VoiceSkill.Proofs.Utterance.Compile

/-!
# What a token depends on

A placeholder cuts a sample in two. However malformed the braces on one side are, they have no part
in what the other side compiles to (`tokens_around_placeholder`).
-/

namespace VoiceSkill

/-- Two tokens that differ in their identifiers at most. -/
def Token.Alike {ι κ : Type} (token : Token ι) (other : Token κ) : Prop :=
  token.map anonymous = other.map anonymous

/-- The tokens of a compiled sample, with the identifiers that `fresh` gives for consecutive numbers
from a first number on. -/
def compiledTokens (config : BuildConfig) (intent : Intent) (fresh : Nat → Uuid) (first : Nat)
    (sample : String) : List (Token Uuid) :=
  (((compileSample config intent sample).number first).map fresh).tokens

theorem map_anonymous_compiledTokens (config : BuildConfig) (intent : Intent) (fresh : Nat → Uuid)
    (first : Nat) (sample : String) :
    (compiledTokens config intent fresh first sample).map (Token.map anonymous) =
      (compileSample config intent sample).tokens := by
  have hutterance : (((compileSample config intent sample).number first).map fresh).map anonymous =
      compileSample config intent sample := by
    rw [Utterance.map_map]
    exact Utterance.map_anonymous_number first _
  exact congrArg Utterance.tokens hutterance

/-! ## Around a placeholder -/

/-- A name in braces. -/
def inBraces (name : String) : String := "\x7b" ++ name ++ "\x7d"

theorem isPlaceholder_inBraces {name : String} (h : IsSlotName name.toList) :
    IsPlaceholder (inBraces name).toList :=
  ⟨name.toList, h, by simp [inBraces, braced]⟩

/-- Nothing but a placeholder is one segment. -/
theorem scan_inBraces {name : String} (h : IsSlotName name.toList) :
    Pattern.placeholder.scan (inBraces name) = [inBraces name] := by
  have hscan := Pattern.scan_around (isPlaceholder_inBraces h) "" ""
  rwa [String.empty_append, String.append_empty, Pattern.scan_empty] at hscan

/-- What a sample compiles to is put together from both sides of a placeholder. -/
theorem tokens_compileSample_around (config : BuildConfig) (intent : Intent)
    (before after : String) {name : String} (h : IsSlotName name.toList) :
    (compileSample config intent (before ++ inBraces name ++ after)).tokens =
      (compileSample config intent before).tokens ++
        (intent.resolver config.platform).token (inBraces name) ::
          (compileSample config intent after).tokens := by
  rw [tokens_compileSample, tokens_compileSample, tokens_compileSample,
    Pattern.scan_around (isPlaceholder_inBraces h), List.map_append, List.map_cons]

/-- **A placeholder cuts a sample in two**: the tokens of the sample are those of what stands in
front, the one token of the placeholder by itself, and those of what stands behind, whatever the
identifiers. -/
theorem tokens_around_placeholder (config : BuildConfig) (intent : Intent) (before after : String)
    {name : String} (h : IsSlotName name.toList) (fresh : Nat → Uuid)
    (first first₁ first₂ first₃ : Nat) :
    ∃ token, compiledTokens config intent fresh first₂ (inBraces name) = [token] ∧
      List.Forall₂ Token.Alike
        (compiledTokens config intent fresh first (before ++ inBraces name ++ after))
        (compiledTokens config intent fresh first₁ before ++
          token :: compiledTokens config intent fresh first₃ after) := by
  have hplaceholder := map_anonymous_compiledTokens config intent fresh first₂ (inBraces name)
  rw [tokens_compileSample, scan_inBraces h, List.map_singleton] at hplaceholder
  obtain ⟨token, htoken, hanonymous⟩ := List.map_eq_singleton_iff.1 hplaceholder
  refine ⟨token, htoken, ?_⟩
  have hwhole : (compiledTokens config intent fresh first
        (before ++ inBraces name ++ after)).map (Token.map anonymous) =
      (compiledTokens config intent fresh first₁ before ++
        token :: compiledTokens config intent fresh first₃ after).map (Token.map anonymous) := by
    rw [map_anonymous_compiledTokens, tokens_compileSample_around config intent before after h,
      List.map_append, List.map_cons, map_anonymous_compiledTokens, map_anonymous_compiledTokens,
      hanonymous]
  rw [← List.forall₂_eq_eq_eq, List.forall₂_map_left_iff, List.forall₂_map_right_iff] at hwhole
  exact hwhole

/-- Stray braces on both sides of a placeholder keep out of it. -/
theorem tokens_around_placeholder_city :
    ∃ token, compiledTokens ⟨.enUS, none, "dialogFlow", false, false, 5⟩
        ⟨"BookFlight", [], [], [⟨"city", "City", []⟩]⟩ (Uuid.generated 0) 2 (inBraces "city") =
          [token] ∧
      List.Forall₂ Token.Alike
        (compiledTokens ⟨.enUS, none, "dialogFlow", false, false, 5⟩
          ⟨"BookFlight", [], [], [⟨"city", "City", []⟩]⟩ (Uuid.generated 0) 0
          ("to \x7b" ++ inBraces "city" ++ "\x7d now"))
        (compiledTokens ⟨.enUS, none, "dialogFlow", false, false, 5⟩
            ⟨"BookFlight", [], [], [⟨"city", "City", []⟩]⟩ (Uuid.generated 0) 1 "to \x7b" ++
          token :: compiledTokens ⟨.enUS, none, "dialogFlow", false, false, 5⟩
            ⟨"BookFlight", [], [], [⟨"city", "City", []⟩]⟩ (Uuid.generated 0) 3 "\x7d now") :=
  tokens_around_placeholder _ _ _ _ ⟨by decide, by simp [isBrace]⟩ _ _ _ _ _

end VoiceSkill
