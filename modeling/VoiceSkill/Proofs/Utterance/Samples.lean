import VoiceSkill.Proofs.Assembly.Identifiers
import VoiceSkill.Proofs.Sample
import VoiceSkill.Proofs.Utterance.Compile

/-!
# What the samples of an intent compile to

The utterances of an intent spell its merged samples, one each and in their order. They can
therefore be compiled once more from what they spell, and nothing changes but their identifiers
(`compileSamples_merged`).
-/

namespace VoiceSkill

/-- Utterances with the identifiers that `fresh` gives for consecutive numbers. -/
def identify (fresh : Nat → Uuid) (first : Nat) (utterances : List (Utterance Unit)) :
    List (Utterance Uuid) :=
  (numberUtterances first utterances).map (Utterance.map fresh)

theorem map_anonymous_identify (fresh : Nat → Uuid) (first : Nat)
    (utterances : List (Utterance Unit)) :
    (identify fresh first utterances).map (Utterance.map anonymous) = utterances := by
  rw [identify, List.map_map]
  calc (numberUtterances first utterances).map (Utterance.map anonymous ∘ Utterance.map fresh)
      = (numberUtterances first utterances).map (Utterance.map anonymous) := by
        apply List.map_congr_left
        intro utterance _
        exact Utterance.map_map fresh anonymous utterance
    _ = utterances := map_anonymous_numberUtterances first utterances

@[simp] theorem Token.text_map {ι κ : Type} (f : ι → κ) (token : Token ι) :
    (token.map f).text = token.text := by
  cases token <;> rfl

/-- What an utterance spells does not depend on its identifiers. -/
@[simp] theorem Utterance.sample_map {ι κ : Type} (f : ι → κ) (utterance : Utterance ι) :
    (utterance.map f).sample = utterance.sample := by
  simp [Utterance.sample, Utterance.map, Function.comp_def]

theorem map_sample_identify (fresh : Nat → Uuid) (first : Nat)
    (utterances : List (Utterance Unit)) :
    (identify fresh first utterances).map Utterance.sample =
      utterances.map Utterance.sample := by
  conv_rhs => rw [← map_anonymous_identify fresh first utterances, List.map_map]
  apply List.map_congr_left
  intro utterance _
  exact (utterance.sample_map anonymous).symm

theorem sample_compileSample (config : BuildConfig) (intent : Intent) (sample : String) :
    (compileSample config intent sample).sample = sample :=
  (forall₂_isTokenOf config intent sample).2

theorem map_sample_compileSamples (config : BuildConfig) (intent : Intent)
    (samples : List String) :
    (compileSamples config intent samples).map Utterance.sample =
      mergeSamples intent.name samples := by
  rw [compileSamples, List.map_map]
  exact List.map_id'' (fun sample => sample_compileSample config intent sample) _

/-- **The utterances of an intent spell its merged samples**, and these are the samples of the
author and of the intent without empty ones and repetitions, in the order of their first
occurrences. Compiling what the utterances spell gives the same utterances with other
identifiers, whether it is merged before or not. -/
theorem compileSamples_merged (config : BuildConfig) (intent : Intent) (samples : List String)
    (fresh fresh' : Nat → Uuid) (first first' : Nat) :
    let compiled := identify fresh first (compileSamples config intent samples)
    let spelled := compiled.map Utterance.sample
    spelled = mergeSamples intent.name samples ∧
      IsCompaction (samples ++ builtinSamples intent.name) spelled ∧
      (identify fresh' first' (compileSamples config intent spelled)).map
          (Utterance.map anonymous) = compiled.map (Utterance.map anonymous) ∧
      spelled.map (compileSample config intent) = compiled.map (Utterance.map anonymous) := by
  intro compiled spelled
  have hspelled : spelled = mergeSamples intent.name samples := by
    rw [← map_sample_compileSamples config intent samples]
    exact map_sample_identify fresh first _
  have hcompiled : compiled.map (Utterance.map anonymous) =
      compileSamples config intent samples := map_anonymous_identify fresh first _
  rw [hspelled, hcompiled, map_anonymous_identify]
  refine ⟨rfl, isCompaction_mergeSamples intent.name samples, ?_, rfl⟩
  rw [compileSamples, compileSamples, mergeSamples_mergeSamples]

end VoiceSkill
