import Mathlib.Logic.Relation
import VoiceSkill.Command.Settings
import VoiceSkill.Proofs.Config

/-!
# The last layer counts

A configuration of several layers is the validated draft of the values that stand in the last layer
that sets them (`Overrides.applyTo_settings`). What an earlier layer sets for such a value takes no
part, not even in the checks (`values_of_hiddenChanges`), and all of it comes together in
`layeredConfig_takes_last`.
-/

namespace VoiceSkill

/-! ## The last layer that sets a value -/

section LastSet

variable {α : Type}

/-- What the last layer sets among those that set anything. -/
def lastSet (layers : List (Option α)) : Option α := layers.reverse.findSome? id

@[simp]
theorem lastSet_nil : lastSet ([] : List (Option α)) = none := rfl

@[simp]
theorem lastSet_append (before after : List (Option α)) :
    lastSet (before ++ after) = (lastSet after).or (lastSet before) := by
  rw [lastSet, List.reverse_append, List.findSome?_append]
  rfl

@[simp]
theorem lastSet_cons (layer : Option α) (after : List (Option α)) :
    lastSet (layer :: after) = (lastSet after).or layer := by
  rw [← List.singleton_append, lastSet_append]
  cases layer <;> rfl

end LastSet

/-! ## Values of all layers -/

/-- The draft of the values that stand in the last layer that sets them. A flag is set if the
settings or the overrides set it. -/
def lastValues (definition : Definition) (settings : Settings) (overrides : Overrides) :
    ConfigDraft where
  locale := lastSet [definition.locale, settings.locale, overrides.locale]
  skillId := lastSet [definition.skillId, settings.skillId]
  platform := lastSet [settings.platform, overrides.platform]
  flattenLocale := settings.flattenLocale = some true ∨ overrides.flattenLocale = true
  warnUnresolved := settings.warnUnresolved = some true ∨ overrides.warnUnresolved = true
  leastUtterances := lastSet [definition.leastUtterances, settings.leastUtterances]

variable {definition : Definition} {settings : Settings} {overrides : Overrides}

/-- A flag of two layers, one of which may leave it open. -/
theorem decide_flag (setting : Option Bool) (override : Bool) :
    decide (setting = some true ∨ override = true) = (setting.getD false || override) := by
  cases setting <;> simp

/-- Layers that are put on one by one leave the values that are set last. -/
theorem Overrides.applyTo_settings :
    overrides.applyTo (settings.applyTo (.ofDefinition definition)) =
      lastValues definition settings overrides := by
  rw [lastValues, decide_flag, decide_flag]
  simp [applyTo, Settings.applyTo, ConfigDraft.ofDefinition, ConfigDraft.empty, Option.or_assoc]

theorem layeredConfig_eq_validate :
    layeredConfig definition settings overrides =
      (lastValues definition settings overrides).validate := by
  rw [layeredConfig, Overrides.applyTo_settings]

/-! ## Values under others -/

/-- The layers of a configuration. -/
structure Layers where
  definition : Definition
  settings : Settings
  overrides : Overrides

/-- One value of a layer is changed that a later layer sets as well. -/
inductive HiddenChange : Layers → Layers → Prop
  | definitionLocale (layers : Layers) (locale : Option String)
      (h : layers.settings.locale ≠ none ∨ layers.overrides.locale ≠ none) :
      HiddenChange layers { layers with definition := { layers.definition with locale } }
  | definitionSkillId (layers : Layers) (skillId : Option String)
      (h : layers.settings.skillId ≠ none) :
      HiddenChange layers { layers with definition := { layers.definition with skillId } }
  | definitionLeastUtterances (layers : Layers) (leastUtterances : Option UInt64)
      (h : layers.settings.leastUtterances ≠ none) :
      HiddenChange layers { layers with definition := { layers.definition with leastUtterances } }
  | settingsLocale (layers : Layers) (locale : Option String) (h : layers.overrides.locale ≠ none) :
      HiddenChange layers { layers with settings := { layers.settings with locale } }
  | settingsPlatform (layers : Layers) (platform : Option String)
      (h : layers.overrides.platform ≠ none) :
      HiddenChange layers { layers with settings := { layers.settings with platform } }
  | settingsFlattenLocale (layers : Layers) (flattenLocale : Option Bool)
      (h : layers.overrides.flattenLocale = true) :
      HiddenChange layers { layers with settings := { layers.settings with flattenLocale } }
  | settingsWarnUnresolved (layers : Layers) (warnUnresolved : Option Bool)
      (h : layers.overrides.warnUnresolved = true) :
      HiddenChange layers { layers with settings := { layers.settings with warnUnresolved } }

/-- The draft that counts for some layers. -/
def Layers.values (layers : Layers) : ConfigDraft :=
  lastValues layers.definition layers.settings layers.overrides

/-- The configuration of some layers. -/
def Layers.config (layers : Layers) : Except ConfigError BuildConfig :=
  layeredConfig layers.definition layers.settings layers.overrides

theorem values_of_hiddenChange {layers changed : Layers} (h : HiddenChange layers changed) :
    changed.values = layers.values := by
  simp only [Layers.values, lastValues, lastSet_cons, lastSet_nil, Option.none_or]
  cases h with
  | definitionLocale locale h =>
      have hset : (layers.overrides.locale.or layers.settings.locale).isSome := by
        rcases h with h | h <;> simp [Option.isSome_iff_ne_none.2 h]
      simp only [Option.or_of_isSome hset]
  | definitionSkillId skillId h =>
      simp only [Option.or_of_isSome (Option.isSome_iff_ne_none.2 h)]
  | definitionLeastUtterances least h =>
      simp only [Option.or_of_isSome (Option.isSome_iff_ne_none.2 h)]
  | settingsLocale locale h =>
      simp only [Option.or_of_isSome (Option.isSome_iff_ne_none.2 h)]
  | settingsPlatform platform h =>
      simp only [Option.or_of_isSome (Option.isSome_iff_ne_none.2 h)]
  | settingsFlattenLocale flatten h => simp only [h, or_true]
  | settingsWarnUnresolved warn h => simp only [h, or_true]

theorem values_of_hiddenChanges {layers changed : Layers}
    (h : Relation.EqvGen HiddenChange layers changed) : changed.values = layers.values := by
  induction h with
  | rel _ _ h => exact values_of_hiddenChange h
  | refl _ => rfl
  | symm _ _ _ ih => exact ih.symm
  | trans _ _ _ _ _ ih₁ ih₂ => exact ih₂.trans ih₁

/-- **The last layer that sets a value decides it.** The configuration of a definition, settings and
overrides is the one that the values of the last layers make, if all of these are valid, and
otherwise the layers are refused for the first of these values that is not. Values under others have
no part in the outcome, whether they are valid or not. -/
theorem layeredConfig_takes_last (layers : Layers) :
    (∀ config, layers.config = .ok config ↔
      layers.values.Makes config ∧ layers.values.SkillIdValid ∧ layers.values.PlatformValid ∧
        layers.values.leastUtterances ≠ some 0) ∧
    (∀ e, layers.config = .error e ↔ layers.values.FirstInvalid e) ∧
    (∀ changed, Relation.EqvGen HiddenChange layers changed → changed.config = layers.config) := by
  have hvalidate (layers : Layers) : layers.config = layers.values.validate :=
    layeredConfig_eq_validate
  refine ⟨fun config => ?_, fun e => ?_, fun changed h => ?_⟩
  · rw [hvalidate, ConfigDraft.validate_eq_ok_iff]
  · rw [hvalidate, ConfigDraft.validate_eq_error_iff]
  · rw [hvalidate, hvalidate, values_of_hiddenChanges h]

/-- A definition for a locale that is not supported, and settings without a locale. -/
def frenchLayers : Layers where
  definition := { Definition.empty with locale := some "fr-FR", leastUtterances := some 0 }
  settings := { Settings.empty with leastUtterances := some 7, flattenLocale := some true }
  overrides := ⟨some "en-GB", none, false, true⟩

/-- The same with an empty locale on the command line, which counts as set. -/
def blankLayers : Layers := { frenchLayers with overrides := ⟨some "", none, false, true⟩ }

/-- The locale of the definition is as good as none below one of the command line, and a blank one
of the command line is missing all the same. -/
theorem config_frenchLayers :
    frenchLayers.config = .ok ⟨.enGB, none, "dialogFlow", true, true, 7⟩ ∧
      { frenchLayers with definition := .empty }.config = frenchLayers.config ∧
      blankLayers.config = .error .missingLocale := by
  obtain ⟨hok, -, hhidden⟩ := layeredConfig_takes_last frenchLayers
  refine ⟨(hok _).2 ?_, hhidden _ ?_, ?_⟩
  · exact ⟨⟨rfl, rfl, rfl, rfl, rfl, rfl⟩, nofun, nofun, by decide⟩
  · exact .trans _ _ _
      (.rel _ _ (.definitionLocale frenchLayers none (.inr nofun)))
      (.rel _ _ (.definitionLeastUtterances _ none nofun))
  · exact ((layeredConfig_takes_last blankLayers).2.1 _).2 (.missingLocale (.inr rfl))

end VoiceSkill
