/-
Module: TapeMultiplier.Proofs.Settings.Arrangement
Layer: Proofs
Purpose: How settings stand once their document was merged over the defaults.  If they pass the checks
  they have all default keys, so no default is added: the entries are the same, those of the default keys
  come first, in the order of the defaults, and the others follow in their own order.
Main exports: Settings.find?_eq_lookupField, Settings.preferences_congr, Settings.Arranges,
  Settings.Storable.arranges, Settings.Storable.preferences_arranged
-/
import TapeMultiplier.Proofs.Settings

namespace TapeMultiplier

namespace Settings

variable {settings other loaded : Settings} {preferences : Preferences} {room : Nat}

/-! ### Looking entries up -/

theorem Textual.find?_eq_lookupField (textual : settings.Textual) (name : String) :
    settings.find? name = Json.lookupField settings.fields name := by
  have sameKey : ∀ field : RawText × Json,
      (Json.string field.1).same (.string name) = (field.1 == RawText.ofString name) := by
    intro field
    rw [Bool.eq_iff_iff, same_string_iff, beq_iff_eq, Json.string.injEq]
  conv_lhs => rw [← textual.ofFields_fields]
  rw [find?, ofFields, Json.lookupField, List.find?_map, Option.map_map]
  simp only [Function.comp_def, sameKey]

/-- The checks read nothing but what is found under the keys. -/
theorem preferences_congr (same : ∀ name, settings.find? name = other.find? name) :
    settings.preferences = other.preferences := by
  have required : ∀ name, settings.require name = other.require name := by
    intro name
    rw [require, require, same]
  simp only [Settings.preferences, requireText, requireBool, requireInt, requireDuration, requireLimit, required]

/-- Settings that pass the checks have all default keys. -/
theorem Gives.find?_isSome (gives : settings.Gives preferences) {key : String} (default : key ∈ defaultKeys) :
    (settings.find? key).isSome = true := by
  simp only [defaultKeys, List.mem_cons, List.not_mem_nil, or_false] at default
  rcases default with rfl | rfl | rfl | rfl | rfl | rfl | rfl | rfl | rfl | rfl
  · rw [gives.programPath, Option.isSome_some]
  · rw [gives.showSteps, Option.isSome_some]
  · rw [gives.stepDelay, Option.isSome_some]
  · rw [gives.maxSteps, Option.isSome_some]
  · rw [gives.traceLog, Option.isSome_some]
  · rw [gives.outputDirectory, Option.isSome_some]
  · rw [gives.logFileStem, Option.isSome_some]
  · rw [gives.batchSize, Option.isSome_some]
  · rw [gives.tapeSize, Option.isSome_some]
  · rw [gives.gridMax, Option.isSome_some]

/-! ### The order of entries -/

/-- The names of the default keys, in their order. -/
abbrev defaultNames : List RawText :=
  Json.names defaults.fields

theorem defaultNames_eq : defaultNames = defaultKeys.map RawText.ofString := rfl

/-- The entries of other settings in this order: those of the default keys in the order of the defaults,
then all others in the order in which they stand there. -/
structure Arranges (settings loaded : Settings) : Prop where
  entries : loaded.entries.Perm settings.entries
  order : Json.names loaded.fields =
    defaultNames ++ (Json.names settings.fields).filter fun name => name ∉ defaultNames

theorem nodup_defaultNames : defaultNames.Nodup :=
  ((sound_defaults 0).storable textual_defaults).distinct

theorem mem_names_of_gives (textual : settings.Textual) (gives : settings.Gives preferences) :
    ∀ name ∈ defaultNames, name ∈ Json.names settings.fields := by
  rw [defaultNames_eq, List.forall_mem_map]
  intro key default
  by_contra absent
  have found := gives.find?_isSome default
  rw [textual.find?_eq_lookupField, Json.lookupField_of_notMem absent] at found
  cases found

theorem fields_ofFields (fields : List (RawText × Json)) : (ofFields fields).fields = fields := by
  rw [ofFields, Settings.fields, List.map_map]
  exact List.map_id fields

section

variable (storable : settings.Storable room) (gives : settings.Gives preferences)

include storable gives

theorem Storable.fields_arranged_perm : settings.arranged.fields.Perm settings.fields := by
  rw [arranged_eq, fields_ofFields]
  exact Json.overlay_perm nodup_defaultNames storable.distinct (mem_names_of_gives storable.textual gives)

/-- Settings that pass the checks are in order once they were merged over the defaults. -/
theorem Storable.arranges : settings.Arranges settings.arranged := by
  refine ⟨?_, ?_⟩
  · have same := (storable.fields_arranged_perm gives).map fun field => (Json.string field.1, field.2)
    have entries (settings : Settings) (textual : settings.Textual) : settings.entries =
        settings.fields.map fun field => (Json.string field.1, field.2) :=
      congrArg Settings.entries textual.ofFields_fields.symm
    rwa [entries _ (textual_arranged settings), entries settings storable.textual]
  · rw [arranged_eq, fields_ofFields]
    exact Json.names_overlay nodup_defaultNames storable.distinct

/-- The order of the entries makes no difference to the checks. -/
theorem Storable.preferences_arranged : settings.arranged.preferences = settings.preferences := by
  refine preferences_congr fun name => ?_
  rw [(textual_arranged settings).find?_eq_lookupField, storable.textual.find?_eq_lookupField]
  exact (Json.lookupField_of_perm storable.distinct (storable.fields_arranged_perm gives).symm _).symm

end

end Settings

end TapeMultiplier
