/-
Module: TapeMultiplier.Proofs.Settings
Layer: Proofs
Purpose: Settings as loading leaves them are given again by their own document.  The default keys stay in
  front, keys stay different, and what is stored can be written and read; so a document merged over the
  defaults gives settings whose document, read and merged over the defaults, gives the same settings.
Main exports: Settings.keys, Settings.insertEntry_cases, Settings.Sound, Settings.Sound.merge,
  Settings.Sound.set, Settings.Textual, Settings.setAll, Settings.Storable, Settings.Storable.read_toDocument,
  Settings.arranged, Settings.merge_toDocument, Settings.Sound.arranged_eq_self, Settings.Gives,
  Settings.preferences_eq_ok
-/
import TapeMultiplier.Proofs.Bind
import TapeMultiplier.Proofs.Json.Dump
import TapeMultiplier.Proofs.Json.Reading
import TapeMultiplier.Settings

namespace TapeMultiplier

namespace Settings

variable {settings merged : Settings} {key value : Json} {room : Nat}

/-! ### Keys -/

/-- The keys in their order. -/
def keys (settings : Settings) : List Json :=
  settings.entries.map Prod.fst

theorem same_string_iff {name : RawText} : key.same (.string name) = true ↔ key = .string name := by
  cases key with
  | string other => simp [Json.same, Json.sameScalar]
  | null => simp [Json.same, Json.sameScalar]
  | bool _ => simp [Json.same, Json.sameScalar]
  | int _ => simp [Json.same, Json.sameScalar]
  | float _ => simp [Json.same, Json.sameScalar]
  | list _ => simp [Json.same, Json.sameScalar]
  | object _ => simp [Json.same, Json.sameScalar]

/-- The entry of a key takes the new value; a new key goes to the end. -/
theorem insertEntry_cases (key value : Json) (entries : List (Json × Json)) :
    (∃ front known old behind, entries = front ++ (known, old) :: behind ∧ known.same key = true ∧
        insertEntry key value entries = front ++ (known, value) :: behind) ∨
      (∀ entry ∈ entries, entry.1.same key = false) ∧
        insertEntry key value entries = entries ++ [(key, value)] := by
  induction entries with
  | nil => exact .inr ⟨List.forall_mem_nil _, rfl⟩
  | cons entry entries ih =>
      obtain ⟨known, old⟩ := entry
      rw [insertEntry]
      split
      · next same => exact .inl ⟨[], known, old, entries, rfl, same, rfl⟩
      · next differs =>
        rcases ih with ⟨front, found, before, behind, rfl, same, set⟩ | ⟨new, set⟩
        · exact .inl ⟨(known, old) :: front, found, before, behind, rfl, same, by rw [set]; rfl⟩
        · refine .inr ⟨List.forall_mem_cons.mpr ⟨Bool.eq_false_iff.mpr differs, new⟩, ?_⟩
          rw [set]
          rfl

/-- Setting an entry keeps the keys, or adds one that is the same as none of them. -/
theorem keys_set (settings : Settings) (key value : Json) :
    (settings.set key value).keys = settings.keys ∨
      (settings.set key value).keys = settings.keys ++ [key] ∧
        ∀ known ∈ settings.keys, known.same key = false := by
  rcases insertEntry_cases key value settings.entries with
    ⟨front, known, old, behind, entries, -, set⟩ | ⟨new, set⟩
  · refine .inl ?_
    rw [keys, Settings.set, set, keys, entries]
    simp
  · refine .inr ⟨?_, List.forall_mem_map.mpr new⟩
    rw [keys, Settings.set, set, keys]
    simp

theorem mem_set {entry : Json × Json} (member : entry ∈ (settings.set key value).entries) :
    entry ∈ settings.entries ∨ entry.2 = value ∧ (entry.1 ∈ settings.keys ∨ entry.1 = key) := by
  rcases insertEntry_cases key value settings.entries with
    ⟨front, known, old, behind, entries, -, set⟩ | ⟨-, set⟩
  · rw [Settings.set, set, List.mem_append, List.mem_cons] at member
    rw [keys, entries, List.mem_append, List.mem_cons]
    rcases member with inFront | rfl | isBehind
    · exact .inl (.inl inFront)
    · exact .inr ⟨rfl, .inl (by simp)⟩
    · exact .inl (.inr (.inr isBehind))
  · rw [Settings.set, set, List.mem_append, List.mem_singleton] at member
    rcases member with known | rfl
    · exact .inl known
    · exact .inr ⟨rfl, .inr rfl⟩

theorem exists_mem_of_find? {name : String} (found : settings.find? name = some value) :
    ∃ entry ∈ settings.entries, entry.2 = value := by
  obtain ⟨entry, first, rfl⟩ := Option.map_eq_some_iff.mp found
  exact ⟨entry, List.mem_of_find?_eq_some first, rfl⟩

/-- Setting an entry changes no other. -/
theorem find?_set_of_ne {name : String} {other : RawText} (differ : RawText.ofString name ≠ other)
    (settings : Settings) (value : Json) :
    (settings.set (.string other) value).find? name = settings.find? name := by
  have apart : ∀ known : Json, known.same (.string other) = true → known.same (.string name) = false := by
    intro known same
    rw [Bool.eq_false_iff]
    intro both
    exact differ (Json.string.inj ((same_string_iff.mp both).symm.trans (same_string_iff.mp same)))
  rcases insertEntry_cases (.string other) value settings.entries with
    ⟨front, known, old, behind, entries, same, set⟩ | ⟨-, set⟩
  · rw [find?, find?, Settings.set, set, entries]
    simp [List.find?_append, apart known same]
  · have self : (Json.string other).same (.string other) = true := same_string_iff.mpr rfl
    rw [find?, find?, Settings.set, set]
    simp [List.find?_append, apart _ self]

/-- The settings with several entries set, one after the other. -/
def setAll (settings : Settings) (fields : List (RawText × Json)) : Settings :=
  fields.foldl (fun merged field => merged.set (.string field.1) field.2) settings

theorem find?_setAll {name : String} {fields : List (RawText × Json)}
    (differ : RawText.ofString name ∉ Json.names fields) (settings : Settings) :
    (settings.setAll fields).find? name = settings.find? name := by
  induction fields generalizing settings with
  | nil => rfl
  | cons field fields ih =>
      rw [Json.names, List.map_cons, List.mem_cons, not_or] at differ
      exact (ih differ.2 _).trans (find?_set_of_ne differ.1 settings field.2)

/-! ### Settings as loading leaves them -/

/-- Settings with the default keys in front, no two keys the same, and nothing that cannot be written and
read again where there is so much room for values. -/
structure Sound (room : Nat) (settings : Settings) : Prop where
  leads : defaults.keys <+: settings.keys
  distinct : settings.keys.Pairwise fun first second => first.same second = false
  fits : ∀ entry ∈ settings.entries, Json.Fits room entry.1 ∧ Json.Fits room entry.2

theorem Sound.set (sound : settings.Sound room) (keyFits : Json.Fits room key)
    (valueFits : Json.Fits room value) : (settings.set key value).Sound room := by
  refine ⟨?_, ?_, fun entry member => ?_⟩
  · rcases keys_set settings key value with same | ⟨more, -⟩
    · rw [same]
      exact sound.leads
    · rw [more]
      exact sound.leads.trans (List.prefix_append _ _)
  · rcases keys_set settings key value with same | ⟨more, new⟩
    · rw [same]
      exact sound.distinct
    · rw [more, List.pairwise_append]
      refine ⟨sound.distinct, List.pairwise_singleton _ _, ?_⟩
      intro known member _ last
      rw [List.mem_singleton.mp last]
      exact new known member
  · rcases mem_set member with known | ⟨rfl, known | rfl⟩
    · exact sound.fits entry known
    · obtain ⟨other, stored, same⟩ := List.mem_map.mp known
      exact ⟨same ▸ (sound.fits other stored).1, valueFits⟩
    · exact ⟨keyFits, valueFits⟩

theorem Sound.setAll (sound : settings.Sound room) {fields : List (RawText × Json)}
    (fit : ∀ field ∈ fields, Json.FieldFits room field) : (settings.setAll fields).Sound room := by
  induction fields generalizing settings with
  | nil => exact sound
  | cons field fields ih =>
      obtain ⟨first, others⟩ := List.forall_mem_cons.mp fit
      exact ih (sound.set ⟨first.1, Nat.zero_le room⟩ first.2) others

theorem Sound.faithful_of_find? (sound : settings.Sound room) {name : String}
    (found : settings.find? name = some value) : value.faithful = true := by
  obtain ⟨entry, member, rfl⟩ := exists_mem_of_find? found
  exact (sound.fits entry member).2.1

theorem fits_text (text : String) (room : Nat) : Json.Fits room (.string text) :=
  ⟨Json.unjoined_of_plain (all_elements_ofString text), Nat.zero_le room⟩

/-- The keys for which there are defaults. -/
def defaultKeys : List String :=
  ["program_path", "show_steps", "step_delay", "max_steps", "trace_log", "output_directory",
    "log_file_prefix", "batch_size", "tape_size", "grid_max"]

theorem sound_defaults (room : Nat) : defaults.Sound room := by
  have keysAre : defaults.keys = defaultKeys.map fun key : String => Json.string key := rfl
  refine ⟨List.prefix_rfl, ?_, ?_⟩
  · rw [keysAre, List.pairwise_map]
    have distinct : defaultKeys.Nodup := by decide
    refine distinct.imp fun differ => Bool.eq_false_iff.mpr fun same => ?_
    exact differ (ofString_injective (Json.string.inj (same_string_iff.mp same)))
  · refine List.forall_mem_map.mpr fun field member => ⟨?_, ?_⟩
    · have known : Json.string field.1 ∈ defaults.keys :=
        List.mem_map_of_mem (List.mem_map_of_mem member)
      rw [keysAre] at known
      obtain ⟨key, -, same⟩ := List.mem_map.mp known
      exact same ▸ fits_text key room
    · simp only [List.mem_cons, List.not_mem_nil, or_false] at member
      rcases member with rfl | rfl | rfl | rfl | rfl | rfl | rfl | rfl | rfl | rfl
      all_goals first
        | exact fits_text _ _
        | exact ⟨rfl, Nat.zero_le _⟩

/-! ### Merging -/

theorem fits_members {members : List Json} (fit : Json.Fits room value)
    (found : members? value = some members) : ∀ member ∈ members, Json.Fits (room - 1) member := by
  obtain ⟨isFaithful, shallow⟩ := fit
  cases value with
  | list items =>
      cases found
      have below := Json.depthItems_le_iff.mp (Nat.le_sub_of_add_le shallow)
      exact fun item member => ⟨Json.faithfulItems_iff.mp isFaithful item member, below item member⟩
  | string text =>
      cases found
      exact List.forall_mem_map.mpr fun element _ => ⟨rfl, Nat.zero_le _⟩
  | object fields =>
      cases found
      exact List.forall_mem_map.mpr fun field member =>
        ⟨((Json.faithfulFields_iff.mp isFaithful).2 field member).1, Nat.zero_le _⟩
  | null => cases found
  | bool truth => cases found
  | int number => cases found
  | float number => cases found

theorem Sound.mergePairs (sound : settings.Sound room) {elements : List Json} {position : Nat}
    (fit : ∀ element ∈ elements, Json.Fits room element)
    (done : settings.mergePairs position elements = .ok merged) : merged.Sound room := by
  induction elements generalizing settings position with
  | nil =>
      cases done
      exact sound
  | cons element elements ih =>
      obtain ⟨first, others⟩ := List.forall_mem_cons.mp fit
      rw [Settings.mergePairs] at done
      split at done
      · cases done
      · next key value pair =>
        split at done
        · obtain ⟨keyFits, valueFits⟩ := List.forall_mem_cons.mp (fits_members first pair)
          have stored := sound.set (keyFits.mono (Nat.sub_le room 1))
            ((List.forall_mem_singleton.mp valueFits).mono (Nat.sub_le room 1))
          exact ih stored others done
        · cases done
      · cases done

/-- Merging a document that was read keeps settings sound. -/
theorem Sound.merge (sound : settings.Sound room) {document : Json} (fit : Json.Fits (room + 1) document)
    (done : settings.merge document = .ok merged) : merged.Sound room := by
  unfold Settings.merge at done
  split at done
  · cases done
    exact sound.setAll fit.of_object.2
  · split at done
    · next elements members =>
      exact sound.mergePairs (fits_members fit members) done
    · cases done

/-! ### Settings whose keys are texts -/

/-- Whether all keys are texts, as those of an object are. -/
def Textual (settings : Settings) : Prop :=
  ∀ key ∈ settings.keys, key.kind = .string

/-- The fields of the settings' document. -/
def fields (settings : Settings) : List (RawText × Json) :=
  settings.entries.map fun entry => (keyText entry.1, entry.2)

theorem exists_text_of_kind (isText : key.kind = .string) : ∃ text, key = .string text := by
  cases key with
  | string text => exact ⟨text, rfl⟩
  | null => cases isText
  | bool truth => cases isText
  | int number => cases isText
  | float number => cases isText
  | list items => cases isText
  | object fields => cases isText

theorem names_fields (settings : Settings) : Json.names settings.fields = settings.keys.map keyText := by
  rw [Json.names, fields, keys, List.map_map, List.map_map]
  rfl

theorem Textual.keys_eq (textual : settings.Textual) :
    settings.keys = (Json.names settings.fields).map Json.string := by
  rw [names_fields, List.map_map]
  refine (List.map_id settings.keys).symm.trans (List.map_congr_left fun key member => ?_)
  obtain ⟨text, rfl⟩ := exists_text_of_kind (textual key member)
  rfl

theorem Textual.ofFields_fields (textual : settings.Textual) : ofFields settings.fields = settings := by
  obtain ⟨entries⟩ := settings
  rw [ofFields, fields, List.map_map]
  refine congrArg Settings.mk (Eq.trans (List.map_congr_left fun entry member => ?_) (List.map_id entries))
  obtain ⟨key, value⟩ := entry
  obtain ⟨text, rfl⟩ := exists_text_of_kind (textual key (List.mem_map_of_mem member))
  rfl

theorem Textual.set (textual : settings.Textual) (name : RawText) (value : Json) :
    (settings.set (.string name) value).Textual := by
  intro key member
  rcases keys_set settings (.string name) value with same | ⟨more, -⟩
  · exact textual key (same ▸ member)
  · rw [more, List.mem_append, List.mem_singleton] at member
    rcases member with known | rfl
    · exact textual key known
    · rfl

theorem Textual.setAll (textual : settings.Textual) (fields : List (RawText × Json)) :
    (settings.setAll fields).Textual := by
  induction fields generalizing settings with
  | nil => exact textual
  | cons field fields ih => exact ih (textual.set field.1 field.2)

theorem textual_ofFields (fields : List (RawText × Json)) : (ofFields fields).Textual := by
  refine List.forall_mem_map.mpr fun entry member => ?_
  obtain ⟨field, -, rfl⟩ := List.mem_map.mp member
  rfl

theorem textual_defaults : defaults.Textual :=
  textual_ofFields _

theorem set_ofFields (fields : List (RawText × Json)) (name : RawText) (value : Json) :
    (ofFields fields).set (.string name) value = ofFields (Json.insertField fields name value) := by
  have entries : ∀ fields : List (RawText × Json),
      insertEntry (.string name) value (fields.map fun field => (.string field.1, field.2)) =
        (Json.insertField fields name value).map fun field => (.string field.1, field.2) := by
    intro fields
    induction fields with
    | nil => rfl
    | cons field fields ih =>
        rw [List.map_cons, insertEntry, Json.insertField, ih]
        by_cases same : field.1 = name
        · rw [if_pos same, if_pos (same_string_iff.mpr (congrArg Json.string same)), same]
          rfl
        · rw [if_neg same, if_neg fun both => same (Json.string.inj (same_string_iff.mp both))]
          rfl
  exact congrArg Settings.mk (entries fields)

theorem setAll_ofFields (base others : List (RawText × Json)) :
    (ofFields base).setAll others = ofFields (Json.overlay base others) := by
  induction others generalizing base with
  | nil => rfl
  | cons field others ih =>
      rw [setAll, List.foldl_cons, set_ofFields]
      exact ih _

/-! ### Documents -/

/-- Settings that can be stored where there is so much room for reading documents.  Their keys are texts,
no two the same; every integer has a decimal form, no half of a character stands before its other half,
and there are no more containers in each other, that of the settings included, than there is room for. -/
structure Storable (room : Nat) (settings : Settings) : Prop where
  textual : settings.Textual
  fits : Json.Fits room settings.toDocument

/-- Settings without floats and without halves of characters can be stored if they are not nested too deep. -/
theorem Storable.of_plain (textual : settings.Textual) (isPlain : Json.plain settings.toDocument = true)
    (shallow : Json.depth settings.toDocument ≤ room) : settings.Storable room :=
  ⟨textual, Json.faithful_of_plain isPlain, shallow⟩

theorem Storable.distinct (storable : settings.Storable room) : (Json.names settings.fields).Nodup :=
  (Json.faithfulFields_iff.mp storable.fits.1).1

theorem Storable.fields_fit (storable : settings.Storable (room + 1)) :
    ∀ field ∈ settings.fields, Json.FieldFits room field :=
  storable.fits.of_object.2

/-- There is room for the container of the settings. -/
theorem Storable.exists_room (storable : settings.Storable room) : ∃ inner, room = inner + 1 :=
  Nat.exists_eq_add_one.mpr (Nat.lt_of_lt_of_le (Nat.succ_pos _) storable.fits.2)

theorem Sound.storable (sound : settings.Sound room) (textual : settings.Textual) :
    settings.Storable (room + 1) := by
  refine ⟨textual, Json.fits_object ?_ (List.forall_mem_map.mpr fun entry member => ?_)⟩
  · have distinct := sound.distinct
    rw [textual.keys_eq, List.pairwise_map] at distinct
    refine distinct.imp fun differ same => ?_
    rw [same, Bool.eq_false_iff] at differ
    exact differ (same_string_iff.mpr rfl)
  · obtain ⟨key, value⟩ := entry
    obtain ⟨text, rfl⟩ := exists_text_of_kind (textual key (List.mem_map_of_mem member))
    obtain ⟨keyFits, valueFits⟩ := sound.fits _ member
    exact ⟨keyFits.1, valueFits⟩

theorem Storable.read_toDocument (storable : settings.Storable room) (indent : Option Nat) :
    Json.readWithin room (Json.render indent 0 settings.toDocument) = .ok settings.toDocument :=
  Json.readWithin_render indent storable.fits.1 storable.fits.2

/-- Settings that can be stored are written to their end. -/
theorem Storable.dump_toDocument (storable : settings.Storable room) :
    settings.toDocument.dump (Json.writingRoom room) = (settings.toDocument.writeIndented, .ok ()) :=
  Json.dump_of_shallow (Json.writable_of_faithful storable.fits.1)
    (Nat.lt_of_le_of_lt storable.fits.2 (Nat.lt_add_of_pos_right Nat.two_pos))

/-- Settings as loading leaves them are written to their end, even if their keys are no texts. -/
theorem Sound.dump_toDocument (sound : settings.Sound room) :
    settings.toDocument.dump (Json.writingRoom (room + 1)) = (settings.toDocument.writeIndented, .ok ()) := by
  have stored (field : RawText × Json) (member : field ∈ settings.fields) : Json.Fits room field.2 := by
    obtain ⟨entry, inSettings, rfl⟩ := List.mem_map.mp member
    exact (sound.fits entry inSettings).2
  refine Json.dump_of_shallow ?_ ?_
  · exact Json.writableFields_iff.mpr fun field member => Json.writable_of_faithful (stored field member).1
  · have below := Json.depthFields_le_iff.mpr fun field member => (stored field member).2
    exact Nat.lt_of_le_of_lt (Nat.succ_le_succ below) (Nat.lt_add_of_pos_right Nat.two_pos)

/-- The settings over the defaults, as they are when their document is loaded. -/
def arranged (settings : Settings) : Settings :=
  defaults.setAll settings.fields

theorem merge_toDocument (settings : Settings) : defaults.merge settings.toDocument = .ok settings.arranged := rfl

theorem arranged_eq (settings : Settings) :
    settings.arranged = ofFields (Json.overlay defaults.fields settings.fields) := by
  rw [arranged, ← textual_defaults.ofFields_fields, setAll_ofFields, textual_defaults.ofFields_fields]

/-- Settings as loading leaves them are in their place already. -/
theorem Sound.arranged_eq_self (sound : settings.Sound room) (textual : settings.Textual) :
    settings.arranged = settings := by
  have leads : Json.names defaults.fields <+: Json.names settings.fields := by
    rw [names_fields, names_fields]
    exact sound.leads.map keyText
  rw [arranged_eq, Json.overlay_eq leads (sound.storable textual).distinct, textual.ofFields_fields]

theorem Storable.sound_arranged (storable : settings.Storable (room + 1)) : settings.arranged.Sound room :=
  (sound_defaults room).setAll storable.fields_fit

theorem textual_arranged (settings : Settings) : settings.arranged.Textual :=
  textual_defaults.setAll settings.fields

/-! ### Preferences -/

theorem require_bind_eq_ok {α : Type} {name : String} {decode : Json → Except SettingsError α} {result : α} :
    (settings.require name >>= decode) = .ok result ↔
      ∃ value, settings.find? name = some value ∧ decode value = .ok result := by
  rw [Except.bind_eq_ok, require]
  cases settings.find? name with
  | none => simp
  | some value => simp

/-- Where a reader takes just the values of one form, what it gives is stored in that form. -/
theorem require_bind_eq_ok_of_form {α : Type} {name : String} {decode : Json → Except SettingsError α}
    {result : α} (form : α → Json) (reads : ∀ value, decode value = .ok result → value = form result)
    (readable : decode (form result) = .ok result) :
    (settings.require name >>= decode) = .ok result ↔ settings.find? name = some (form result) := by
  refine require_bind_eq_ok.trans ⟨?_, fun found => ⟨form result, found, readable⟩⟩
  rintro ⟨value, found, decoded⟩
  rw [found, reads value decoded]

theorem requireText_eq_ok {name : String} {text : RawText} :
    settings.requireText name = .ok text ↔ settings.find? name = some (.string text) := by
  refine require_bind_eq_ok_of_form Json.string (fun value decoded => ?_) rfl
  cases value <;> cases decoded
  rfl

theorem requireBool_eq_ok {name : String} {truth : Bool} :
    settings.requireBool name = .ok truth ↔ settings.find? name = some (.bool truth) := by
  refine require_bind_eq_ok_of_form Json.bool (fun value decoded => ?_) rfl
  cases value <;> cases decoded
  rfl

theorem requireInt_eq_ok {name : String} {number : Int} :
    settings.requireInt name = .ok number ↔ settings.find? name = some (.int number) := by
  refine require_bind_eq_ok_of_form Json.int (fun value decoded => ?_) rfl
  cases value <;> cases decoded
  rfl

/-- A duration as it is stored. -/
def ofDuration : Duration → Json
  | .whole seconds => .int seconds
  | .fractional seconds => .float seconds

theorem requireDuration_eq_ok {name : String} {duration : Duration} :
    settings.requireDuration name = .ok duration ↔ settings.find? name = some (ofDuration duration) := by
  refine require_bind_eq_ok_of_form ofDuration (fun value decoded => ?_) (by cases duration <;> rfl)
  cases value <;> cases decoded <;> rfl

/-- A limit as it is stored. -/
def ofLimit : Option Int → Json
  | some limit => .int limit
  | none => .null

theorem requireLimit_eq_ok {name : String} {limit : Option Int} :
    settings.requireLimit name = .ok limit ↔ settings.find? name = some (ofLimit limit) := by
  refine require_bind_eq_ok_of_form ofLimit (fun value decoded => ?_) (by cases limit <;> rfl)
  cases value <;> cases decoded <;> rfl

/-- Preferences within the ranges that are allowed. -/
structure InRange (preferences : Preferences) : Prop where
  delay : preferences.stepDelay.isNegative = false
  limit : ∀ limit, preferences.maxSteps = some limit → 0 < limit
  batch : 0 < preferences.batchSize
  tape : 0 < preferences.tapeSize
  grid : 0 < preferences.gridMax

theorem requirePositive_eq_ok {name : String} {number : Int} {done : Unit} :
    requirePositive name number = .ok done ↔ 0 < number := by
  rw [requirePositive]
  split
  · next small => exact iff_of_false (by rintro ⟨⟩) (Int.not_lt.mpr small)
  · next large => exact iff_of_true rfl (Int.not_le.mp large)

theorem requireSizes_eq_ok {preferences result : Preferences} :
    (do
      requirePositive "batch_size" preferences.batchSize
      requirePositive "tape_size" preferences.tapeSize
      requirePositive "grid_max" preferences.gridMax
      return preferences) = .ok result ↔
      (0 < preferences.batchSize ∧ 0 < preferences.tapeSize ∧ 0 < preferences.gridMax) ∧
        preferences = result := by
  simp only [Except.bind_eq_ok, requirePositive_eq_ok]
  constructor
  · rintro ⟨-, batch, -, tape, -, grid, ⟨⟩⟩
    exact ⟨⟨batch, tape, grid⟩, rfl⟩
  · rintro ⟨⟨batch, tape, grid⟩, rfl⟩
    exact ⟨(), batch, (), tape, (), grid, rfl⟩

theorem inRange_iff {preferences : Preferences} (delay : preferences.stepDelay.isNegative = false)
    (limit : ∀ limit, preferences.maxSteps = some limit → 0 < limit) :
    InRange preferences ↔ 0 < preferences.batchSize ∧ 0 < preferences.tapeSize ∧ 0 < preferences.gridMax :=
  ⟨fun inRange => ⟨inRange.batch, inRange.tape, inRange.grid⟩,
    fun ⟨batch, tape, grid⟩ => ⟨delay, limit, batch, tape, grid⟩⟩

/-- The ranges are checked one after the other. -/
theorem requireRanges_eq_ok {preferences result : Preferences} :
    (do
      if preferences.stepDelay.isNegative then throw .negativeDelay
      match preferences.maxSteps with
      | some limit => if limit ≤ 0 then throw .limitNotPositive
      | none => pure ()
      requirePositive "batch_size" preferences.batchSize
      requirePositive "tape_size" preferences.tapeSize
      requirePositive "grid_max" preferences.gridMax
      return preferences : Except SettingsError Preferences) = .ok result ↔
      InRange preferences ∧ preferences = result := by
  dsimp only
  split
  · next negative =>
    refine iff_of_false (by rintro ⟨⟩) fun inRange => ?_
    rw [inRange.1.delay] at negative
    cases negative
  next notNegative =>
  have delay := Bool.eq_false_iff.mpr notNegative
  split
  · next limit limited =>
    split
    · next small =>
      refine iff_of_false (by rintro ⟨⟩) fun inRange => ?_
      exact Int.not_lt.mpr small (inRange.1.limit limit limited)
    · next large =>
      have positive : ∀ limit, preferences.maxSteps = some limit → 0 < limit := by
        intro other stored
        rw [← Option.some.inj (limited.symm.trans stored)]
        exact Int.not_le.mp large
      rw [inRange_iff delay positive]
      exact requireSizes_eq_ok
  · next unlimited =>
    rw [inRange_iff delay fun limit stored => by cases unlimited.symm.trans stored]
    exact requireSizes_eq_ok

/-- The settings hold the preferences under the required keys, and these are within the ranges. -/
structure Gives (settings : Settings) (preferences : Preferences) : Prop where
  programPath : settings.find? "program_path" = some (.string preferences.programPath)
  showSteps : settings.find? "show_steps" = some (.bool preferences.showSteps)
  stepDelay : settings.find? "step_delay" = some (ofDuration preferences.stepDelay)
  maxSteps : settings.find? "max_steps" = some (ofLimit preferences.maxSteps)
  traceLog : settings.find? "trace_log" = some (.bool preferences.traceLog)
  outputDirectory : settings.find? "output_directory" = some (.string preferences.outputDirectory)
  logFileStem : settings.find? "log_file_prefix" = some (.string preferences.logFileStem)
  batchSize : settings.find? "batch_size" = some (.int preferences.batchSize)
  tapeSize : settings.find? "tape_size" = some (.int preferences.tapeSize)
  gridMax : settings.find? "grid_max" = some (.int preferences.gridMax)
  inRange : InRange preferences

/-- Settings pass the checks just if they hold preferences within the ranges. -/
theorem preferences_eq_ok {preferences : Preferences} :
    settings.preferences = .ok preferences ↔ settings.Gives preferences := by
  constructor
  · intro given
    rw [Settings.preferences] at given
    obtain ⟨programPath, program, given⟩ := Except.bind_eq_ok.mp given
    obtain ⟨showSteps, display, given⟩ := Except.bind_eq_ok.mp given
    obtain ⟨stepDelay, delay, given⟩ := Except.bind_eq_ok.mp given
    obtain ⟨maxSteps, limit, given⟩ := Except.bind_eq_ok.mp given
    obtain ⟨traceLog, trace, given⟩ := Except.bind_eq_ok.mp given
    obtain ⟨outputDirectory, output, given⟩ := Except.bind_eq_ok.mp given
    obtain ⟨logFileStem, stem, given⟩ := Except.bind_eq_ok.mp given
    obtain ⟨batchSize, batch, given⟩ := Except.bind_eq_ok.mp given
    obtain ⟨tapeSize, tape, given⟩ := Except.bind_eq_ok.mp given
    obtain ⟨gridMax, grid, given⟩ := Except.bind_eq_ok.mp given
    obtain ⟨inRange, rfl⟩ := (@requireRanges_eq_ok ⟨programPath, showSteps, stepDelay, maxSteps, traceLog,
      outputDirectory, logFileStem, batchSize, tapeSize, gridMax⟩ preferences).mp given
    exact ⟨requireText_eq_ok.mp program, requireBool_eq_ok.mp display, requireDuration_eq_ok.mp delay,
      requireLimit_eq_ok.mp limit, requireBool_eq_ok.mp trace, requireText_eq_ok.mp output,
      requireText_eq_ok.mp stem, requireInt_eq_ok.mp batch, requireInt_eq_ok.mp tape,
      requireInt_eq_ok.mp grid, inRange⟩
  · intro gives
    rw [Settings.preferences, requireText_eq_ok.mpr gives.programPath, requireBool_eq_ok.mpr gives.showSteps,
      requireDuration_eq_ok.mpr gives.stepDelay, requireLimit_eq_ok.mpr gives.maxSteps,
      requireBool_eq_ok.mpr gives.traceLog, requireText_eq_ok.mpr gives.outputDirectory,
      requireText_eq_ok.mpr gives.logFileStem, requireInt_eq_ok.mpr gives.batchSize,
      requireInt_eq_ok.mpr gives.tapeSize, requireInt_eq_ok.mpr gives.gridMax]
    exact requireRanges_eq_ok.mpr ⟨gives.inRange, rfl⟩

end Settings

/-- The preferences that hold where a document says nothing. -/
def Preferences.standard : Preferences where
  programPath := "programs/multiplication.tm"
  showSteps := false
  stepDelay := .fractional (Decimal.toFloat false ⟨1, -1⟩)
  maxSteps := none
  traceLog := false
  outputDirectory := "logs/"
  logFileStem := "multiplication_"
  batchSize := 64
  tapeSize := 512
  gridMax := 12

/-- The defaults pass the checks. -/
theorem Settings.preferences_defaults : defaults.preferences = .ok Preferences.standard := rfl

end TapeMultiplier
