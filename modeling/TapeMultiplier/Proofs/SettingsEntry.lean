/-
Module: TapeMultiplier.Proofs.SettingsEntry
Layer: Proofs
Purpose: Editing the settings.  Answers that fail the checks change no file; answers that pass are loaded from
  then on, unless the path, which was found among the installed files, cannot be opened for writing here.
Main exports: SettingsAnswers.Writable, yields_settingsQuestions, SettingsAnswers.sound_apply,
  settingsEntry_outcome
-/
import TapeMultiplier.Command
import TapeMultiplier.Files
import TapeMultiplier.Proofs.SettingsFile

namespace TapeMultiplier

variable {path : String} {settings : Settings} {preferences : Preferences} {answers : SettingsAnswers}
  {start before asked final : Session} {room : Nat}

/-- The room that a document leaves to its values where commands read it. -/
abbrev Settings.valueRoom : Nat := Json.nestingLimit - 1

/-! ### Answers -/

theorem yields_askPath {text : String} {fallback : RawText}
    (apart : Json.unjoined fallback.elements = true) :
    (askPath text fallback).Yields (fun answer => Json.unjoined answer.elements = true) EndsInput := by
  refine (Question.yields_ask _).mono ?_ fun _ ended => ended
  rintro answer (⟨shown, ⟨⟩⟩ | ⟨typed, ⟨⟩⟩)
  · exact apart
  · exact Json.unjoined_of_plain (all_elements_ofString typed)

theorem yields_askInteger {text : String} {fallback : Int} (fits : Text.hasDecimal fallback = true) :
    (askInteger text fallback).Yields (fun answer => Text.hasDecimal answer = true) EndsInput := by
  refine (Question.yields_ask _).mono ?_ fun _ ended => ended
  rintro answer (⟨shown, ⟨⟩⟩ | ⟨typed, accepted⟩)
  · exact fits
  · dsimp only at accepted
    split at accepted
    · next read =>
      cases accepted
      exact Text.hasDecimal_of_readInteger read
    · cases accepted

theorem yields_askYesNo (text : String) (fallback : Bool) :
    (askYesNo text fallback).Yields (fun _ => True) EndsInput :=
  (Question.yields_ask _).mono (fun _ _ => trivial) fun _ ended => ended

theorem yields_askNumber (text : String) (fallback : Float) :
    (askNumber text fallback).Yields (fun _ => True) EndsInput :=
  (Question.yields_ask _).mono (fun _ _ => trivial) fun _ ended => ended

/-- Answers that can be written and read again. -/
structure SettingsAnswers.Writable (answers : SettingsAnswers) : Prop where
  programPath : Json.unjoined answers.programPath.elements = true
  maxSteps : Text.hasDecimal answers.maxSteps = true
  batchSize : Text.hasDecimal answers.batchSize = true
  tapeSize : Text.hasDecimal answers.tapeSize = true
  gridMax : Text.hasDecimal answers.gridMax = true

/-- The questions of the settings entry, under its heading. -/
def settingsQuestions (preferences : Preferences) : App SettingsAnswers := do
  printLine "\nEdit Configuration"
  askSettings preferences

theorem settingsEntry_eq (settings : Settings) (preferences : Preferences) (path : String) :
    settingsEntry settings preferences path =
      settingsQuestions preferences >>= fun answers => saveAnswers answers settings path := by
  rw [settingsEntry, settingsQuestions, bind_assoc]

/-- The failures of the questions: the input ends, or the present delay is shown, which is too long. -/
def StopsQuestions (preferences : Preferences) (failure : Failure) : Prop :=
  failure = .endOfInput ∨ failure = .durationTooLong ∧ preferences.stepDelay.fitsFloat = false

theorem App.Yields.orStops {α : Type} {command : App α} {allowed : α → Prop}
    (yields : command.Yields allowed EndsInput) : command.Yields allowed (StopsQuestions preferences) :=
  yields.mono (fun _ holds => holds) fun _ ended => .inl ended

theorem hasDecimal_limit (sound : settings.Sound room) (gives : settings.Gives preferences) :
    Text.hasDecimal (preferences.maxSteps.getD 0) = true := by
  have stored := sound.faithful_of_find? gives.maxSteps
  cases limit : preferences.maxSteps with
  | none => rfl
  | some number =>
      rw [limit] at stored
      exact stored

/-- What is asked for can be written, since what is offered can. -/
theorem yields_settingsQuestions (sound : settings.Sound room) (gives : settings.Gives preferences) :
    (settingsQuestions preferences).Yields SettingsAnswers.Writable (StopsQuestions preferences) := by
  refine (App.yields_printLine _).bind fun _ _ => ?_
  refine (yields_askPath (sound.faithful_of_find? gives.programPath)).orStops.bind fun programPath program => ?_
  refine (yields_askYesNo _ _).orStops.bind fun showSteps _ => ?_
  dsimp only
  split
  · next tooLong =>
    have stops : StopsQuestions preferences .durationTooLong := .inr ⟨rfl, by simpa using tooLong⟩
    exact fun start => ⟨⟨rfl, rfl⟩, stops⟩
  refine (yields_askNumber _ _).orStops.bind fun stepDelay _ => ?_
  refine (yields_askInteger (hasDecimal_limit sound gives)).orStops.bind fun maxSteps limit => ?_
  refine (yields_askYesNo _ _).orStops.bind fun traceLog _ => ?_
  refine (yields_askInteger (sound.faithful_of_find? gives.batchSize)).orStops.bind fun batchSize batch => ?_
  refine (yields_askInteger (sound.faithful_of_find? gives.tapeSize)).orStops.bind fun tapeSize tape => ?_
  refine (yields_askInteger (sound.faithful_of_find? gives.gridMax)).orStops.bind fun gridMax grid => ?_
  exact App.yields_pure ⟨program, limit, batch, tape, grid⟩

/-! ### Settings with the answers put in -/

namespace SettingsAnswers

/-- The answers as they are stored. -/
def fields (answers : SettingsAnswers) : List (RawText × Json) :=
  [("program_path", .string answers.programPath), ("show_steps", .bool answers.showSteps),
    ("step_delay", .float answers.stepDelay),
    ("max_steps", if 0 < answers.maxSteps then .int answers.maxSteps else .null),
    ("trace_log", .bool answers.traceLog), ("batch_size", .int answers.batchSize),
    ("tape_size", .int answers.tapeSize), ("grid_max", .int answers.gridMax)]

theorem apply_eq (answers : SettingsAnswers) (settings : Settings) :
    answers.apply settings = settings.setAll answers.fields := rfl

theorem fits_fields (writable : answers.Writable) (room : Nat) :
    ∀ field ∈ answers.fields, Json.FieldFits room field := by
  have named (key : String) {value : Json} (isFaithful : value.faithful = true) (flat : value.depth = 0) :
      Json.FieldFits room (key, value) :=
    ⟨(Settings.fits_text key room).1, isFaithful, flat ▸ Nat.zero_le _⟩
  simp only [fields, List.forall_mem_cons]
  refine ⟨named _ writable.programPath rfl, named _ rfl rfl, named _ rfl rfl, ?_, named _ rfl rfl,
    named _ writable.batchSize rfl, named _ writable.tapeSize rfl, named _ writable.gridMax rfl,
    List.forall_mem_nil _⟩
  split
  · exact named _ writable.maxSteps rfl
  · exact named _ rfl rfl

theorem sound_apply (writable : answers.Writable) (sound : settings.Sound room) :
    (answers.apply settings).Sound room := by
  rw [apply_eq]
  exact sound.setAll (fits_fields writable room)

theorem textual_apply (answers : SettingsAnswers) (textual : settings.Textual) :
    (answers.apply settings).Textual := by
  rw [apply_eq]
  exact textual.setAll answers.fields

/-- The answers leave the output directory as it is. -/
theorem outputDirectory_apply {updated : Preferences} (gives : settings.Gives preferences)
    (updates : (answers.apply settings).Gives updated) :
    updated.outputDirectory = preferences.outputDirectory := by
  have apart : RawText.ofString "output_directory" ∉ Json.names answers.fields := by
    simp only [Json.names, fields, List.map_cons, List.map_nil]
    decide
  have stored := updates.outputDirectory
  rw [apply_eq, Settings.find?_setAll apart, gives.outputDirectory] at stored
  exact (Json.string.inj (Option.some.inj stored)).symm

end SettingsAnswers

/-! ### Loading -/

/-- Settings are loaded for a command just where they can be loaded. -/
theorem loadRuntimeSettings_eq_ok {loaded : Settings × Preferences} :
    loadRuntimeSettings path false start = .ok loaded final ↔
      loadSettings path false start = .ok loaded final := by
  refine ⟨fun succeeded => ?_, tryCatch_of_ok⟩
  cases outcome : loadSettings path false start with
  | ok answer middle =>
      have run : loadRuntimeSettings path false start = .ok answer middle := tryCatch_of_ok outcome
      exact run.symm.trans succeeded
  | error failure middle =>
      -- Every failure is reported by another one.
      rw [loadRuntimeSettings, tryCatch_of_error outcome] at succeeded
      cases kind : failure.failureClass with
      | fileMissing | wrongValue | other =>
          rw [kind] at succeeded
          cases succeeded

/-! ### Saving the answers -/

/-- The session after a line was printed in it. -/
def Session.said (session : Session) (line : String) : Session :=
  { session with transcript := .text (line ++ "\n") :: session.transcript }

theorem Session.sameFiles_said (session : Session) (line : String) : session.SameFiles (session.said line) :=
  ⟨rfl, rfl⟩

theorem saveAnswers_of_refused {error : SettingsError}
    (refused : (answers.apply settings).preferences = .error error) :
    ∃ final, saveAnswers answers settings path asked = .ok () final ∧ asked.SameFiles final := by
  have failed : (do saveSettings (answers.apply settings) path; pure true : App Bool) asked =
      .error (.settings error) asked :=
    EStateM.bind_of_error (saveSettingsWithin_of_refused Json.nestingLimit refused)
  let notice := LineWrap.fitHighlighted (Markup.plain ("Configuration not saved: " ++ error.message))
  refine ⟨asked.said notice, ?_, Session.sameFiles_said asked notice⟩
  rw [saveAnswers]
  exact EStateM.bind_eq_ok.mpr ⟨false, asked.said notice, (tryCatch_of_error failed).trans rfl, rfl⟩

section

variable {updated : Preferences} (given : (answers.apply settings).preferences = .ok updated)
  (allowed : checkPath path = .ok ())

include given allowed

theorem saveAnswers_of_fault {fault : StoreFault}
    (failed : asked.store.openForWriting .truncate (.here path) = .error fault) :
    saveAnswers answers settings path asked = .error (.file ⟨fault, path⟩) asked := by
  have fails : (do saveSettings (answers.apply settings) path; pure true : App Bool) asked =
      .error (.file ⟨fault, path⟩) asked :=
    EStateM.bind_of_error (saveSettingsWithin_of_fault given allowed Json.nestingLimit failed)
  rw [saveAnswers]
  refine EStateM.bind_of_error ((tryCatch_of_error fails).trans ?_)
  cases fault <;> rfl

/-- Answers put into settings as loading leaves them are saved. -/
theorem saveAnswers_of_ok (sound : (answers.apply settings).Sound Settings.valueRoom) {opened : Store}
    {location : Location}
    (opening : asked.store.openForWriting .truncate (.here path) = .ok (opened, location)) :
    saveAnswers answers settings path asked =
      .ok () (Session.said { asked with store := opened.append location (answers.apply settings).content }
        "Configuration updated successfully.") := by
  have done : (do saveSettings (answers.apply settings) path; pure true : App Bool) asked =
      .ok true { asked with store := opened.append location (answers.apply settings).content } := by
    have saved : saveSettings (answers.apply settings) path asked = _ :=
      saveSettingsWithin_of_ok given allowed opening sound.dump_toDocument
    rw [EStateM.bind_of_ok saved]
    rfl
  rw [saveAnswers, EStateM.bind_of_ok (tryCatch_of_ok done)]
  rfl

end

/-! ### Editing -/

theorem settingsEntry_of_answers (settings : Settings) (path : String)
    (answered : settingsQuestions preferences before = .ok answers asked) :
    settingsEntry settings preferences path before = saveAnswers answers settings path asked := by
  rw [settingsEntry_eq, EStateM.bind_of_ok answered]

/-- A settings file that was found here can be written. -/
theorem exists_openForWriting (holds : start.Holds room path settings preferences)
    (lasts : start.store.Lasts before.store) (here : start.reaches (.here path) = true) :
    ∃ opened, before.store.openForWriting .truncate (.here path) = .ok opened := by
  obtain ⟨⟨document, shown, -⟩, -⟩ := holds
  have place : start.settingsPlace path = .here path := by
    rw [Session.settingsPlace, here]
    rfl
  rw [place] at shown
  obtain ⟨-, content, text, stands, -⟩ := shown
  exact Store.openForWriting_of_file (lasts.status_eq stands)

/-- Editing the settings that were loaded for a path is all or nothing.  Answers that fail the checks
change no file, and the same settings are loaded once more; answers that pass are saved, and are what is
loaded next.  The exception is a path that is found among the installed files only: where it cannot be
opened for writing, the entry fails.  It also fails where the questions come to no end.

Loading makes the output directory, and what is loaded next depends on it: the directory must be there,
which it is unless its path ends in a dot, and making it must not have put anything under the path of the
settings in front of the installed file.  A document of pairs may name its entries by other values than
texts; these are texts once they are saved. -/
theorem settingsEntry_outcome
    (loaded : loadRuntimeSettings path false start = .ok (settings, preferences) before) :
    ((splitDirectory preferences.outputDirectory).2 ≠ "." →
      before.hasDirectory preferences.outputDirectory = true) ∧
    (∀ failure asked, settingsQuestions preferences before = .error failure asked →
      settingsEntry settings preferences path before = .error failure asked ∧ before.SameFiles asked ∧
        StopsQuestions preferences failure) ∧
    ∀ answers asked, settingsQuestions preferences before = .ok answers asked →
      (∀ error, (answers.apply settings).preferences = .error error →
        ∃ final, settingsEntry settings preferences path before = .ok () final ∧ before.SameFiles final ∧
          (before.hasDirectory preferences.outputDirectory = true →
            (before.reaches (.here path) = true → start.reaches (.here path) = true) →
            loadRuntimeSettings path false final = .ok (settings, preferences) final)) ∧
      ∀ updated, (answers.apply settings).preferences = .ok updated →
        (∀ fault, before.store.openForWriting .truncate (.here path) = .error fault →
          start.reaches (.here path) = false ∧ before.SameFiles asked ∧
            settingsEntry settings preferences path before = .error (.file ⟨fault, path⟩) asked) ∧
        ∀ opened, before.store.openForWriting .truncate (.here path) = .ok opened →
          ∃ final, settingsEntry settings preferences path before = .ok () final ∧
            final.store = opened.1.append opened.2 (answers.apply settings).content ∧
            (before.hasDirectory preferences.outputDirectory = true → settings.Textual →
              loadRuntimeSettings path false final = .ok (answers.apply settings, updated) final) := by
  obtain ⟨holds, made⟩ := loadSettingsWithin_eq_ok.mp (loadRuntimeSettings_eq_ok.mp loaded)
  have sound : settings.Sound Settings.valueRoom := holds.sound
  have gives := Settings.preferences_eq_ok.mp holds.preferences
  have lasts := lasts_of_makeDirectories made
  have questions := yields_settingsQuestions sound gives
  refine ⟨fun named => hasDirectory_of_makeDirectories named made, fun failure asked stopped => ?_,
    fun answers asked answered => ?_⟩
  · obtain ⟨same, stops⟩ := questions.of_error stopped
    refine ⟨?_, same, stops⟩
    rw [settingsEntry_eq]
    exact EStateM.bind_of_error stopped
  obtain ⟨same, writable⟩ := questions.of_ok answered
  rw [settingsEntry_of_answers settings path answered, ← same.store]
  refine ⟨fun error refused => ?_, fun updated given => ⟨fun fault failed => ?_, ?_⟩⟩
  · obtain ⟨final, saved, kept⟩ := @saveAnswers_of_refused path settings answers asked error refused
    have left := same.trans kept
    refine ⟨final, saved, left, fun directory apart => ?_⟩
    refine loadRuntimeSettings_eq_ok.mpr (loadSettingsWithin_of_lasts holds ?_ ?_ ?_ ?_)
    · rw [left.store]
      exact lasts
    · exact left.installRoot.trans (installRoot_of_makeDirectories made)
    · rwa [Session.reaches, left.store]
    · rwa [Session.hasDirectory, left.store]
  · refine ⟨?_, same, saveAnswers_of_fault given holds.allowed failed⟩
    rw [Bool.eq_false_iff]
    intro here
    obtain ⟨opened, opening⟩ := exists_openForWriting holds lasts here
    rw [same.store] at failed
    cases failed.symm.trans opening
  · rintro ⟨opened, location⟩ opening
    have soundNow := SettingsAnswers.sound_apply writable sound
    refine ⟨_, saveAnswers_of_ok given holds.allowed soundNow opening, rfl, fun directory textual => ?_⟩
    have sameDirectory := SettingsAnswers.outputDirectory_apply gives (Settings.preferences_eq_ok.mp given)
    refine loadRuntimeSettings_eq_ok.mpr (loadSettingsWithin_of_saved given holds.allowed soundNow
      (SettingsAnswers.textual_apply answers textual) opening ?_ rfl)
    rw [sameDirectory, Session.hasDirectory, same.store]
    exact directory

/-- A session in an empty directory with a line for each question: only the size of the tape is given. -/
def bareSession : Session where
  store := installedStore
  installRoot := ""
  clock := default
  elapsed := .whole 0
  input := "\n\n\n\n\n\n1024\n\n".toList
  transcript := []
  progress := none
  journal := none
  patience := 0

/-- That session once the standard settings are loaded. -/
def bareLoaded : Session :=
  leftBehind (makeDirectories Preferences.standard.outputDirectory bareSession)

theorem loadRuntimeSettings_bareSession :
    loadRuntimeSettings Bundled.settingsPath false bareSession =
      .ok (Settings.defaults, Preferences.standard) bareLoaded := by
  have sound := Settings.sound_defaults Settings.valueRoom
  have shown : bareSession.Shows Json.nestingLimit (bareSession.settingsPlace Bundled.settingsPath)
      Settings.defaults.toDocument :=
    Session.shows_content (sound.storable Settings.textual_defaults) rfl rfl
  refine loadRuntimeSettings_eq_ok.mpr (loadSettingsWithin_eq_ok.mpr ⟨⟨⟨_, shown, ?_⟩, ?_⟩, rfl⟩)
  · rw [Settings.merge_toDocument, sound.arranged_eq_self Settings.textual_defaults]
  · exact Settings.preferences_defaults

/-- What comes of the questions there, and whether the settings can be saved. -/
theorem evaluated_bareLoaded :
    (match settingsQuestions Preferences.standard bareLoaded with
      | .ok answers _ => answers.tapeSize == 1024 && (answers.apply Settings.defaults).preferences.isOk
      | .error _ _ => false) = true ∧
    (match bareLoaded.store.openForWriting .truncate (.here Bundled.settingsPath) with
      | .error fault => fault == .missing
      | .ok _ => false) = true := by
  decide +kernel

/-- In an empty directory the standard settings are found among the installed files, and answers that pass
the checks make the entry fail, since there is no directory for the settings file here. -/
theorem settingsEntry_fails_bareLoaded :
    loadRuntimeSettings Bundled.settingsPath false bareSession =
        .ok (Settings.defaults, Preferences.standard) bareLoaded ∧
      ∃ answers asked updated, settingsQuestions Preferences.standard bareLoaded = .ok answers asked ∧
        answers.tapeSize = 1024 ∧ (answers.apply Settings.defaults).preferences = .ok updated ∧
        settingsEntry Settings.defaults Preferences.standard Bundled.settingsPath bareLoaded =
          .error (.file ⟨.missing, Bundled.settingsPath⟩) asked := by
  obtain ⟨asking, opening⟩ := evaluated_bareLoaded
  have outcome := settingsEntry_outcome loadRuntimeSettings_bareSession
  refine ⟨loadRuntimeSettings_bareSession, ?_⟩
  cases answered : settingsQuestions Preferences.standard bareLoaded with
  | error failure asked =>
      rw [answered] at asking
      cases asking
  | ok answers asked =>
      simp only [answered, Bool.and_eq_true, beq_iff_eq] at asking
      cases given : (answers.apply Settings.defaults).preferences with
      | error error =>
          rw [given] at asking
          cases asking.2
      | ok updated =>
          cases failed : bareLoaded.store.openForWriting .truncate (.here Bundled.settingsPath) with
          | ok opened =>
              rw [failed] at opening
              cases opening
          | error fault =>
              obtain rfl : fault = .missing := by simpa [failed] using opening
              obtain ⟨-, -, fails⟩ := ((outcome.2.2 answers asked answered).2 updated given).1 .missing failed
              exact ⟨answers, asked, updated, rfl, asking.1, given, fails⟩

end TapeMultiplier
