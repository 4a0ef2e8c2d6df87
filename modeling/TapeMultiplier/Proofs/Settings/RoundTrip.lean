/-
Module: TapeMultiplier.Proofs.Settings.RoundTrip
Layer: Proofs
Purpose: Saving settings and loading them again.  Settings that fail the checks are not saved; those that
  pass come back with the same entries in the order of the defaults, and from then on they come back as
  they are.  Nothing comes back that is nested deeper than what a document is read to, and what is nested
  a little deeper still is not even saved.
Main exports: loadSettingsWithin_of_quiet, quiet_of_loadSettingsWithin, loadSettings_saveSettings,
  depth_le_of_loadSettingsWithin, saveSettingsWithin_of_deep
-/
import TapeMultiplier.Proofs.SettingsEntry

namespace TapeMultiplier

variable {path : RawText} {settings loaded : Settings} {preferences : Preferences} {start final : Session}
  {room : Nat}

/-! ### Loading with a report -/

/-- What is printed of settings that were loaded. -/
def reportSettings (settings : Settings) : App Unit := do
  printLine ("[" ++ (← get).clock.stamp ++ "] Loaded config:")
  settings.reportLines.forM printLine

/-- Settings can be reported without fail. -/
theorem yields_reportSettings (settings : Settings) :
    (reportSettings settings).Yields (fun _ => True) fun _ => False :=
  App.yields_get.bind fun _ _ => (App.yields_printLine _).bind fun _ _ =>
    App.yields_forM fun line _ => App.yields_printLine line

theorem loadSettingsWithin_true (room : Nat) (path : RawText) : loadSettingsWithin room path true = (do
    let answer ← loadSettingsWithin room path false
    reportSettings answer.1
    return answer) := by
  simp only [loadSettingsWithin, reportSettings, bind_assoc]
  refine bind_congr fun place => bind_congr fun found => ?_
  split
  · simp only [bind_assoc, if_true, Bool.false_eq_true, if_false, pure_bind]
  · simp only [bind_assoc, if_true, Bool.false_eq_true, if_false, pure_bind]

/-- With a report the same settings are loaded as without one. -/
theorem loadSettingsWithin_of_quiet {answer : Settings × Preferences} (verbose : Bool)
    (quiet : loadSettingsWithin room path false start = .ok answer final) :
    ∃ shown, loadSettingsWithin room path verbose start = .ok answer shown ∧ final.SameFiles shown := by
  cases verbose with
  | false => exact ⟨final, quiet, rfl, rfl⟩
  | true =>
      rw [loadSettingsWithin_true, EStateM.bind_of_ok quiet]
      cases report : reportSettings answer.1 final with
      | ok reported shown =>
          exact ⟨shown, EStateM.bind_of_ok report, ((yields_reportSettings answer.1).of_ok report).1⟩
      | error failure shown => exact ((yields_reportSettings answer.1).of_error report).2.elim

/-- Without a report the same settings are loaded as with one. -/
theorem quiet_of_loadSettingsWithin {answer : Settings × Preferences} {verbose : Bool}
    (done : loadSettingsWithin room path verbose start = .ok answer final) :
    ∃ loaded, loadSettingsWithin room path false start = .ok answer loaded := by
  cases verbose with
  | false => exact ⟨final, done⟩
  | true =>
      rw [loadSettingsWithin_true] at done
      obtain ⟨_, loaded, quiet, reported⟩ := EStateM.bind_eq_ok.mp done
      obtain ⟨_, _, _, ⟨⟩⟩ := EStateM.bind_eq_ok.mp reported
      exact ⟨loaded, quiet⟩

/-! ### Saving and loading -/

/-- Settings that stand as loading leaves them can be saved where they were loaded from, and are then loaded
unchanged. -/
theorem loadSettingsWithin_saveSettingsWithin_of_sound (sound : settings.Sound room) (textual : settings.Textual)
    (given : settings.preferences = .ok preferences) (allowed : checkPath path = .ok ()) {content : ByteArray}
    (stands : start.store.status (.here path) = .ok (.file content))
    (directory : start.hasDirectory preferences.outputDirectory = true) :
    ∃ saved, saveSettingsWithin (room + 1) settings path start = .ok () saved ∧
      ∀ verbose, ∃ final,
        loadSettingsWithin (room + 1) path verbose saved = .ok (settings, preferences) final := by
  obtain ⟨⟨opened, location⟩, opening⟩ := Store.openForWriting_of_file stands
  refine ⟨_, saveSettingsWithin_of_ok given allowed opening sound.dump_toDocument, fun verbose => ?_⟩
  have quiet := @loadSettingsWithin_of_saved start { start with store := opened.append location settings.content }
    path room settings preferences given allowed sound textual opened location opening directory rfl
  obtain ⟨final, loaded, -⟩ := loadSettingsWithin_of_quiet verbose quiet
  exact ⟨final, loaded⟩

/-- Saving settings and loading them, where the path can be opened for writing and there is room for
reading the settings.

Saving fails, and leaves everything as it was, just if the settings fail the checks.  If they pass and
their output directory can be made, loading gives the same entries: those of the default keys in the
order of the defaults, then the others in their own order.  If these are saved again, they are loaded
unchanged; for this the output directory must be there once it was made, which it is unless its path ends
in a dot. -/
theorem loadSettings_saveSettings (storable : settings.Storable room) (allowed : checkPath path = .ok ())
    {opened : Store} {location : Location}
    (opening : start.store.openForWriting .truncate (.here path) = .ok (opened, location)) :
    ((∃ failure, saveSettingsWithin room settings path start = .error failure start) ↔
        ∃ error, settings.preferences = .error error) ∧
      ∀ preferences, settings.preferences = .ok preferences →
        ∃ saved, saveSettingsWithin room settings path start = .ok () saved ∧
          ∀ made, makeDirectories preferences.outputDirectory saved = .ok () made →
            ((splitDirectory preferences.outputDirectory).2 ≠ "." →
              made.hasDirectory preferences.outputDirectory = true) ∧
            ∃ loaded, settings.Arranges loaded ∧
              ∀ verbose, ∃ shown,
                loadSettingsWithin room path verbose saved = .ok (loaded, preferences) shown ∧
                (made.hasDirectory preferences.outputDirectory = true →
                  ∃ resaved, saveSettingsWithin room loaded path shown = .ok () resaved ∧
                    ∀ verbose, ∃ final,
                      loadSettingsWithin room path verbose resaved = .ok (loaded, preferences) final) := by
  have saves {preferences : Preferences} (given : settings.preferences = .ok preferences) :=
    saveSettingsWithin_of_ok given allowed opening storable.dump_toDocument
  refine ⟨⟨?_, ?_⟩, fun preferences given => ?_⟩
  · rintro ⟨failure, failed⟩
    cases given : settings.preferences with
    | error error => exact ⟨error, rfl⟩
    | ok preferences => cases failed.symm.trans (saves given)
  · rintro ⟨error, refused⟩
    exact ⟨.settings error, saveSettingsWithin_of_refused room refused⟩
  · obtain ⟨-, stands⟩ := Store.written_of_openForWriting opening settings.content
    refine ⟨_, saves given, fun made making => ?_⟩
    refine ⟨fun named => hasDirectory_of_makeDirectories named making, settings.arranged,
      storable.arranges (Settings.preferences_eq_ok.mp given), fun verbose => ?_⟩
    have holds : Session.Holds room { start with store := opened.append location settings.content } path
        settings.arranged preferences :=
      Session.holds_of_stored given allowed storable stands
    have quiet := loadSettingsWithin_eq_ok.mpr ⟨holds, making⟩
    obtain ⟨shown, loaded, same⟩ := loadSettingsWithin_of_quiet verbose quiet
    refine ⟨shown, loaded, fun directory => ?_⟩
    have remains := (lasts_of_makeDirectories making).status_eq stands
    rw [← same.store] at remains
    obtain ⟨inner, rfl⟩ := storable.exists_room
    refine loadSettingsWithin_saveSettingsWithin_of_sound storable.sound_arranged
      (Settings.textual_arranged settings) holds.preferences allowed remains ?_
    rwa [Session.hasDirectory, same.store]

/-- Settings with further entries before and between those of the default keys. -/
def annotatedSettings : Settings :=
  Settings.ofFields
    [("note", .object [("é\n", .list [.null, .int (-3), .string "\"☃\""]), ("", .object [])]),
     ("grid_max", .int 5), ("output_directory", .string "out/runs"), ("max_steps", .int 900),
     ("batch_size", .int 16), ("Note", .list [.list [], .bool true]), ("tape_size", .int 256), ("trace_log", .bool true),
     ("log_file_prefix", .string "run_"), ("step_delay", .int 0), ("show_steps", .bool false),
     ("program_path", .string "programs/multiplication.tm")]

/-- What they come to. -/
def annotatedPreferences : Preferences where
  programPath := "programs/multiplication.tm"
  showSteps := false
  stepDelay := .whole 0
  maxSteps := some 900
  traceLog := true
  outputDirectory := "out/runs"
  logFileStem := "run_"
  batchSize := 16
  tapeSize := 256
  gridMax := 5

theorem storable_annotatedSettings : annotatedSettings.Storable Json.nestingLimit :=
  .of_plain (Settings.textual_ofFields _) (by decide +kernel) (by decide +kernel)

/-- They can be saved in an empty directory, and their output directory can be made there. -/
theorem evaluated_annotatedSettings :
    (bareSession.store.openForWriting .truncate (.here "c.json")).isOk = true ∧
    (match saveSettings annotatedSettings "c.json" bareSession with
      | .error _ _ => false
      | .ok _ saved =>
          match makeDirectories annotatedPreferences.outputDirectory saved with
          | .error _ _ => false
          | .ok _ made => made.hasDirectory annotatedPreferences.outputDirectory) = true := by
  decide +kernel

/-- In an empty directory those settings are saved, come back in another order, and then come back as
they are. -/
theorem loadSettings_saveSettings_annotated :
    annotatedSettings.Storable Json.nestingLimit ∧ annotatedSettings.preferences = .ok annotatedPreferences ∧
      ∃ saved loaded shown resaved final, saveSettings annotatedSettings "c.json" bareSession = .ok () saved ∧
        annotatedSettings.Arranges loaded ∧
        loadSettings "c.json" true saved = .ok (loaded, annotatedPreferences) shown ∧
        saveSettings loaded "c.json" shown = .ok () resaved ∧
        loadSettings "c.json" true resaved = .ok (loaded, annotatedPreferences) final := by
  refine ⟨storable_annotatedSettings, rfl, ?_⟩
  obtain ⟨opens, making⟩ := evaluated_annotatedSettings
  cases opening : bareSession.store.openForWriting .truncate (.here "c.json") with
  | error fault =>
      rw [opening] at opens
      cases opens
  | ok opened =>
      obtain ⟨saved, saving, comesBack⟩ :=
        (loadSettings_saveSettings storable_annotatedSettings rfl opening).2 annotatedPreferences rfl
      rw [show saveSettings annotatedSettings "c.json" bareSession = .ok () saved from saving] at making
      dsimp only at making
      split at making
      · cases making
      · next made done =>
        obtain ⟨-, loaded, arranges, again⟩ := comesBack made done
        obtain ⟨shown, loading, unchanged⟩ := again true
        obtain ⟨resaved, resaving, reloading⟩ := unchanged making
        obtain ⟨final, reloaded⟩ := reloading true
        exact ⟨saved, loaded, shown, resaved, final, saving, arranges, loading, resaving, reloaded⟩

/-! ### Settings that are nested too deep -/

/-- An empty list in so many lists. -/
def nestedList : Nat → Json
  | 0 => .list []
  | around + 1 => .list [nestedList around]

theorem plain_nestedList (around : Nat) : Json.plain (nestedList around) = true := by
  induction around with
  | zero => rfl
  | succ around ih =>
      rw [nestedList, Json.plain, Json.plainItems, ih]
      rfl

theorem depth_nestedList (around : Nat) : Json.depth (nestedList around) = around + 1 := by
  induction around with
  | zero => rfl
  | succ around ih =>
      rw [nestedList, Json.depth, Json.depthItems, ih]
      rfl

/-- Settings with one further entry. -/
def settingsWith (value : Json) : Settings :=
  Settings.ofFields
    [("program_path", .string "programs/multiplication.tm"), ("show_steps", .bool false), ("step_delay", .int 0),
     ("max_steps", .null), ("trace_log", .bool false), ("output_directory", .string "."),
     ("log_file_prefix", .string "multiplication_"), ("batch_size", .int 64), ("tape_size", .int 512),
     ("grid_max", .int 12), ("z", value)]

theorem plain_settingsWith {value : Json} (isPlain : Json.plain value = true) :
    Json.plain (settingsWith value).toDocument = true := by
  have last : Json.plain (settingsWith value).toDocument = (Json.plain value && true && true) := rfl
  rw [last, isPlain]
  rfl

theorem depth_settingsWith (value : Json) :
    Json.depth (settingsWith value).toDocument = Json.depth value + 1 := by
  simp [settingsWith, Settings.ofFields, Settings.toDocument, Json.depth, Json.depthFields]

/-- Settings that are loaded have no value that is nested too deep. -/
theorem depth_le_of_loadSettingsWithin {verbose : Bool} {entry : Json × Json}
    (done : loadSettingsWithin (room + 1) path verbose start = .ok (loaded, preferences) final)
    (member : entry ∈ loaded.entries) : Json.depth entry.2 ≤ room := by
  obtain ⟨_, quiet⟩ := quiet_of_loadSettingsWithin done
  exact ((loadSettingsWithin_eq_ok.mp quiet).1.sound.fits entry member).2.2

/-- Settings that pass the checks are not saved if they are nested too deep for being written; but the file is
emptied, and what can be written of them is in it. -/
theorem saveSettingsWithin_of_deep (given : settings.preferences = .ok preferences)
    (allowed : checkPath path = .ok ()) {opened : Store} {location : Location}
    (opening : start.store.openForWriting .truncate (.here path) = .ok (opened, location))
    (deep : Json.writingRoom room + 1 < Json.depth settings.toDocument) :
    ∃ failure saved text, saveSettingsWithin room settings path start = .error failure saved ∧
      saved.store.status (.here path) = .ok (.file (String.toUTF8 text)) := by
  obtain ⟨text, fault, dumped⟩ := Json.dump_of_deep deep
  obtain ⟨-, stands⟩ := Store.written_of_openForWriting opening text.toUTF8
  exact ⟨_, _, text, saveSettingsWithin_eq given allowed opening dumped, stands⟩

/-- Settings with an empty list in so many lists. -/
def nestedSettings (around : Nat) : Settings :=
  settingsWith (nestedList around)

/-- Settings with a list in lists, in all one thousand two hundred and fifty containers. -/
def deepSettings : Settings :=
  nestedSettings 1248

/-- Settings that are nested too deep for being read are not what is loaded. -/
theorem not_loadSettingsWithin_nestedSettings {around : Nat} (deep : room ≤ around) (start : Session)
    (path : RawText) :
    ¬ ∃ verbose loaded preferences final,
      loadSettingsWithin (room + 1) path verbose start = .ok (loaded, preferences) final ∧
        loaded.entries.Perm (nestedSettings around).entries := by
  rintro ⟨verbose, loaded, preferences, final, loading, same⟩
  have inside : (Json.string "z", nestedList around) ∈ (nestedSettings around).entries := by
    simp [nestedSettings, settingsWith, Settings.ofFields]
  have shallow := depth_le_of_loadSettingsWithin loading (same.mem_iff.mpr inside)
  rw [depth_nestedList] at shallow
  exact absurd deep (Nat.not_le.mpr shallow)

/-- Those settings hold nothing but texts, integers, truth values, null and lists, they pass the checks,
there is no file at the path but it can be opened for writing, and their output directory is there.  But
saving them fails, and leaves a file behind.  And where there is room for reading nine hundred and
ninety-three containers in each other, settings of the same kind with one more are saved, but are not
what is loaded then. -/
theorem not_loadSettings_deepSettings :
    (deepSettings.Textual ∧ Json.plain deepSettings.toDocument = true ∧
      Json.depth deepSettings.toDocument = 1250 ∧
      (∃ preferences, deepSettings.preferences = .ok preferences ∧
        bareSession.hasDirectory preferences.outputDirectory = true) ∧
      checkPath "../c.json" = .ok () ∧ bareSession.store.status (.here "../c.json") = .error .missing ∧
      ∃ opened, bareSession.store.openForWriting .truncate (.here "../c.json") = .ok opened) ∧
    (∃ failure saved text, saveSettings deepSettings "../c.json" bareSession = .error failure saved ∧
      saved.store.status (.here "../c.json") = .ok (.file (String.toUTF8 text))) ∧
    Json.depth (nestedSettings 992).toDocument = 994 ∧
    ∃ saved, saveSettingsWithin 993 (nestedSettings 992) "../c.json" bareSession = .ok () saved ∧
      ¬ ∃ verbose loaded preferences final,
        loadSettingsWithin 993 "../c.json" verbose saved = .ok (loaded, preferences) final ∧
          loaded.entries.Perm (nestedSettings 992).entries := by
  have deep (around : Nat) : Json.depth (nestedSettings around).toDocument = around + 2 := by
    rw [nestedSettings, depth_settingsWith, depth_nestedList]
  have isPlain (around : Nat) : Json.plain (nestedSettings around).toDocument = true :=
    plain_settingsWith (plain_nestedList around)
  have dumped : (nestedSettings 992).toDocument.dump (Json.writingRoom 993) =
      ((nestedSettings 992).toDocument.writeIndented, .ok ()) := by
    refine Json.dump_of_shallow (Json.writable_of_faithful (Json.faithful_of_plain (isPlain 992))) ?_
    rw [deep 992]
    decide
  have saving : saveSettingsWithin 993 (nestedSettings 992) "../c.json" bareSession = _ :=
    saveSettingsWithin_of_ok rfl rfl rfl dumped
  refine ⟨⟨Settings.textual_ofFields _, isPlain 1248, deep 1248, ⟨_, rfl, ?_⟩, rfl, rfl, _, rfl⟩, ?_, deep 992,
    _, saving, not_loadSettingsWithin_nestedSettings (Nat.le_refl 992) _ _⟩
  · decide +kernel
  · refine saveSettingsWithin_of_deep rfl rfl rfl ?_
    rw [deepSettings, deep 1248]
    decide

end TapeMultiplier
