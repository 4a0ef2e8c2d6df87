/-
Module: TapeMultiplier.Proofs.SettingsFile
Layer: Proofs
Purpose: What loading and saving settings come to.  Loading depends on the files alone, so it goes on
  giving the same where nothing is lost; and settings that were saved are loaded from where they were
  saved.
Main exports: Session.settingsPlace, Session.Shows, loadSettingsWithin_eq_ok, loadSettingsWithin_of_lasts,
  saveSettingsWithin_eq, Session.holds_of_stored, loadSettingsWithin_of_saved
-/
import TapeMultiplier.Files
import TapeMultiplier.Proofs.Json.Layout
import TapeMultiplier.Proofs.Prompt
import TapeMultiplier.Proofs.Session.Directories
import TapeMultiplier.Proofs.Settings.Arrangement

namespace TapeMultiplier

/-! ### What a session shows -/

namespace Session

/-- Whether a path stands for anything. -/
def reaches (session : Session) (place : Place) : Bool :=
  session.store.holds place && (checkPath place.path).isOk

/-- Where the settings for a path are looked for. -/
def settingsPlace (session : Session) (path : RawText) : Place :=
  let installed := Place.installed session.installRoot path
  if session.reaches (.here path) || isRooted path then .here path
  else if session.reaches installed then installed else .here path

/-- There is a file with a document in it, which can be read where there is so much room. -/
def Shows (room : Nat) (session : Session) (place : Place) (document : Json) : Prop :=
  checkPath place.path = .ok () ∧ ∃ content text, session.store.status place = .ok (.file content) ∧
    Text.decodeUtf8 content = .ok text ∧ Json.readWithin room (unifyLineEnds text.toList) = .ok document

end Session

variable {start final : Session} {place : Place} {path : RawText} {document : Json} {room : Nat}

theorem Session.Shows.reaches (shows' : start.Shows room place document) : start.reaches place = true := by
  obtain ⟨allowed, content, text, stands, -⟩ := shows'
  rw [Session.reaches, isOk_checkPath.mpr allowed, Store.holds, stands]
  rfl

/-- A document is there as long as nothing is lost. -/
theorem Session.Shows.of_lasts (shows' : start.Shows room place document)
    (lasts : start.store.Lasts final.store) : final.Shows room place document := by
  obtain ⟨allowed, content, text, stands, decoded, read⟩ := shows'
  exact ⟨allowed, content, text, lasts.status_eq stands, decoded, read⟩

/-! ### Reading documents -/

/-- A document is read just where the session shows it. -/
theorem readDocument_eq_ok :
    readDocument room place start = .ok document final ↔ start.Shows room place document ∧ final = start := by
  constructor
  · intro read
    obtain ⟨_, _, found, rest⟩ := EStateM.bind_eq_ok.mp read
    obtain ⟨⟨allowed, content, text, stands, decoded, rfl⟩, rfl⟩ := readTextFile_eq_ok.mp found
    obtain ⟨parsed, rfl⟩ := orFail_eq_ok rest
    exact ⟨⟨allowed, content, text, stands, decoded, parsed⟩, rfl⟩
  · rintro ⟨⟨allowed, content, text, stands, decoded, parsed⟩, rfl⟩
    have found : readTextFile place final = .ok (unifyLineEnds text.toList) final :=
      readTextFile_eq_ok.mpr ⟨⟨allowed, content, text, stands, decoded, rfl⟩, rfl⟩
    rw [readDocument, EStateM.bind_of_ok found]
    exact orFail_of_ok parsed final

theorem reads_readDocument (room : Nat) (place : Place) : (readDocument room place).Reads := by
  refine App.reads_bind (App.reads_bind (reads_onStore place _) fun content => ?_) fun text =>
    App.reads_orFail _ _
  exact App.reads_bind (App.reads_orFail _ _) fun text => App.reads_pure _

/-- What is saved of settings. -/
def Settings.content (settings : Settings) : ByteArray :=
  settings.toDocument.writeIndented.toUTF8

/-- A file to which settings were saved has their document in it. -/
theorem Session.shows_content {settings : Settings} (storable : settings.Storable room)
    (allowed : checkPath place.path = .ok ()) (stands : start.store.status place = .ok (.file settings.content)) :
    start.Shows room place settings.toDocument := by
  refine ⟨allowed, _, _, stands, Text.decodeUtf8_toUTF8 _, ?_⟩
  rw [unifyLineEnds_of_notMem (Json.notMem_writeIndented _), Json.toList_writeIndented]
  exact storable.read_toDocument _

/-! ### Loading -/

theorem placeExists_eq (place : Place) (session : Session) :
    placeExists place session = .ok (session.reaches place) session := rfl

theorem resolveSettings_eq (path : RawText) (session : Session) :
    resolveSettings path session = .ok (session.settingsPlace path) session := by
  show (if (session.reaches (.here path) || isRooted path) = true then _ else _ : App Place) session = _
  rw [Session.settingsPlace]
  split <;> rfl

theorem path_settingsPlace (path : RawText) (session : Session) : (session.settingsPlace path).path = path := by
  rw [Session.settingsPlace]
  repeat' split
  all_goals rfl

/-- The document for a path, merged over the defaults, gives settings that pass the checks. -/
structure Session.Holds (room : Nat) (session : Session) (path : RawText) (settings : Settings)
    (preferences : Preferences) : Prop where
  document : ∃ document, session.Shows room (session.settingsPlace path) document ∧
    Settings.defaults.merge document = .ok settings
  preferences : settings.preferences = .ok preferences

variable {settings : Settings} {preferences : Preferences}

theorem Session.Holds.allowed (holds : start.Holds room path settings preferences) : checkPath path = .ok () := by
  obtain ⟨⟨document, ⟨allowed, -⟩, -⟩, -⟩ := holds
  rwa [path_settingsPlace] at allowed

theorem Session.Holds.sound (holds : start.Holds (room + 1) path settings preferences) : settings.Sound room := by
  obtain ⟨⟨document, ⟨-, content, text, -, -, read⟩, merged⟩, -⟩ := holds
  exact (Settings.sound_defaults room).merge (Json.fits_of_readWithin read) merged

/-- Settings are loaded just where the session holds them and their output directory can be made. -/
theorem loadSettingsWithin_eq_ok :
    loadSettingsWithin room path false start = .ok (settings, preferences) final ↔
      start.Holds room path settings preferences ∧
        makeDirectories preferences.outputDirectory start = .ok () final := by
  rw [loadSettingsWithin, EStateM.bind_of_ok (resolveSettings_eq path start),
    EStateM.bind_of_ok (placeExists_eq (start.settingsPlace path) start)]
  dsimp only
  constructor
  · intro loaded
    split at loaded
    · cases loaded
    · obtain ⟨document, _, read, afterRead⟩ := EStateM.bind_eq_ok.mp loaded
      obtain ⟨shows', rfl⟩ := readDocument_eq_ok.mp read
      obtain ⟨_, _, merging, afterMerge⟩ := EStateM.bind_eq_ok.mp afterRead
      obtain ⟨merged, rfl⟩ := orFail_eq_ok merging
      obtain ⟨_, _, checking, afterCheck⟩ := EStateM.bind_eq_ok.mp afterMerge
      obtain ⟨given, rfl⟩ := orFail_eq_ok checking
      obtain ⟨_, _, made, ⟨⟩⟩ := EStateM.bind_eq_ok.mp afterCheck
      exact ⟨⟨⟨document, shows', merged⟩, given⟩, made⟩
  · rintro ⟨⟨⟨document, shows', merged⟩, given⟩, made⟩
    rw [shows'.reaches, if_neg (by decide), EStateM.bind_of_ok (readDocument_eq_ok.mpr ⟨shows', rfl⟩),
      EStateM.bind_of_ok (orFail_of_ok merged start), EStateM.bind_of_ok (orFail_of_ok given start),
      EStateM.bind_of_ok made]
    rfl

/-- A path goes on standing for its settings file, unless a file appears that takes its place. -/
theorem settingsPlace_of_lasts (lasts : start.store.Lasts final.store)
    (root : final.installRoot = start.installRoot) (shown : start.Shows room (start.settingsPlace path) document)
    (apart : final.reaches (.here path) = true → start.reaches (.here path) = true) :
    final.settingsPlace path = start.settingsPlace path := by
  have reached := (shown.of_lasts lasts).reaches
  rw [Session.settingsPlace] at shown reached ⊢
  rw [Session.settingsPlace, root]
  by_cases here : start.reaches (.here path) = true
  · simp only [here, Bool.true_or, if_true] at reached ⊢
    simp only [reached, Bool.true_or, if_true]
  · have away : final.reaches (.here path) = false := Bool.eq_false_iff.mpr fun found => here (apart found)
    rw [Bool.eq_false_iff.mpr here] at shown reached ⊢
    rw [away]
    split
    · rfl
    · next notRooted =>
      simp only [if_neg notRooted] at shown reached
      by_cases installed : start.reaches (.installed start.installRoot path) = true
      · rw [if_pos installed] at reached ⊢
        rw [if_pos reached]
      · rw [if_neg installed] at shown
        exact absurd shown.reaches here

/-- Where nothing is lost, loading settings gives the same once more. -/
theorem loadSettingsWithin_of_lasts (holds : start.Holds room path settings preferences)
    (lasts : start.store.Lasts final.store) (root : final.installRoot = start.installRoot)
    (apart : final.reaches (.here path) = true → start.reaches (.here path) = true)
    (directory : final.hasDirectory preferences.outputDirectory = true) :
    loadSettingsWithin room path false final = .ok (settings, preferences) final := by
  obtain ⟨⟨document, shown, merged⟩, given⟩ := holds
  refine loadSettingsWithin_eq_ok.mpr
    ⟨⟨⟨document, ?_, merged⟩, given⟩, makeDirectories_of_hasDirectory directory⟩
  rw [settingsPlace_of_lasts lasts root shown apart]
  exact shown.of_lasts lasts

/-! ### Saving -/

theorem saveSettingsWithin_of_refused {error : SettingsError} (room : Nat)
    (refused : settings.preferences = .error error) :
    saveSettingsWithin room settings path start = .error (.settings error) start := by
  rw [saveSettingsWithin]
  exact EStateM.bind_of_error (orFail_of_error refused start)

section

variable (given : settings.preferences = .ok preferences) (allowed : checkPath path = .ok ())

include given allowed

theorem saveSettingsWithin_of_fault {fault : StoreFault} (room : Nat)
    (failed : start.store.openForWriting .truncate (.here path) = .error fault) :
    saveSettingsWithin room settings path start = .error (.file ⟨fault, path⟩) start := by
  rw [saveSettingsWithin, EStateM.bind_of_ok (orFail_of_ok given start)]
  exact EStateM.bind_of_error (openFile_of_error allowed failed)

/-- Settings that pass the checks are written to the file, which was emptied before, as far as they can
be written. -/
theorem saveSettingsWithin_eq {opened : Store} {location : Location} {text : String}
    {outcome : Except Json.WriteFault Unit}
    (opening : start.store.openForWriting .truncate (.here path) = .ok (opened, location))
    (dumped : settings.toDocument.dump (Json.writingRoom room) = (text, outcome)) :
    saveSettingsWithin room settings path start =
      orFail Failure.ofWriting outcome { start with store := opened.append location text.toUTF8 } := by
  rw [saveSettingsWithin, EStateM.bind_of_ok (orFail_of_ok given start),
    EStateM.bind_of_ok (openFile_of_ok allowed opening)]
  exact writeDocument_eq dumped

theorem saveSettingsWithin_of_ok {opened : Store} {location : Location}
    (opening : start.store.openForWriting .truncate (.here path) = .ok (opened, location))
    (dumped : settings.toDocument.dump (Json.writingRoom room) = (settings.toDocument.writeIndented, .ok ())) :
    saveSettingsWithin room settings path start =
      .ok () { start with store := opened.append location settings.content } :=
  saveSettingsWithin_eq given allowed opening dumped

/-- What was stored at a path is what the session holds for it, in the order in which loading leaves it. -/
theorem Session.holds_of_stored (storable : settings.Storable room)
    (stands : start.store.status (.here path) = .ok (.file settings.content)) :
    start.Holds room path settings.arranged preferences := by
  have shown : start.Shows room (.here path) settings.toDocument := Session.shows_content storable allowed stands
  have found : start.settingsPlace path = .here path := by
    rw [Session.settingsPlace, shown.reaches]
    rfl
  have accepted := storable.preferences_arranged (Settings.preferences_eq_ok.mp given)
  exact ⟨⟨_, found ▸ shown, Settings.merge_toDocument settings⟩, accepted.trans given⟩

/-- Settings that were saved are loaded from where they were saved. -/
theorem loadSettingsWithin_of_saved (sound : settings.Sound room) (textual : settings.Textual) {opened : Store}
    {location : Location}
    (opening : start.store.openForWriting .truncate (.here path) = .ok (opened, location))
    (directory : start.hasDirectory preferences.outputDirectory = true)
    (stored : final.store = opened.append location settings.content) :
    loadSettingsWithin (room + 1) path false final = .ok (settings, preferences) final := by
  obtain ⟨last, stands⟩ := Store.written_of_openForWriting opening settings.content
  rw [← stored] at last stands
  have holds := Session.holds_of_stored given allowed (sound.storable textual) stands
  rw [sound.arranged_eq_self textual] at holds
  have inPlace : final.hasDirectory preferences.outputDirectory = true := by
    rw [Session.hasDirectory, Bool.and_eq_true] at directory ⊢
    exact ⟨last.isDirectory_eq directory.1, directory.2⟩
  exact loadSettingsWithin_eq_ok.mpr ⟨holds, makeDirectories_of_hasDirectory inPlace⟩

end

end TapeMultiplier
