/-
Module: TapeMultiplier.Proofs.Verification.Ledger
Layer: Proofs
Purpose: The two files of a folder as one ledger.  A verification that returns takes the ledger one step
  on: it goes on or starts over as the settings of the checkpoint say, and the checkpoint is replaced only
  if something was recorded.
Main exports: Ledger, Ledger.record, Ledger.Sound, Ledger.Stands, GridTask.settingsIn, verifyGrid_eq_ok,
  GridProgress.Concludes, GridPlan.verify_eq_ok, Ledger.WorkedOff, Ledger.Stands.begun,
  GridPlan.Regular, Ledger.Stands.verify
-/
import TapeMultiplier.Proofs.Verification.Batches

namespace TapeMultiplier

/-- What the two files of a folder say. -/
structure Ledger where
  /-- The settings of the checkpoint, if there is one. -/
  settings : Option Json
  /-- The keys that the checkpoint marks as completed. -/
  completed : List String
  /-- The entries in the results. -/
  entries : List Json

namespace Ledger

/-- Whether the checkpoint was made under other settings. -/
def differs (ledger : Ledger) (settings : Json) : Bool :=
  ledger.settings.any fun made => !made.equal settings

/-- The keys with which a verification under some settings begins. -/
def keptKeys (ledger : Ledger) (settings : Json) : List String :=
  if ledger.differs settings then [] else ledger.completed

/-- The entries with which a verification under some settings begins. -/
def keptEntries (ledger : Ledger) (settings : Json) : List Json :=
  if ledger.differs settings then [] else ledger.entries

/-- How a verification under some settings opens the results. -/
def mode (ledger : Ledger) (settings : Json) : Store.WriteMode :=
  if ledger.differs settings then .truncate else .append

/-- The ledger after a verification has written entries.  Results that are not kept are gone at once;
the checkpoint is replaced only if there are entries. -/
def record (ledger : Ledger) (settings : Json) (news : List Json) : Ledger where
  settings := if news = [] then ledger.settings else some settings
  completed :=
    if news = [] then ledger.completed
    else ledger.keptKeys settings ++ news.filterMap entryKey?
  entries := ledger.keptEntries settings ++ news

/-- What holds of every ledger that verifications write. -/
structure Sound (ledger : Ledger) : Prop where
  /-- No pair is completed twice. -/
  nodup : ledger.completed.Nodup
  /-- Something is completed if there is a checkpoint, and nothing if there is none. -/
  settled : ledger.settings = none ↔ ledger.completed = []
  /-- Settings and entries are read as they were written. -/
  plainSettings : ∀ settings ∈ ledger.settings, settings.plain = true ∧ settings.depth = 1
  filed : ∀ entry ∈ ledger.entries, entry.Filed
  keyed : ∀ entry ∈ ledger.entries, (entryKey? entry).isSome = true

/-- The content of the checkpoint, if there is one. -/
def checkpointNode (ledger : Ledger) : Option Node :=
  ledger.settings.map fun settings =>
    .file (checkpointDocument settings (completedList ledger.completed)).writeIndented.toUTF8

/-- The files of a folder hold what the ledger says. -/
structure Stands (ledger : Ledger) (folder : Location) (store : Store) : Prop where
  results : store.find? (resultsAt folder) = some (.file (Journal.lines ledger.entries).toUTF8) ∨
    (ledger.entries = [] ∧ store.find? (resultsAt folder) = none)
  checkpoint : store.find? (checkpointAt folder) = ledger.checkpointNode

end Ledger

/-! ### The parts of a verification -/

theorem reads_resolveProgram (path : RawText) : (resolveProgram path).Reads := by
  refine App.reads_bind (reads_placeFound _) fun found => ?_
  split
  · exact App.reads_pure _
  · refine App.reads_bind (App.reads_bind App.reads_get fun session => App.reads_pure _) fun place => ?_
    refine App.reads_bind (reads_placeFound _) fun foundThere => ?_
    split <;> exact App.reads_pure _

theorem reads_loadProgram (path : RawText) : (loadProgram path).Reads := by
  refine App.reads_bind (App.reads_tryCatch ?_ ?_) fun content => ?_
  · exact App.reads_bind (reads_resolveProgram path) fun place => reads_onStore place _
  · intro failure
    split <;> exact App.reads_throw _
  · exact App.reads_bind (App.reads_orFail _ _) fun text => App.reads_orFail _ _

theorem reads_programDigest (path : RawText) : (programDigest path).Reads := by
  refine App.reads_bind (reads_resolveProgram path) fun place => ?_
  exact App.reads_bind (reads_onStore place _) fun content => App.reads_pure _

/-- The bytes of a program file. -/
def programContent (path : RawText) : App ByteArray := do
  readFile (← resolveProgram path)

/-- The digest that is taken is that of the bytes that are read. -/
theorem programDigest_of_content {path : RawText} {content : ByteArray} {start after : Session}
    (read : programContent path start = .ok content after) :
    programDigest path start = .ok (Digest.sha256 content.toList) after := by
  obtain ⟨place, found, resolving, reading⟩ := EStateM.bind_eq_ok.mp read
  exact EStateM.bind_eq_ok.mpr ⟨place, found, resolving,
    EStateM.bind_eq_ok.mpr ⟨content, after, reading, rfl⟩⟩

/-- The digest of the program as a verification takes it, once the folder of the results is made. -/
def GridTask.digest (task : GridTask) : App String := do
  makePath task.folder
  programDigest task.programPath

/-- A program that can be read once the folder is made has its digest taken. -/
theorem GridTask.digest_of_content {task : GridTask} {content : ByteArray} {start ready : Session}
    (read : (makePath task.folder >>= fun _ => programContent task.programPath) start =
      .ok content ready) : task.digest start = .ok (Digest.sha256 content.toList) ready := by
  obtain ⟨⟨⟩, made, making, reading⟩ := EStateM.bind_eq_ok.mp read
  exact EStateM.bind_eq_ok.mpr ⟨(), made, making, programDigest_of_content reading⟩

/-- The settings of a task when it is begun in a session. -/
def GridTask.settingsIn (task : GridTask) (session : Session) : Json :=
  match task.digest session with
  | .ok digest _ => task.signature digest
  | .error _ _ => .null

namespace GridTask

variable {task : GridTask} {start ready : Session} {digest : String}

theorem digest_eq_ok (digested : task.digest start = .ok digest ready) :
    makePath task.folder start = .ok () ready ∧
      programDigest task.programPath ready = .ok digest ready := by
  obtain ⟨⟨⟩, made, making, reading⟩ := EStateM.bind_eq_ok.mp digested
  obtain rfl : ready = made := (reads_programDigest _).eq_of_ok reading
  exact ⟨making, reading⟩

theorem settingsIn_eq (digested : task.digest start = .ok digest ready) :
    task.settingsIn start = task.signature digest := by
  unfold settingsIn
  rw [digested]

end GridTask

/-- A verification that can load the program and take its digest carries its plan out. -/
theorem verifyGrid_eq {task : GridTask} {start ready : Session} {table : Table} {digest : String}
    (loaded : loadProgram task.programPath start = .ok table start)
    (digested : task.digest start = .ok digest ready) :
    verifyGrid task start = (task.plan table digest).verify ready := by
  obtain ⟨making, hashing⟩ := GridTask.digest_eq_ok digested
  rw [verifyGrid, EStateM.bind_of_ok loaded, EStateM.bind_of_ok making, EStateM.bind_of_ok hashing]

/-- A verification loads the program, takes its digest and carries its plan out. -/
theorem verifyGrid_eq_ok {task : GridTask} {start final : Session} {entries : List Json}
    (verified : verifyGrid task start = .ok entries final) :
    ∃ table digest ready, loadProgram task.programPath start = .ok table start ∧
      task.digest start = .ok digest ready ∧ (task.plan table digest).verify ready = .ok entries final := by
  obtain ⟨table, loaded, loading, rest⟩ := EStateM.bind_eq_ok.mp verified
  obtain rfl : loaded = start := (reads_loadProgram _).eq_of_ok loading
  obtain ⟨⟨⟩, made, making, digesting⟩ := EStateM.bind_eq_ok.mp rest
  obtain ⟨digest, ready, digested, verifying⟩ := EStateM.bind_eq_ok.mp digesting
  exact ⟨table, digest, ready, loading, EStateM.bind_eq_ok.mpr ⟨(), made, making, digested⟩, verifying⟩

/-- The pairs that are pending when some keys are done. -/
def pendingPairs (gridMax : Int) (done : List Json) : List (Int × Int) :=
  (operandGrid gridMax).filter fun pair => !isFiled done (pairKey pair.1 pair.2)

/-- How a verification ends: it gives its verdict, and answers with the entries that were written. -/
structure GridProgress.Concludes (last : GridProgress) (finished final : Session) (entries : List Json) : Prop where
  store : final.store = finished.store
  told : final.transcript = .text (verdict last.written ++ "\n") :: finished.transcript
  answered : entries = last.written.map (·.entry)

/-- A verification that returns has loaded the checkpoint, opened the results, worked off the batches of the
pending pairs and given its verdict. -/
theorem GridPlan.verify_eq_ok {plan : GridPlan} {start final : Session} {entries : List Json}
    (verified : plan.verify start = .ok entries final) :
    ∃ answer loaded done ready results opened begun batches last finished,
      loadCheckpoint plan.checkpointFile plan.signature start = .ok answer loaded ∧
      filedKeys (resumption answer).1 = .ok done ∧ ready.store = start.store ∧
      openFile (resumption answer).2 plan.resultsFile ready = .ok results opened ∧
      begun.store = opened.store ∧ start.SameSurroundings begun ∧
      plan.batches (pendingPairs plan.gridMax done) = .ok batches ∧
      batches.foldlM (plan.verifyBatch results) { completed := (resumption answer).1, written := [] }
        begun = .ok last finished ∧
      last.Concludes finished final entries := by
  obtain ⟨answer, loaded, loading, rest⟩ := EStateM.bind_eq_ok.mp verified
  have sameStore := (loadCheckpoint_eq_ok loading).1
  obtain ⟨done, filed, filing, rested⟩ := EStateM.bind_eq_ok.mp rest
  obtain ⟨isFiled, sameFiled⟩ := orFail_eq_ok filing
  rw [sameFiled] at rested
  obtain ⟨⟨⟩, ready, print, opens⟩ := EStateM.bind_eq_ok.mp rested
  obtain ⟨results, opened, opening, begins⟩ := EStateM.bind_eq_ok.mp opens
  obtain ⟨⟨⟩, begun, marked, cuts⟩ := EStateM.bind_eq_ok.mp begins
  obtain ⟨batches, cut, cutting, runs⟩ := EStateM.bind_eq_ok.mp cuts
  obtain ⟨isCut, sameCut⟩ := orFail_eq_ok cutting
  rw [sameCut] at runs
  obtain ⟨last, finished, running, ends⟩ := EStateM.bind_eq_ok.mp runs
  obtain ⟨⟨⟩, told, telling, ended⟩ := EStateM.bind_eq_ok.mp ends
  have readyStore : ready.store = loaded.store := by
    cases print
    rfl
  have begunStore : begun.store = opened.store := by
    cases marked
    rfl
  have surroundings : start.SameSurroundings begun := by
    have untilReady := ((steady_loadCheckpoint _ _).of_ok loading).trans ((steady_print _).of_ok print)
    have untilOpened := untilReady.trans ((steady_openFile _ _).of_ok opening)
    cases marked
    exact untilOpened.trans ⟨rfl, rfl, rfl⟩
  have concludes : last.Concludes finished final entries := by
    cases telling
    cases ended
    exact ⟨rfl, rfl, rfl⟩
  exact ⟨answer, loaded, done, ready, results, opened, begun, batches, last, finished, loading, isFiled,
    readyStore.trans sameStore, opening, begunStore, surroundings, isCut, running, concludes⟩

/-- The batches that the verification of a plan evaluates. -/
def GridPlan.pendingBatches (plan : GridPlan) : App (List (List (Int × Int))) := do
  let (completed, _) := resumption (← loadCheckpoint plan.checkpointFile plan.signature)
  let done ← orFail .checkpoint (filedKeys completed)
  orFail id (plan.batches (pendingPairs plan.gridMax done))

/-! ### Plans of tasks -/

/-- What the plan of a task for a folder comes with. -/
structure GridPlan.Regular (plan : GridPlan) (folder : Location) : Prop where
  tidy : plan.folder.Tidy
  here : (Place.here plan.folder.text).location? = some folder
  pairs : ∀ {patience batch found}, plan.evaluate patience batch = .ok found →
    found.map BatchResult.pair = batch
  cuts : ∀ {pending batches}, plan.batches pending = .ok batches →
    batches.flatten = pending ∧ ∀ batch ∈ batches, batch ≠ []
  plainSettings : plan.signature.writable = true → plan.signature.plain = true
  shallow : plan.signature.depth = 1

theorem GridTask.regular_plan {task : GridTask} (positive : 1 ≤ task.batchSize) {folder : Location}
    (here : (Place.here task.folder.text).location? = some folder) (table : Table) (digest : String) :
    (task.plan table digest).Regular folder where
  tidy := Path.tidy_child (Path.tidy_ofText _) _
  here := here
  pairs := evaluate_pairs
  cuts := batchesOf_eq_ok positive
  plainSettings := plain_signature
  shallow := depth_signature task digest

namespace GridPlan.Regular

variable {plan : GridPlan} {folder : Location}

theorem location?_results (regular : plan.Regular folder) :
    (Place.here plan.resultsFile).location? = some (resultsAt folder) := by
  rw [resultsFile, Path.location?_child regular.tidy fileNamed_results, regular.here]
  rfl

theorem location?_checkpoint (regular : plan.Regular folder) :
    (Place.here plan.checkpointFile.text).location? = some (checkpointAt folder) := by
  rw [checkpointFile, Path.location?_child regular.tidy fileNamed_checkpoint, regular.here]
  rfl

/-- Where results are opened, a checkpoint that is not found is not there. -/
theorem checkpoint_absent (regular : plan.Regular folder) {start ready opened : Session}
    {mode : Store.WriteMode} {results : Location} (same : ready.store = start.store)
    (opening : openFile mode plan.resultsFile ready = .ok results opened)
    (looked : placeFound (.here plan.checkpointFile.text) start = .ok false start) :
    start.store.find? (checkpointAt folder) = none := by
  obtain ⟨allowed, isOpened⟩ := openFile_eq_ok opening
  -- Not to be found could also mean that the path names no file or leads nowhere; but the path of the
  -- results differs from it in the last name only, and it leads to a file.
  have allowedToo : checkPath plan.checkpointFile.text = .ok () :=
    checkPath_child regular.tidy fileNamed_results fileNamed_checkpoint (by decide) allowed
  have short := exceeds_of_placeFound allowedToo looked
  obtain ⟨⟨resultsSpot, resultsLocated⟩, -⟩ := Store.openForWriting_eq_ok isOpened
  rw [same] at resultsLocated
  obtain ⟨spot, located⟩ := Store.locate_child regular.tidy fileNamed_results fileNamed_checkpoint
    resultsLocated (by decide) short
  obtain ⟨-, led⟩ := Store.locate_eq_ok located
  have atCheckpoint : checkpointAt folder = spot.location :=
    Option.some.inj (regular.location?_checkpoint.symm.trans led)
  rw [atCheckpoint]
  exact find?_of_placeFound_false allowedToo
    (Path.endsInSlash_child regular.tidy fileNamed_checkpoint) located looked

/-- A checkpoint that is loaded is no directory. -/
theorem checkpoint_noDirectory (regular : plan.Regular folder) {start ready opened loaded : Session}
    {mode : Store.WriteMode} {results : Location} {answer : Option Json}
    (same : ready.store = start.store)
    (opening : openFile mode plan.resultsFile ready = .ok results opened)
    (loading : loadCheckpoint plan.checkpointFile plan.signature start = .ok answer loaded)
    (entries : Entries) : start.store.find? (checkpointAt folder) ≠ some (.directory entries) := by
  intro isDirectory
  obtain ⟨-, found, looked, ⟨rfl, -⟩ | ⟨-, document, fields, read, -⟩⟩ := loadCheckpoint_eq_ok loading
  · rw [regular.checkpoint_absent same opening looked] at isDirectory
    cases isDirectory
  · obtain ⟨⟨-, content, decoded, stands, -⟩, -⟩ := readDocument_eq_ok.mp read
    obtain ⟨location, named, inStore⟩ := Store.status_eq_ok stands
    rw [regular.location?_checkpoint] at named
    cases named
    rw [isDirectory] at inStore
    cases inStore

end GridPlan.Regular

/-! ### One step of a ledger -/

theorem filedKeys_completedList (keys : List String) :
    filedKeys (completedList keys) = .ok (keys.map Json.ofText) := by
  have none : firstUnfiled (keys.map Json.ofText) = none := by
    rw [firstUnfiled, List.find?_eq_none.mpr]
    · rfl
    · intro item member
      obtain ⟨key, -, rfl⟩ := List.mem_map.mp member
      simp [Json.ofText, Settings.allowedKey]
  rw [filedKeys, completedList, Settings.members?]
  simp only [none]

theorem isFiled_map_ofText (keys : List String) (key : String) :
    isFiled (keys.map Json.ofText) key = true ↔ key ∈ keys := by
  rw [isFiled, List.any_map, List.any_eq_true]
  constructor
  · rintro ⟨other, member, same⟩
    have equal : RawText.ofString other = RawText.ofString key := by
      simpa [Json.ofText, Json.same, Json.sameScalar] using same
    rwa [← ofString_injective equal]
  · intro member
    refine ⟨key, member, ?_⟩
    simp [Json.ofText, Json.same, Json.sameScalar]

namespace Ledger

variable {ledger : Ledger}

theorem mem_of_mem_keptEntries {settings entry : Json} (member : entry ∈ ledger.keptEntries settings) :
    entry ∈ ledger.entries := by
  unfold keptEntries at member
  split at member
  · cases member
  · exact member

/-- What holds of the entries of a ledger and of new ones holds of those that are kept beside the new ones. -/
theorem forall_mem_keptEntries_append {holds : Json → Prop} {news : List Json}
    (known : ∀ entry ∈ ledger.entries, holds entry) (new : ∀ entry ∈ news, holds entry) (settings : Json) :
    ∀ entry ∈ ledger.keptEntries settings ++ news, holds entry :=
  List.forall_mem_append.mpr ⟨fun entry kept => known entry (mem_of_mem_keptEntries kept), new⟩

theorem Sound.nodup_keptKeys (sound : ledger.Sound) (settings : Json) :
    (ledger.keptKeys settings).Nodup := by
  unfold keptKeys
  split
  · exact List.nodup_nil
  · exact sound.nodup

theorem checkpointNode_ne_directory (ledger : Ledger) (entries : Entries) :
    ledger.checkpointNode ≠ some (.directory entries) := by
  unfold checkpointNode
  cases ledger.settings with
  | none => rintro ⟨⟩
  | some settings => rintro ⟨⟩

theorem settings_record {settings : Json} {news : List Json} (busy : news ≠ []) :
    (ledger.record settings news).settings = some settings := if_neg busy

theorem completed_record {settings : Json} {news : List Json} (busy : news ≠ []) :
    (ledger.record settings news).completed =
      ledger.keptKeys settings ++ news.filterMap entryKey? := if_neg busy

/-- New entries that are read as they were written, with keys that are new, keep a ledger sound. -/
theorem Sound.record (sound : ledger.Sound) {settings : Json} {news : List Json}
    (plainSettings : news ≠ [] → settings.plain = true ∧ settings.depth = 1)
    (filed : ∀ entry ∈ news, entry.Filed) (keyed : ∀ entry ∈ news, (entryKey? entry).isSome = true)
    (fresh : (ledger.keptKeys settings ++ news.filterMap entryKey?).Nodup) :
    (ledger.record settings news).Sound := by
  have filedAll := forall_mem_keptEntries_append sound.filed filed settings
  have keyedAll := forall_mem_keptEntries_append sound.keyed keyed settings
  by_cases idle : news = []
  · subst idle
    exact ⟨sound.nodup, sound.settled, sound.plainSettings, filedAll, keyedAll⟩
  · obtain ⟨first, rest, news_eq⟩ := List.exists_cons_of_ne_nil idle
    have someKey : news.filterMap entryKey? ≠ [] := by
      obtain ⟨key, isKey⟩ := Option.isSome_iff_exists.mp (keyed first (news_eq ▸ List.mem_cons_self))
      rw [news_eq, List.filterMap_cons_some isKey]
      exact List.cons_ne_nil key _
    refine ⟨?_, ?_, ?_, filedAll, keyedAll⟩
    · rw [completed_record idle]
      exact fresh
    · rw [settings_record idle, completed_record idle]
      constructor
      · rintro ⟨⟩
      · intro empty
        exact absurd (List.append_eq_nil_iff.mp empty).2 someKey
    · rw [settings_record idle]
      rintro _ ⟨⟩
      exact plainSettings idle

/-- What is loaded are the kept keys, unless the settings differ. -/
theorem Stands.loaded {folder : Location} {before : Store} (stands : ledger.Stands folder before)
    (sound : ledger.Sound) {plan : GridPlan} (regular : plan.Regular folder)
    {start ready opened loaded : Session} (extended : before.Extends start.store)
    {writing : Store.WriteMode} {results : Location} {answer : Option Json}
    (same : ready.store = start.store)
    (opening : openFile writing plan.resultsFile ready = .ok results opened)
    (loading : loadCheckpoint plan.checkpointFile plan.signature start = .ok answer loaded) :
    start.store.find? (checkpointAt folder) = ledger.checkpointNode ∧
      resumption answer = (completedList (ledger.keptKeys plan.signature), ledger.mode plan.signature) := by
  have inStart : start.store.find? (checkpointAt folder) = ledger.checkpointNode := by
    rcases extended (checkpointAt folder) with kept | ⟨entries, isDirectory⟩
    · rw [kept, stands.checkpoint]
    · exact absurd isDirectory (regular.checkpoint_noDirectory same opening loading entries)
  refine ⟨inStart, ?_⟩
  cases made : ledger.settings with
  | none =>
      have agrees : ledger.differs plan.signature = false := by
        rw [differs, made]
        rfl
      have absent : start.store.find? (checkpointAt folder) = none := by
        rw [inStart, checkpointNode, made]
        rfl
      rw [loadCheckpoint_absent regular.location?_checkpoint absent loading, keptKeys, Ledger.mode, agrees,
        sound.settled.mp made]
      rfl
  | some settings =>
      have present : start.store.find? (checkpointAt folder) = some (.file
          (checkpointDocument settings (completedList ledger.completed)).writeIndented.toUTF8) := by
        rw [inStart, checkpointNode, made]
        rfl
      obtain ⟨isPlain, shallow⟩ := sound.plainSettings settings made
      have notMissing : placeFound (.here plan.checkpointFile.text) start ≠ .ok false start := by
        intro looked
        rw [regular.checkpoint_absent same opening looked] at present
        cases present
      rw [loadCheckpoint_present regular.location?_checkpoint
        (filed_checkpointDocument isPlain shallow ledger.completed) present notMissing loading]
      have differs_eq : ledger.differs plan.signature = !settings.equal plan.signature := by
        rw [differs, made]
        rfl
      rw [keptKeys, Ledger.mode, differs_eq]
      cases settings.equal plan.signature <;> rfl

/-- A checkpoint that can be looked up is loaded: the completed keys come back, or nothing if the settings
differ. -/
theorem Stands.loadCheckpoint_eq {folder : Location} {before : Store}
    (stands : ledger.Stands folder before) (sound : ledger.Sound) {plan : GridPlan}
    (regular : plan.Regular folder) {session : Session} (extended : before.Extends session.store)
    (allowed : checkPath plan.checkpointFile.text = .ok ())
    (found : session.store.holds (.here plan.checkpointFile.text) = true)
    (noDirectory : session.store.isDirectory (.here plan.checkpointFile.text) = false) :
    loadCheckpoint plan.checkpointFile plan.signature session =
      (if ledger.differs plan.signature then printLine restartNotice >>= fun _ => pure none
        else pure (some (completedList ledger.completed)) : App (Option Json)) session := by
  cases status : session.store.status (.here plan.checkpointFile.text) with
  | error fault =>
      rw [Store.holds, status] at found
      cases found
  | ok node =>
      obtain ⟨location, named, inSession⟩ := Store.status_eq_ok status
      cases regular.location?_checkpoint.symm.trans named
      have inBefore : before.find? (checkpointAt folder) = some node := by
        rcases extended (checkpointAt folder) with kept | ⟨entries, isDirectory⟩
        · rw [← kept, inSession]
        · cases inSession.symm.trans isDirectory
          rw [Store.isDirectory, status] at noDirectory
          cases noDirectory
      rw [stands.checkpoint, checkpointNode] at inBefore
      cases made : ledger.settings with
      | none =>
          rw [made] at inBefore
          cases inBefore
      | some settings =>
          rw [made] at inBefore
          cases inBefore
          obtain ⟨isPlain, shallow⟩ := sound.plainSettings settings made
          rw [loadCheckpoint_of_saved regular.location?_checkpoint
            (filed_checkpointDocument isPlain shallow ledger.completed) inSession allowed status,
            differs, made, Option.any_some]
          cases settings.equal plan.signature <;> rfl

/-- The results are opened with the entries that are kept. -/
theorem Stands.opened {folder : Location} {before : Store} (stands : ledger.Stands folder before)
    {start opened : Session} (extended : before.Extends start.store) {settings : Json} {path : RawText}
    {results : Location}
    (opening : openFile (ledger.mode settings) path start = .ok results opened)
    (atResults : (Place.here path).location? = some (resultsAt folder)) :
    results = resultsAt folder ∧ Store.SameBut (resultsAt folder) start.store opened.store ∧
      opened.store.find? (resultsAt folder) =
        some (.file (Journal.lines (ledger.keptEntries settings)).toUTF8) := by
  obtain ⟨-, isOpened⟩ := openFile_eq_ok opening
  obtain ⟨-, led, sameBut, noDirectory, present⟩ := Store.openForWriting_eq_ok isOpened
  obtain rfl : results = resultsAt folder := Option.some.inj (led.symm.trans atResults)
  refine ⟨rfl, sameBut, ?_⟩
  have inStart : start.store.find? (resultsAt folder) = before.find? (resultsAt folder) := by
    rcases extended (resultsAt folder) with kept | ⟨entries, isDirectory⟩
    · exact kept
    · exact absurd isDirectory (noDirectory entries)
  rw [present, inStart, Ledger.mode, keptEntries]
  cases ledger.differs settings with
  | true => rfl
  | false =>
      rcases stands.results with written | ⟨empty, absent⟩
      · rw [written]
        rfl
      · rw [absent, empty]
        rfl

theorem filterMap_entryKey? (news : List BatchResult) :
    (news.map BatchResult.entry).filterMap entryKey? = news.map BatchResult.key := by
  rw [List.filterMap_map]
  exact congrFun List.filterMap_eq_map news

/-- The keys of results of pending pairs are new, and no two of them are the same. -/
theorem nodup_keys {done : List String} (nodup : done.Nodup) {gridMax : Int} {news : List BatchResult}
    (pending : (news.map BatchResult.pair).Sublist (pendingPairs gridMax (done.map Json.ofText))) :
    (done ++ news.map BatchResult.key).Nodup := by
  have keys : news.map BatchResult.key =
      (news.map BatchResult.pair).map fun pair => pairKey pair.1 pair.2 := by
    rw [List.map_map]
    rfl
  rw [keys]
  refine List.Nodup.append nodup ?_ ?_
  · exact (((nodup_operandGrid gridMax).filter _).sublist pending).map pairKey_injective
  · intro key inDone new
    obtain ⟨pair, member, rfl⟩ := List.mem_map.mp new
    have isPending := (List.mem_filter.mp (pending.subset member)).2
    rw [(isFiled_map_ofText done _).mpr inDone] at isPending
    cases isPending

/-- What a run records of pending pairs keeps the ledger sound. -/
theorem Sound.of_records (sound : ledger.Sound) {plan : GridPlan} {folder : Location}
    (regular : plan.Regular folder) {news : List BatchResult} {before last : GridProgress}
    {begun finished : Session}
    (records : plan.Records (resultsAt folder) (checkpointAt folder) news before last begun finished)
    (pending : (news.map BatchResult.pair).Sublist
      (pendingPairs plan.gridMax ((ledger.keptKeys plan.signature).map Json.ofText))) :
    (ledger.record plan.signature (news.map BatchResult.entry)).Sound := by
  refine sound.record ?_ ?_ ?_ ?_
  · intro someEntry
    have someNews : news ≠ [] := by
      rintro rfl
      exact someEntry rfl
    have writable := (records.saved someNews).1
    simp only [checkpointDocument, Json.writable, Json.writableFields, Bool.and_eq_true] at writable
    exact ⟨regular.plainSettings writable.1, regular.shallow⟩
  · intro entry member
    obtain ⟨result, inNews, rfl⟩ := List.mem_map.mp member
    exact filed_entry (records.writable result inNews)
  · intro entry member
    obtain ⟨result, -, rfl⟩ := List.mem_map.mp member
    rw [entryKey?_entry]
    rfl
  · rw [filterMap_entryKey?]
    exact nodup_keys (sound.nodup_keptKeys plan.signature) pending

/-- A run that begins with the kept keys and entries, beside the old checkpoint, ends with the files of
the next ledger. -/
theorem stands_of_records {plan : GridPlan} {folder : Location} {news : List BatchResult}
    {last : GridProgress} {begun finished : Session}
    (records : plan.Records (resultsAt folder) (checkpointAt folder) news
      { completed := completedList (ledger.keptKeys plan.signature), written := [] } last begun finished)
    (results : begun.store.find? (resultsAt folder) =
      some (.file (Journal.lines (ledger.keptEntries plan.signature)).toUTF8))
    (checkpoint : begun.store.find? (checkpointAt folder) = ledger.checkpointNode) :
    (ledger.record plan.signature (news.map BatchResult.entry)).Stands folder finished.store := by
  constructor
  · left
    rw [records.lines results, Ledger.record, Journal.lines_append]
    rfl
  · by_cases idle : news = []
    · subst idle
      rw [(records.idle rfl).2, checkpoint]
      rfl
    · have someEntry : news.map BatchResult.entry ≠ [] := by
        intro empty
        exact idle (List.map_eq_nil_iff.mp empty)
      have completed : last.completed =
          completedList (ledger.keptKeys plan.signature ++ news.map BatchResult.key) :=
        records.completed rfl
      rw [(records.saved idle).2, completed, checkpointNode, settings_record someEntry,
        completed_record someEntry, filterMap_entryKey?]
      rfl

/-- What a verification does in a folder with a ledger: it begins with the kept keys and the kept entries,
beside the old checkpoint, and works off the batches of the pending pairs. -/
structure WorkedOff (ledger : Ledger) (plan : GridPlan) (folder : Location) (start loaded begun : Session)
    (batches : List (List (Int × Int))) (last : GridProgress) (finished : Session) : Prop where
  pending : plan.pendingBatches start = .ok batches loaded
  cut : plan.batches (pendingPairs plan.gridMax ((ledger.keptKeys plan.signature).map Json.ofText)) =
    .ok batches
  kept : Store.SameBut (resultsAt folder) start.store begun.store
  surroundings : start.SameSurroundings begun
  results : begun.store.find? (resultsAt folder) =
    some (.file (Journal.lines (ledger.keptEntries plan.signature)).toUTF8)
  checkpoint : begun.store.find? (checkpointAt folder) = ledger.checkpointNode
  worksOff : plan.WorksOff folder batches
    { completed := completedList (ledger.keptKeys plan.signature), written := [] } last begun finished

/-- A verification that returns has worked off the batches of the pending pairs and given its verdict. -/
theorem Stands.begun {folder : Location} {before : Store} (stands : ledger.Stands folder before)
    (sound : ledger.Sound) {plan : GridPlan} (regular : plan.Regular folder) {start final : Session}
    (extended : before.Extends start.store) {entries : List Json}
    (verified : plan.verify start = .ok entries final) :
    ∃ loaded begun batches last finished,
      ledger.WorkedOff plan folder start loaded begun batches last finished ∧
        last.Concludes finished final entries := by
  obtain ⟨answer, loaded, done, ready, results, opened, begun, batches, last, finished, loading, filed,
    sameReady, opening, sameBegun, surroundings, cut, running, concludes⟩ := GridPlan.verify_eq_ok verified
  have pending : plan.pendingBatches start = .ok batches loaded :=
    EStateM.bind_eq_ok.mpr ⟨answer, loaded, loading, EStateM.bind_eq_ok.mpr
      ⟨done, loaded, orFail_of_ok filed loaded, orFail_of_ok cut loaded⟩⟩
  obtain ⟨checkpointHere, resumed⟩ := stands.loaded sound regular extended sameReady opening loading
  rw [resumed] at filed opening running
  rw [filedKeys_completedList] at filed
  cases filed
  obtain ⟨rfl, sameBut, resultsHere⟩ := stands.opened (sameReady ▸ extended) opening
    regular.location?_results
  rw [sameReady] at sameBut
  have untouched : opened.store.find? (checkpointAt folder) = ledger.checkpointNode := by
    rw [sameBut.find?_eq (checkpointAt_ne_resultsAt folder), checkpointHere]
    intro entries
    rw [checkpointHere]
    exact ledger.checkpointNode_ne_directory entries
  rw [← sameBegun] at sameBut resultsHere untouched
  have worksOff := GridPlan.worksOff_of_foldlM regular.location?_checkpoint regular.pairs
    (regular.cuts cut).2 resultsHere running
  exact ⟨loaded, begun, batches, last, finished,
    ⟨pending, cut, sameBut, surroundings, resultsHere, untouched, worksOff⟩, concludes⟩

/-- A verification that returns takes the ledger of its folder one step on. -/
theorem Stands.verify {folder : Location} {before : Store} (stands : ledger.Stands folder before)
    (sound : ledger.Sound) {plan : GridPlan} (regular : plan.Regular folder) {start final : Session}
    (extended : before.Extends start.store) {entries : List Json}
    (verified : plan.verify start = .ok entries final) :
    (ledger.record plan.signature entries).Sound ∧
      (ledger.record plan.signature entries).Stands folder final.store := by
  obtain ⟨loaded, begun, batches, last, finished, work, concludes⟩ := stands.begun sound regular extended verified
  -- What the batches record is added to both files.
  have records := work.worksOff.records
  have pending := GridPlan.sublist_pairs regular.pairs begun.patience batches
  rw [(regular.cuts work.cut).1] at pending
  have answered := concludes.answered
  rw [records.written, List.nil_append, map_entry_written] at answered
  rw [answered, concludes.store]
  exact ⟨sound.of_records regular records pending, stands_of_records records work.results work.checkpoint⟩

end Ledger

end TapeMultiplier
