/-
Module: TapeMultiplier.Proofs.Verification.History
Layer: Proofs
Purpose: Verifications in the same folder, one after the other.  Whatever the calls, every result line is
  marked as completed; the converse holds exactly as long as a call that starts over also records
  something.
Main exports: GridCall, GridHistory, inStep, GridHistory.stands, GridHistory.results_eq_completed_iff
-/
import TapeMultiplier.Proofs.Verification.Ledger

namespace TapeMultiplier

/-- A verification that returns: what it is asked, where it is begun, and what it answers. -/
structure GridCall where
  task : GridTask
  session : Session
  entries : List Json

/-- The settings of a call. -/
def GridCall.settings (call : GridCall) : Json :=
  call.task.settingsIn call.session

/-- The settings of the last call that recorded something; the last call comes first. -/
def madeUnder : List GridCall → Option Json
  | [] => none
  | call :: earlier => if call.entries = [] then madeUnder earlier else some call.settings

/-- Whether a call finds that what was recorded before was recorded under other settings. -/
def startsOver (call : GridCall) (earlier : List GridCall) : Bool :=
  (madeUnder earlier).any fun made => !made.equal call.settings

/-- Whether the last call that started over recorded something, if there was one. -/
def inStep : List GridCall → Bool
  | [] => true
  | call :: earlier => if startsOver call earlier then !call.entries.isEmpty else inStep earlier

/-- Calls in a folder that begins without results and checkpoint.  Between two calls anything may change
but these two files. -/
inductive GridHistory (folder : Location) : List GridCall → Store → Prop where
  | start {store : Store} (noResults : store.find? (resultsAt folder) = none)
      (noCheckpoint : store.find? (checkpointAt folder) = none) : GridHistory folder [] store
  | call {calls : List GridCall} {store : Store} {call : GridCall} {final : Session}
      (earlier : GridHistory folder calls store)
      (sameResults : call.session.store.find? (resultsAt folder) = store.find? (resultsAt folder))
      (sameCheckpoint : call.session.store.find? (checkpointAt folder) =
        store.find? (checkpointAt folder))
      (here : (Place.here call.task.folder.text).location? = some folder)
      (positive : 1 ≤ call.task.batchSize)
      (returned : verifyGrid call.task call.session = .ok call.entries final) :
      GridHistory folder (call :: calls) final.store

/-- Keys that are read from a file; there are none if there is no file. -/
def keysIn? (read : ByteArray → Option (List String)) : Option Node → Option (List String)
  | none => some []
  | some (.file content) => read content
  | some (.directory _) => none

/-- The keys of the lines of a folder's results. -/
def Store.resultKeys? (store : Store) (folder : Location) : Option (List String) :=
  keysIn? resultKeysIn? (store.find? (resultsAt folder))

/-- The keys that a folder's checkpoint marks as completed. -/
def Store.completedKeys? (store : Store) (folder : Location) : Option (List String) :=
  keysIn? completedKeysIn? (store.find? (checkpointAt folder))

/-! ### The ledger of a history -/

/-- The ledger that calls leave behind. -/
def ledgerOf : List GridCall → Ledger
  | [] => { settings := none, completed := [], entries := [] }
  | call :: earlier => (ledgerOf earlier).record call.settings call.entries

theorem settings_ledgerOf (calls : List GridCall) : (ledgerOf calls).settings = madeUnder calls := by
  induction calls with
  | nil => rfl
  | cons call earlier ih =>
      rw [madeUnder, ← ih]
      rfl

theorem differs_ledgerOf (call : GridCall) (earlier : List GridCall) :
    (ledgerOf earlier).differs call.settings = startsOver call earlier := by
  rw [Ledger.differs, settings_ledgerOf, startsOver]

namespace Ledger

variable {ledger : Ledger}

/-- The keys of the entries. -/
def keys (ledger : Ledger) : List String :=
  ledger.entries.filterMap entryKey?

theorem sound_empty : (ledgerOf []).Sound where
  nodup := List.nodup_nil
  settled := ⟨fun _ => rfl, fun _ => rfl⟩
  plainSettings := by
    rintro _ ⟨⟩
  filed := by
    rintro _ ⟨⟩
  keyed := by
    rintro _ ⟨⟩

/-- Where results start over, only the new keys are in them; without any, the old keys stay in the
checkpoint, and there are some. -/
theorem Sound.keys_record_of_differs (sound : ledger.Sound) {settings : Json}
    (differs : ledger.differs settings = true) (news : List Json) :
    (ledger.record settings news).keys <:+ (ledger.record settings news).completed ∧
      ((ledger.record settings news).keys = (ledger.record settings news).completed ↔ news ≠ []) := by
  have recorded : (ledger.record settings news).keys = news.filterMap entryKey? := by
    rw [keys, Ledger.record, keptEntries, if_pos differs]
    rfl
  by_cases idle : news = []
  · have done : (ledger.record settings news).completed = ledger.completed := if_pos idle
    have someCompleted : ledger.completed ≠ [] := by
      intro empty
      rw [Ledger.differs, sound.settled.mpr empty] at differs
      cases differs
    rw [done, recorded, idle]
    exact ⟨List.nil_suffix, fun empty => absurd empty.symm someCompleted, fun busy => absurd rfl busy⟩
  · have done : (ledger.record settings news).completed = news.filterMap entryKey? := by
      rw [completed_record idle, keptKeys, if_pos differs]
      rfl
    rw [done, recorded]
    exact ⟨List.suffix_refl _, fun _ => idle, fun _ => rfl⟩

/-- Where results go on, both lists of keys go on with the same keys. -/
theorem keys_record_of_agrees {settings : Json} (agrees : ¬ledger.differs settings = true)
    (news : List Json) :
    (ledger.record settings news).keys = ledger.keys ++ news.filterMap entryKey? ∧
      (ledger.record settings news).completed = ledger.completed ++ news.filterMap entryKey? := by
  constructor
  · rw [keys, record, keptEntries, if_neg agrees, List.filterMap_append]
    rfl
  · by_cases idle : news = []
    · subst idle
      exact (List.append_nil _).symm
    · rw [completed_record idle, keptKeys, if_neg agrees]

/-- One verification keeps the keys of the entries at the end of the completed keys.  They are all of them
afterwards if it starts over and records something, or if they were before and it goes on. -/
theorem Sound.keys_record (sound : ledger.Sound) (suffix : ledger.keys <:+ ledger.completed)
    (settings : Json) (news : List Json) :
    (ledger.record settings news).keys <:+ (ledger.record settings news).completed ∧
      ((ledger.record settings news).keys = (ledger.record settings news).completed ↔
        if ledger.differs settings then news ≠ [] else ledger.keys = ledger.completed) := by
  by_cases differs : ledger.differs settings = true
  · rw [if_pos differs]
    exact sound.keys_record_of_differs differs news
  · obtain ⟨recorded, done⟩ := keys_record_of_agrees differs news
    rw [if_neg differs, recorded, done]
    obtain ⟨front, whole⟩ := suffix
    refine ⟨⟨front, ?_⟩, List.append_left_inj _⟩
    rw [← List.append_assoc, whole]

theorem mapM_eq_some_filterMap {α β : Type} {read : α → Option β} {items : List α}
    (readable : ∀ item ∈ items, (read item).isSome = true) :
    items.mapM read = some (items.filterMap read) := by
  induction items with
  | nil => rfl
  | cons item rest ih =>
      obtain ⟨found, isRead⟩ := Option.isSome_iff_exists.mp (readable item List.mem_cons_self)
      rw [List.mapM_cons, isRead, ih fun other member => readable other (List.mem_cons_of_mem item member),
        List.filterMap_cons_some isRead]
      rfl

theorem Stands.of_same {folder : Location} {store other : Store} (stands : ledger.Stands folder store)
    (sameResults : other.find? (resultsAt folder) = store.find? (resultsAt folder))
    (sameCheckpoint : other.find? (checkpointAt folder) = store.find? (checkpointAt folder)) :
    ledger.Stands folder other where
  results := by
    rw [sameResults]
    exact stands.results
  checkpoint := by
    rw [sameCheckpoint]
    exact stands.checkpoint

/-- The keys of the entries are read from the results. -/
theorem Stands.resultKeys? {folder : Location} {store : Store} (stands : ledger.Stands folder store)
    (sound : ledger.Sound) : store.resultKeys? folder = some ledger.keys := by
  rw [Store.resultKeys?, keys]
  rcases stands.results with written | ⟨empty, absent⟩
  · rw [written, keysIn?, resultKeysIn?, entriesIn?_lines sound.filed]
    exact mapM_eq_some_filterMap sound.keyed
  · rw [absent, empty]
    rfl

/-- The completed keys are read from the checkpoint. -/
theorem Stands.completedKeys? {folder : Location} {store : Store} (stands : ledger.Stands folder store)
    (sound : ledger.Sound) : store.completedKeys? folder = some ledger.completed := by
  rw [Store.completedKeys?, stands.checkpoint, checkpointNode]
  cases made : ledger.settings with
  | none =>
      rw [sound.settled.mp made]
      rfl
  | some settings =>
      obtain ⟨isPlain, shallow⟩ := sound.plainSettings settings made
      exact completedKeysIn?_writeIndented (filed_checkpointDocument isPlain shallow ledger.completed)

end Ledger

namespace GridHistory

variable {folder : Location} {calls : List GridCall} {store : Store}

/-- What the files hold after a history is its ledger. -/
theorem stands (history : GridHistory folder calls store) :
    (ledgerOf calls).Sound ∧ (ledgerOf calls).Stands folder store := by
  induction history with
  | start noResults noCheckpoint => exact ⟨Ledger.sound_empty, Or.inr ⟨rfl, noResults⟩, noCheckpoint⟩
  | @call calls store call final earlier sameResults sameCheckpoint here positive returned ih =>
      obtain ⟨sound, stood⟩ := ih
      obtain ⟨table, digest, ready, -, digested, verified⟩ := verifyGrid_eq_ok returned
      have extended := extends_of_makePath (GridTask.digest_eq_ok digested).1
      have standsNow := stood.of_same sameResults sameCheckpoint
      have step := standsNow.verify sound (call.task.regular_plan positive here table digest) extended
        verified
      rw [ledgerOf, GridCall.settings, GridTask.settingsIn_eq digested]
      exact step

/-- The keys of the entries are the last of the completed keys, and all of them if the last call that
started over recorded something. -/
theorem keys_ledgerOf (history : GridHistory folder calls store) :
    (ledgerOf calls).keys <:+ (ledgerOf calls).completed ∧
      ((ledgerOf calls).keys = (ledgerOf calls).completed ↔ inStep calls = true) := by
  induction history with
  | start => exact ⟨List.suffix_refl [], fun _ => rfl, fun _ => rfl⟩
  | @call calls store call final earlier sameResults sameCheckpoint here positive returned ih =>
      obtain ⟨suffix, agree⟩ := ih
      obtain ⟨suffixNow, agreeNow⟩ := earlier.stands.1.keys_record suffix call.settings call.entries
      refine ⟨suffixNow, agreeNow.trans ?_⟩
      rw [differs_ledgerOf, inStep]
      split
      · simp
      · exact agree

/-- After every history of verifications in a folder, the keys in the results and in the checkpoint can be
read, no pair is completed twice, and the keys in the results are the last of the completed ones.  They
are all of them just if the last call that started over recorded something. -/
theorem results_eq_completed_iff (history : GridHistory folder calls store) :
    ∃ results completed, store.resultKeys? folder = some results ∧
      store.completedKeys? folder = some completed ∧ completed.Nodup ∧ results <:+ completed ∧
      (results = completed ↔ inStep calls = true) := by
  obtain ⟨sound, stands⟩ := history.stands
  obtain ⟨suffix, agree⟩ := history.keys_ledgerOf
  exact ⟨(ledgerOf calls).keys, (ledgerOf calls).completed, stands.resultKeys? sound,
    stands.completedKeys? sound, sound.nodup, suffix, agree⟩

end GridHistory

/-! ### A history that falls out of step -/

/-- What a verification answers; nothing if it fails. -/
def answeredEntries : EStateM.Result Failure Session (List Json) → List Json
  | .ok entries _ => entries
  | .error _ _ => []

/-- Whether a verification answers with a number of entries. -/
def answersWith (count : Nat) : EStateM.Result Failure Session (List Json) → Bool
  | .ok entries _ => entries.length == count
  | .error _ _ => false

theorem eq_ok_of_answersWith {count : Nat} {outcome : EStateM.Result Failure Session (List Json)}
    (answers : answersWith count outcome = true) :
    outcome = .ok (answeredEntries outcome) (leftBehind outcome) := by
  cases outcome with
  | ok entries final => rfl
  | error failure final => cases answers

theorem length_answeredEntries {count : Nat} {outcome : EStateM.Result Failure Session (List Json)}
    (answers : answersWith count outcome = true) : (answeredEntries outcome).length = count := by
  cases outcome with
  | ok entries final => exact beq_iff_eq.mp answers
  | error failure final => cases answers

theorem eq_nil_of_answersWith {outcome : EStateM.Result Failure Session (List Json)}
    (answers : answersWith 0 outcome = true) : outcome = .ok [] (leftBehind outcome) := by
  cases outcome with
  | ok entries final =>
      obtain rfl : entries = [] := List.length_eq_zero_iff.mp (beq_iff_eq.mp answers)
      rfl
  | error failure final => cases answers

/-- Whether a command reads given bytes. -/
def readsBytes (bytes : ByteArray) : EStateM.Result Failure Session ByteArray → Bool
  | .ok content _ => content.data = bytes.data
  | .error .. => false

theorem eq_ok_of_readsBytes {bytes : ByteArray} {outcome : EStateM.Result Failure Session ByteArray}
    (reads : readsBytes bytes outcome = true) : outcome = .ok bytes (leftBehind outcome) := by
  cases outcome with
  | ok content final =>
      obtain rfl : content = bytes := ByteArray.ext (of_decide_eq_true reads)
      rfl
  | error failure final => cases reads

/-- Whether a command loads a given table. -/
def loadsTable (table : Table) : EStateM.Result Failure Session Table → Bool
  | .ok loaded _ => loaded = table
  | .error .. => false

theorem loadProgram_of_loadsTable {path : RawText} {session : Session} {table : Table}
    (loads : loadsTable table (loadProgram path session) = true) :
    loadProgram path session = .ok table session := by
  cases outcome : loadProgram path session with
  | ok loaded final =>
      rw [outcome] at loads
      obtain rfl : loaded = table := of_decide_eq_true loads
      rw [(reads_loadProgram path).eq_of_ok outcome]
  | error failure final =>
      rw [outcome] at loads
      cases loads

/-- A task for a program without transitions. -/
def demoTask (gridMax maxSteps : Int) : GridTask :=
  { GridTask.standard "p.tm" with gridMax, maxSteps, resultsRoot := "r", useEngine := true }

/-- A session in which there is nothing but that program. -/
def demoSession : Session where
  store := { working := [(FileName.ofText "p.tm", .file "1".toUTF8)], installed := [], system := [] }
  installRoot := ""
  clock := default
  elapsed := .whole 0
  input := []
  transcript := []
  progress := none
  journal := none
  patience := 100

/-- The folder of the results of that program. -/
def demoFolder : Location :=
  { anchor := .working, trail := [FileName.ofText "p", FileName.ofText "r"] }

/-- What comes of verifying the pair of ones. -/
def demoOutcome : EStateM.Result Failure Session (List Json) :=
  verifyGrid (demoTask 1 (-1)) demoSession

/-- What then comes of verifying no pair, with a step limit. -/
def demoOutcomeLimited : EStateM.Result Failure Session (List Json) :=
  verifyGrid (demoTask 0 5) (leftBehind demoOutcome)

/-- The two calls, the last one first. -/
def demoCalls : List GridCall :=
  [{ task := demoTask 0 5, session := leftBehind demoOutcome, entries := [] },
   { task := demoTask 1 (-1), session := demoSession, entries := answeredEntries demoOutcome }]

/-- The digest of that program. -/
def demoDigest : String :=
  Digest.sha256 "1".toUTF8.toList

/-- The session of the second call when it looks for the checkpoint. -/
def demoReady : Session :=
  leftBehind ((makePath (demoTask 0 5).folder >>= fun _ => programContent (demoTask 0 5).programPath)
    (leftBehind demoOutcome))

/-- What evaluating the two calls shows, up to the checkpoint that the second one reads. -/
theorem evaluated_demoCalls :
    answersWith 1 demoOutcome = true ∧
      readsBytes "1".toUTF8 ((makePath (demoTask 1 (-1)).folder >>= fun _ =>
        programContent (demoTask 1 (-1)).programPath) demoSession) = true ∧
      readsBytes "1".toUTF8 ((makePath (demoTask 0 5).folder >>= fun _ =>
        programContent (demoTask 0 5).programPath) (leftBehind demoOutcome)) = true ∧
      loadsTable ⟨[]⟩ (loadProgram (demoTask 0 5).programPath (leftBehind demoOutcome)) = true ∧
      (Place.here (demoTask 0 5).folder.text).location? = some demoFolder := by
  decide +kernel

theorem demoHistory_begun : GridHistory demoFolder demoCalls.tail (leftBehind demoOutcome).store := by
  obtain ⟨answers, -, -, -, here⟩ := evaluated_demoCalls
  exact .call (.start rfl rfl) rfl rfl here (by decide) (eq_ok_of_answersWith answers)

theorem digest_demoTask :
    ∃ ready, (demoTask 1 (-1)).digest demoSession = .ok demoDigest ready := by
  obtain ⟨-, reads, -⟩ := evaluated_demoCalls
  exact ⟨_, GridTask.digest_of_content (eq_ok_of_readsBytes reads)⟩

theorem digest_demoTaskLimited :
    (demoTask 0 5).digest (leftBehind demoOutcome) = .ok demoDigest demoReady := by
  obtain ⟨-, -, reads, -⟩ := evaluated_demoCalls
  exact GridTask.digest_of_content (eq_ok_of_readsBytes reads)

/-- The second call finds a checkpoint with another step limit. -/
theorem differs_demoCalls :
    (ledgerOf demoCalls.tail).differs ((demoTask 0 5).signature demoDigest) = true := by
  have busy : answeredEntries demoOutcome ≠ [] := by
    intro idle
    have counted := length_answeredEntries evaluated_demoCalls.1
    rw [idle] at counted
    cases counted
  obtain ⟨ready, digested⟩ := digest_demoTask
  have settings : (ledgerOf demoCalls.tail).settings = some ((demoTask 1 (-1)).signature demoDigest) := by
    rw [settings_ledgerOf, ← GridTask.settingsIn_eq digested]
    exact if_neg busy
  have unequal : ¬((demoTask 1 (-1)).signature demoDigest).equal ((demoTask 0 5).signature demoDigest) =
      true := by
    intro equal
    exact absurd (equal_gridSignature.mp equal).2.1 (by decide)
  rw [Ledger.differs, settings, Option.any_some, Bool.not_eq_true']
  exact Bool.eq_false_iff.mpr unequal

theorem answersWith_demoOutcomeLimited : answersWith 0 demoOutcomeLimited = true := by
  obtain ⟨-, -, -, reads, here⟩ := evaluated_demoCalls
  obtain ⟨sound, stands⟩ := demoHistory_begun.stands
  have regular : ((demoTask 0 5).plan ⟨[]⟩ demoDigest).Regular demoFolder :=
    GridTask.regular_plan (by decide) here _ _
  have extended := extends_of_makePath (GridTask.digest_eq_ok digest_demoTaskLimited).1
  -- What the checkpoint holds is known from the first call; its text need not be read.
  have loaded : loadCheckpoint ((demoTask 0 5).plan ⟨[]⟩ demoDigest).checkpointFile
      ((demoTask 0 5).plan ⟨[]⟩ demoDigest).signature demoReady =
        .ok none (leftBehind (printLine restartNotice demoReady)) := by
    rw [stands.loadCheckpoint_eq sound regular extended (by decide +kernel) (by decide +kernel)
      (by decide +kernel)]
    exact congrFun (if_pos differs_demoCalls) demoReady
  rw [demoOutcomeLimited, verifyGrid_eq (loadProgram_of_loadsTable reads) digest_demoTaskLimited,
    GridPlan.verify, EStateM.bind_of_ok loaded]
  decide +kernel

theorem demoHistory : GridHistory demoFolder demoCalls (leftBehind demoOutcomeLimited).store :=
  .call demoHistory_begun rfl rfl evaluated_demoCalls.2.2.2.2 (by decide)
    (eq_nil_of_answersWith answersWith_demoOutcomeLimited)

/-- A call that starts over and records nothing leaves the old checkpoint beside empty results. -/
theorem results_ne_completed_demo :
    GridHistory demoFolder demoCalls (leftBehind demoOutcomeLimited).store ∧
      ∃ results completed,
        (leftBehind demoOutcomeLimited).store.resultKeys? demoFolder = some results ∧
        (leftBehind demoOutcomeLimited).store.completedKeys? demoFolder = some completed ∧
        results ≠ completed := by
  refine ⟨demoHistory, ?_⟩
  obtain ⟨results, completed, isResults, isCompleted, -, -, agree⟩ :=
    GridHistory.results_eq_completed_iff demoHistory
  -- The second call finds other settings and has no pair to verify.
  have outOfStep : inStep demoCalls = false := by decide +kernel
  refine ⟨results, completed, isResults, isCompleted, fun same => ?_⟩
  rw [agree.mp same] at outOfStep
  cases outOfStep

end TapeMultiplier
