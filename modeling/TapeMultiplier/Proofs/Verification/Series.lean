/-
Module: TapeMultiplier.Proofs.Verification.Series
Layer: Proofs
Purpose: Verifications of the same program under the same settings, one after the other.  Each call does
  the pairs of its grid that no earlier grid has, in row-major order, so that all calls together do every
  pair up to the largest factor once, in the results as in the log of wrong products.
Main exports: GridCall.Unfailing, Ledger.Covers, GridHistory.answers, Undisturbed, Resumed,
  GridHistory.resumed
-/
import TapeMultiplier.Proofs.Verification.Calls
import TapeMultiplier.Proofs.Verification.Conditions
import TapeMultiplier.Proofs.Verification.Grids

namespace TapeMultiplier

/-! ### Calls that do all they are asked -/

/-- A call in which no batch fails. -/
def GridCall.Unfailing (call : GridCall) : Prop :=
  ∀ table batches after, call.task.pendingBatches call.session = .ok (table, batches) after →
    ∀ batch ∈ batches, ∃ found,
      call.task.evaluate table table.dense call.session.patience batch = .ok found

/-- The entries of all calls, in the order in which they were written; the last call comes first. -/
def writtenEntries : List GridCall → List Json
  | [] => []
  | call :: earlier => writtenEntries earlier ++ call.entries

/-- What a call that leaves a store behind adds to what earlier ones have done: it answers with the results
of the pairs that are in no earlier grid, and logs those that are wrong. -/
structure GridCall.AnswersFresh (conditions : GridConditions) (call : GridCall) (earlier : List GridCall)
    (store : Store) (news : List BatchResult) : Prop where
  each : List.Forall₂ conditions.ResultOf (freshPairs call.task.gridMax earlier) news
  entries : call.entries = news.map BatchResult.entry
  logged : ∀ log, call.session.LogsTo log → store.contentAt log =
    call.session.store.contentAt log ++ (Journal.lines (wrongEntries news)).toUTF8

/-- What the ledger of calls under the same conditions holds: the pairs that are covered. -/
structure Ledger.Covers (ledger : Ledger) (conditions : GridConditions) (calls : List GridCall) :
    Prop where
  settings : ∀ made ∈ ledger.settings, made = conditions.signature
  completed : ledger.completed = (coveredPairs calls).map fun pair => pairKey pair.1 pair.2
  entries : ledger.entries = writtenEntries calls
  each : List.Forall₂ conditions.EntryOf (coveredPairs calls) (writtenEntries calls)

namespace Ledger.Covers

variable {ledger : Ledger} {conditions : GridConditions} {calls : List GridCall}

/-- Settings never differ. -/
theorem agrees (covers : ledger.Covers conditions calls) :
    ¬ledger.differs conditions.signature = true := by
  rw [Ledger.differs]
  cases made : ledger.settings with
  | none => exact Bool.false_ne_true
  | some settings =>
      obtain rfl := covers.settings settings made
      have equal : conditions.signature.equal conditions.signature = true :=
        equal_gridSignature.mpr ⟨rfl, rfl, rfl, fun _ => rfl⟩
      rw [Option.any_some, equal]
      exact Bool.false_ne_true

/-- The pairs that are pending are the fresh ones. -/
theorem pendingPairs_eq (covers : ledger.Covers conditions calls) (gridMax : Int) :
    pendingPairs gridMax ((ledger.keptKeys conditions.signature).map Json.ofText) =
      freshPairs gridMax calls := by
  rw [Ledger.keptKeys, if_neg covers.agrees, covers.completed]
  refine List.filter_congr fun pair _ => congrArg not (Bool.eq_iff_iff.mpr ?_)
  rw [isFiled_map_ofText, List.mem_map_of_injective pairKey_injective, mem_coveredPairs,
    List.any_eq_true]
  simp only [List.contains_iff_mem]

/-- A call that records the results of the fresh pairs covers them too. -/
theorem record (covers : ledger.Covers conditions calls) {call : GridCall} {news : List BatchResult}
    (each : List.Forall₂ conditions.ResultOf (freshPairs call.task.gridMax calls) news)
    (entries : call.entries = news.map BatchResult.entry) :
    (ledger.record conditions.signature call.entries).Covers conditions (call :: calls) where
  settings := by
    intro made member
    by_cases idle : call.entries = []
    · rw [Ledger.record, if_pos idle] at member
      exact covers.settings made member
    · rw [Ledger.settings_record idle] at member
      exact (Option.some.inj member).symm
  completed := by
    rw [(Ledger.keys_record_of_agrees covers.agrees call.entries).2, covers.completed, entries,
      Ledger.filterMap_entryKey?, GridConditions.ResultOf.map_key each, coveredPairs, List.map_append]
  entries := by
    show ledger.keptEntries conditions.signature ++ call.entries = _
    rw [Ledger.keptEntries, if_neg covers.agrees, covers.entries]
    rfl
  each := by
    rw [coveredPairs, writtenEntries, entries]
    exact List.rel_append covers.each (GridConditions.ResultOf.entries each)

end Ledger.Covers

namespace GridHistory

variable {folder : Location} {conditions : GridConditions} {call : GridCall} {earlier : List GridCall}
  {store : Store}

theorem settings_eq (history : GridHistory folder (call :: earlier) store)
    (under : call.Under conditions) : call.settings = conditions.signature := by
  cases history with
  | call _ _ _ _ _ returned =>
      obtain ⟨table, digest, ready, -, digested, -⟩ := verifyGrid_eq_ok returned
      rw [GridCall.settings, GridTask.settingsIn_eq digested, under.signature_eq digested]

/-- A call after others under the same conditions answers with the results of the fresh pairs. -/
theorem answers (history : GridHistory folder (call :: earlier) store)
    (covers : (ledgerOf earlier).Covers conditions earlier) (under : call.Under conditions)
    (unfailing : call.Unfailing) :
    ∃ news, call.AnswersFresh conditions earlier store news := by
  obtain ⟨table, batches, answers⟩ := history.exists_answers
  obtain ⟨after, pending⟩ := answers.pending
  obtain ⟨content, reading⟩ := under.loaded
  have loaded := programTable?_of_loadProgram reading answers.loaded
  have fresh : batches.flatten = freshPairs call.task.gridMax earlier := by
    rw [answers.flatten_eq, history.settings_eq under, covers.pendingPairs_eq]
  have each : List.Forall₂ (fun batch found => List.Forall₂ conditions.ResultOf batch found) batches
      (batches.map (call.foundIn table)) := by
    refine List.forall₂_map_right_iff.mpr (List.forall₂_same.mpr fun batch member => ?_)
    obtain ⟨found, evaluated⟩ := unfailing table batches after pending batch member
    rw [GridCall.foundIn, evaluated]
    exact under.resultOf loaded evaluated
  refine ⟨batches.flatMap (call.foundIn table), ?_, answers.entries, fun log logsTo => ?_⟩
  · rw [← fresh, List.flatMap_def]
    exact List.rel_flatten each
  · rw [history.store_eq_final]
    exact answers.logged log logsTo

theorem covers {calls : List GridCall} (history : GridHistory folder calls store)
    (under : ∀ call ∈ calls, call.Under conditions) (unfailing : ∀ call ∈ calls, call.Unfailing) :
    (ledgerOf calls).Covers conditions calls := by
  induction calls generalizing store with
  | nil => exact ⟨by rintro _ ⟨⟩, rfl, rfl, .nil⟩
  | cons call earlier ih =>
      obtain ⟨start, earlierHistory⟩ := history.before
      obtain ⟨underCall, underEarlier⟩ := List.forall_mem_cons.mp under
      obtain ⟨unfailingCall, unfailingEarlier⟩ := List.forall_mem_cons.mp unfailing
      have coversEarlier := ih earlierHistory underEarlier unfailingEarlier
      obtain ⟨news, each, entries, -⟩ := history.answers coversEarlier underCall unfailingCall
      rw [ledgerOf, history.settings_eq underCall]
      exact coversEarlier.record each entries

/-- The last of the calls answers with the results of the fresh pairs. -/
theorem last_answers (history : GridHistory folder (call :: earlier) store)
    (under : ∀ other ∈ call :: earlier, other.Under conditions)
    (unfailing : ∀ other ∈ call :: earlier, other.Unfailing) :
    ∃ news, call.AnswersFresh conditions earlier store news := by
  obtain ⟨start, earlierHistory⟩ := history.before
  obtain ⟨underCall, underEarlier⟩ := List.forall_mem_cons.mp under
  obtain ⟨unfailingCall, unfailingEarlier⟩ := List.forall_mem_cons.mp unfailing
  exact history.answers (earlierHistory.covers underEarlier unfailingEarlier) underCall unfailingCall

end GridHistory

/-! ### The log of wrong products -/

/-- Whether an entry says that its product is not correct. -/
def isWrong (entry : Json) : Bool :=
  match entry.field? "correct" with
  | some (.bool correct) => !correct
  | _ => false

theorem filter_isWrong (results : List BatchResult) :
    (results.map BatchResult.entry).filter isWrong = wrongEntries results := by
  rw [List.filter_map]
  rfl

/-- The files after some calls that began with a given store; the last call comes first. -/
def storeAfter (initial : Store) : List GridCall → Store
  | [] => initial
  | call :: _ => call.final.store

/-- Whether a file has the same content after a call and before the next one. -/
def Undisturbed (log : Location) (initial : Store) : List GridCall → Prop
  | [] => True
  | call :: earlier =>
      call.session.store.contentAt log = (storeAfter initial earlier).contentAt log ∧
        Undisturbed log initial earlier

theorem GridHistory.storeAfter_eq {folder : Location} {call : GridCall} {earlier : List GridCall}
    {store : Store} (history : GridHistory folder (call :: earlier) store) (initial : Store) :
    storeAfter initial (call :: earlier) = store :=
  history.store_eq_final.symm

/-- The calls together add their wrong entries to the log. -/
theorem GridHistory.contentAt_log {folder : Location} {conditions : GridConditions}
    {calls : List GridCall} {store : Store} (history : GridHistory folder calls store)
    (under : ∀ call ∈ calls, call.Under conditions) (unfailing : ∀ call ∈ calls, call.Unfailing)
    {log : Location} (logsTo : ∀ call ∈ calls, call.session.LogsTo log) {initial : Store}
    (undisturbed : Undisturbed log initial calls) :
    (storeAfter initial calls).contentAt log = initial.contentAt log ++
      (Journal.lines ((writtenEntries calls).filter isWrong)).toUTF8 := by
  induction calls generalizing store with
  | nil => exact ByteArray.append_empty.symm
  | cons call earlier ih =>
      obtain ⟨news, -, entries, logged⟩ := history.last_answers under unfailing
      obtain ⟨start, earlierHistory⟩ := history.before
      obtain ⟨sameLog, undisturbedEarlier⟩ := undisturbed
      obtain ⟨logsCall, logsEarlier⟩ := List.forall_mem_cons.mp logsTo
      have earlierLog := ih earlierHistory (List.forall_mem_cons.mp under).2
        (List.forall_mem_cons.mp unfailing).2 logsEarlier undisturbedEarlier
      rw [history.storeAfter_eq, logged log logsCall, sameLog, earlierLog,
        writtenEntries, List.filter_append, entries, filter_isWrong, Journal.lines_append,
        ByteArray.append_assoc]
      rfl

/-! ### Resuming -/

/-- What calls under the same conditions come to: nothing is lost and nothing is done twice.  The last
call comes first. -/
structure Resumed (conditions : GridConditions) (folder : Location) (calls : List GridCall)
    (store : Store) : Prop where
  /-- A call answers with the entries of the pairs of its grid that are in no earlier one, row by row. -/
  answers : ∀ later call earlier, calls = later ++ call :: earlier →
    List.Forall₂ conditions.EntryOf (freshPairs call.task.gridMax earlier) call.entries
  /-- A call whose grid is within an earlier one answers with nothing. -/
  repeated : ∀ later call earlier, calls = later ++ call :: earlier →
    ∀ other ∈ earlier, call.task.gridMax ≤ other.task.gridMax → call.entries = []
  /-- The results hold one line for each pair up to the largest factor. -/
  results : store.contentAt (resultsAt folder) = (Journal.lines (writtenEntries calls)).toUTF8 ∧
    entriesIn? (store.contentAt (resultsAt folder)) = some (writtenEntries calls) ∧
    ∃ pairs, List.Forall₂ conditions.EntryOf pairs (writtenEntries calls) ∧ pairs.Nodup ∧
      ∀ a b, (a, b) ∈ pairs ↔
        (1 ≤ a ∧ a ≤ largestFactor calls) ∧ 1 ≤ b ∧ b ≤ largestFactor calls
  /-- If all calls log to the same file, they add to it the entries that are not correct, each once and
  in the order in which they were written. -/
  logged : ∀ initial log, (∀ call ∈ calls, call.session.LogsTo log) → Undisturbed log initial calls →
    (storeAfter initial calls).contentAt log =
      initial.contentAt log ++ (Journal.lines ((writtenEntries calls).filter isWrong)).toUTF8

namespace GridHistory

variable {folder : Location} {conditions : GridConditions} {calls : List GridCall} {store : Store}

/-- Calls for the same program and with the same settings, none of whose batches fails, lose and repeat
nothing, whatever their grids and the sizes of their batches. -/
theorem resumed (history : GridHistory folder calls store)
    (under : ∀ call ∈ calls, call.Under conditions) (unfailing : ∀ call ∈ calls, call.Unfailing) :
    Resumed conditions folder calls store := by
  have answers : ∀ later call earlier, calls = later ++ call :: earlier →
      List.Forall₂ conditions.EntryOf (freshPairs call.task.gridMax earlier) call.entries := by
    rintro later call earlier rfl
    obtain ⟨start, callHistory⟩ := history.of_append
    obtain ⟨news, each, entries, -⟩ := callHistory.last_answers
      (List.forall_mem_append.mp under).2 (List.forall_mem_append.mp unfailing).2
    rw [entries]
    exact GridConditions.ResultOf.entries each
  have covers := history.covers under unfailing
  obtain ⟨content, isRead⟩ := history.contentAt_results
  rw [covers.entries] at content isRead
  refine ⟨answers, ?_, ⟨content, isRead, ?_⟩, ?_⟩
  · intro later call earlier split other member within
    have each := answers later call earlier split
    rw [freshPairs_eq_nil member within] at each
    exact List.forall₂_nil_left_iff.mp each
  · exact ⟨coveredPairs calls, covers.each, nodup_coveredPairs calls, fun a b => mem_coveredPairs_iff⟩
  · exact fun initial log logsTo undisturbed => history.contentAt_log under unfailing logsTo undisturbed

end GridHistory

/-! ### Two calls with a log -/

/-- Whether all batches that a call has pending can be evaluated. -/
def evaluatesAll (call : GridCall) :
    EStateM.Result Failure Session (Table × List (List (Int × Int))) → Bool
  | .ok (table, batches) _ => batches.all fun batch =>
      (call.task.evaluate table table.dense call.session.patience batch).isOk
  | .error .. => true

theorem unfailing_of_evaluatesAll {call : GridCall}
    (evaluates : evaluatesAll call (call.task.pendingBatches call.session) = true) :
    call.Unfailing := by
  intro table batches after pending batch member
  rw [pending] at evaluates
  have evaluated := List.all_eq_true.mp evaluates batch member
  revert evaluated
  cases call.task.evaluate table table.dense call.session.patience batch with
  | ok found => exact fun _ => ⟨found, rfl⟩
  | error failure => rintro ⟨⟩

/-- The program of the demonstration, without limits. -/
def demoConditions : GridConditions where
  program := "1".toUTF8
  maxSteps := -1
  tapeSize := 512
  useEngine := true

/-- A session in which there is that program and a log. -/
def loggingSession : Session :=
  { demoSession with
    store := { demoSession.store with
      working := (FileName.ofText "logs", .directory []) :: demoSession.store.working }
    journal := some { directory := "logs", stem := "run_", today := "" } }

/-- A call that verifies a grid in batches of two. -/
def loggingCall (gridMax : Int) (session : Session) : GridCall where
  task := { demoTask gridMax (-1) with batchSize := 2 }
  session
  entries := answeredEntries (verifyGrid { demoTask gridMax (-1) with batchSize := 2 } session)

/-- The call that verifies the pair of ones. -/
def onesCall : GridCall :=
  loggingCall 1 loggingSession

/-- The call that goes on up to two. -/
def resumedCall : GridCall :=
  loggingCall 2 onesCall.final

/-- The session of that call when it looks for the checkpoint. -/
def resumedSession : Session :=
  leftBehind (resumedCall.task.digest resumedCall.session)

/-- What that call then does. -/
def resumedPlan : GridPlan :=
  resumedCall.task.plan ⟨[]⟩ (Digest.sha256 demoConditions.program.toList)

/-- The log of wrong products. -/
def demoLog : Location :=
  { anchor := .working, trail := [FileName.ofText "mismatch_0-00-00.jsonl", FileName.ofText "logs"] }

/-- Whether a call reads that program, when it loads it and when it takes the digest. -/
def readsDemo (call : GridCall) : Bool :=
  readsBytes demoConditions.program (programContent call.task.programPath call.session) &&
    readsBytes demoConditions.program
      ((makePath call.task.folder >>= fun _ => programContent call.task.programPath) call.session)

theorem under_loggingCall {gridMax : Int} {session : Session}
    (reads : readsDemo (loggingCall gridMax session) = true) :
    (loggingCall gridMax session).Under demoConditions where
  maxSteps := rfl
  tapeSize := rfl
  useEngine := rfl
  loaded := ⟨_, eq_ok_of_readsBytes (Bool.and_eq_true_iff.mp reads).1⟩
  digested := ⟨_, eq_ok_of_readsBytes (Bool.and_eq_true_iff.mp reads).2⟩

/-- What evaluating the first call shows. -/
theorem evaluated_onesCall :
    readsDemo onesCall = true ∧
      evaluatesAll onesCall (onesCall.task.pendingBatches onesCall.session) = true ∧
      answersWith 1 (verifyGrid onesCall.task onesCall.session) = true ∧
      (Place.here onesCall.task.folder.text).location? = some demoFolder ∧
      ((coveredPairs [onesCall]).map fun pair => pairKey pair.1 pair.2) = ["1x1"] := by
  decide +kernel

/-- What evaluating the second call shows, up to the checkpoint that it reads. -/
theorem evaluated_resumedCall :
    readsDemo resumedCall = true ∧
      loadsTable ⟨[]⟩ (loadProgram resumedCall.task.programPath resumedCall.session) = true ∧
      checkPath resumedPlan.checkpointFile.text = .ok () ∧
      resumedSession.store.holds (.here resumedPlan.checkpointFile.text) = true ∧
      resumedSession.store.isDirectory (.here resumedPlan.checkpointFile.text) = false ∧
      resumedCall.session.journal.map Journal.directory = some "logs" ∧
      resumedCall.session.clock = onesCall.session.clock ∧
      (Place.here (joinNames "logs" (mismatchName onesCall.session.clock.fileDate))).location? =
        some demoLog := by
  decide +kernel

theorem under_onesCall : onesCall.Under demoConditions :=
  under_loggingCall evaluated_onesCall.1

theorem under_resumedCall : resumedCall.Under demoConditions :=
  under_loggingCall evaluated_resumedCall.1

theorem unfailing_onesCall : onesCall.Unfailing :=
  unfailing_of_evaluatesAll evaluated_onesCall.2.1

theorem history_onesCall : GridHistory demoFolder [onesCall] onesCall.final.store := by
  obtain ⟨-, -, answers, here, -⟩ := evaluated_onesCall
  exact .call (.start rfl rfl) rfl rfl here (by decide) (eq_ok_of_answersWith answers)

theorem digest_resumedCall : resumedCall.task.digest resumedCall.session =
    .ok (Digest.sha256 demoConditions.program.toList) resumedSession := by
  obtain ⟨ready, digested⟩ := under_resumedCall.exists_digest
  rw [resumedSession, digested]
  rfl

/-- The second call finds the checkpoint of the first. -/
theorem loadCheckpoint_resumedCall :
    loadCheckpoint resumedPlan.checkpointFile resumedPlan.signature resumedSession =
      .ok (some (completedList ["1x1"])) resumedSession := by
  obtain ⟨-, -, -, here, keys⟩ := evaluated_onesCall
  obtain ⟨-, -, allowed, found, noDirectory, -⟩ := evaluated_resumedCall
  -- What the checkpoint holds is known from the first call; its text need not be read.
  obtain ⟨sound, stands⟩ := history_onesCall.stands
  have covers : (ledgerOf [onesCall]).Covers demoConditions [onesCall] :=
    history_onesCall.covers (List.forall_mem_singleton.mpr under_onesCall)
      (List.forall_mem_singleton.mpr unfailing_onesCall)
  have regular : resumedPlan.Regular demoFolder :=
    resumedCall.task.regular_plan (by decide) here _ _
  have extended := extends_of_makePath (GridTask.digest_eq_ok digest_resumedCall).1
  rw [stands.loadCheckpoint_eq sound regular extended allowed found noDirectory, covers.completed, keys]
  exact congrFun (if_neg covers.agrees) resumedSession

/-- What evaluating the second call shows after that. -/
theorem evaluated_afterCheckpoint :
    evaluatesAll resumedCall (resumedCall.task.pendingBatches resumedCall.session) = true ∧
      answersWith 3 (verifyGrid resumedCall.task resumedCall.session) = true := by
  have program := loadProgram_of_loadsTable evaluated_resumedCall.2.1
  constructor
  · rw [GridTask.pendingBatches, EStateM.bind_of_ok program, EStateM.bind_of_ok digest_resumedCall]
    show evaluatesAll resumedCall ((resumedPlan.pendingBatches >>= fun batches => pure (⟨[]⟩, batches))
      resumedSession) = true
    rw [GridPlan.pendingBatches, bind_assoc, EStateM.bind_of_ok loadCheckpoint_resumedCall]
    decide +kernel
  · rw [verifyGrid_eq program digest_resumedCall]
    show answersWith 3 (resumedPlan.verify resumedSession) = true
    rw [GridPlan.verify, EStateM.bind_of_ok loadCheckpoint_resumedCall]
    decide +kernel

theorem history_resumedCall :
    GridHistory demoFolder [resumedCall, onesCall] resumedCall.final.store :=
  .call history_onesCall rfl rfl evaluated_onesCall.2.2.2.1 (by decide)
    (eq_ok_of_answersWith evaluated_afterCheckpoint.2)

theorem logsTo_demoLog : ∀ call ∈ [resumedCall, onesCall], call.session.LogsTo demoLog := by
  obtain ⟨-, -, -, -, -, inUse, sameClock, led⟩ := evaluated_resumedCall
  refine List.forall_mem_cons.mpr ⟨⟨"logs", inUse, ?_⟩, List.forall_mem_singleton.mpr ⟨"logs", rfl, led⟩⟩
  rw [sameClock]
  exact led

/-- A call up to two after a call for the pair of ones answers with the other three pairs, and both log
what is wrong. -/
theorem resumed_twoCalls :
    GridHistory demoFolder [resumedCall, onesCall] resumedCall.final.store ∧
      (∀ call ∈ [resumedCall, onesCall], call.Under demoConditions) ∧
      (∀ call ∈ [resumedCall, onesCall], call.Unfailing) ∧
      List.Forall₂ demoConditions.EntryOf [(1, 2), (2, 1), (2, 2)] resumedCall.entries ∧
      resumedCall.final.store.contentAt demoLog =
        (Journal.lines ((writtenEntries [resumedCall, onesCall]).filter isWrong)).toUTF8 := by
  have under : ∀ call ∈ [resumedCall, onesCall], call.Under demoConditions :=
    List.forall_mem_cons.mpr ⟨under_resumedCall, List.forall_mem_singleton.mpr under_onesCall⟩
  have unfailing : ∀ call ∈ [resumedCall, onesCall], call.Unfailing :=
    List.forall_mem_cons.mpr ⟨unfailing_of_evaluatesAll evaluated_afterCheckpoint.1,
      List.forall_mem_singleton.mpr unfailing_onesCall⟩
  have resumed := GridHistory.resumed history_resumedCall under unfailing
  have answers := resumed.answers [] resumedCall [onesCall] rfl
  have fresh : freshPairs resumedCall.task.gridMax [onesCall] = [(1, 2), (2, 1), (2, 2)] := by
    decide +kernel
  have undisturbed : Undisturbed demoLog loggingSession.store [resumedCall, onesCall] :=
    ⟨rfl, rfl, trivial⟩
  have logged := resumed.logged loggingSession.store demoLog logsTo_demoLog undisturbed
  have empty : loggingSession.store.contentAt demoLog = ByteArray.empty := rfl
  rw [history_resumedCall.storeAfter_eq, empty, ByteArray.empty_append] at logged
  exact ⟨history_resumedCall, under, unfailing, fresh ▸ answers, logged⟩

end TapeMultiplier
