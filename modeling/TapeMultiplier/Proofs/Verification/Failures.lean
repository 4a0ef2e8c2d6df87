/-
Module: TapeMultiplier.Proofs.Verification.Failures
Layer: Proofs
Purpose: What a failure costs.  The kernel evaluates a batch as a whole or not at all, so a pair is listed
  only if every other pair of its batch can be evaluated too; in batches of one pair nothing is lost.
Main exports: GridTask.Manages, GridTask.exists_evaluate_iff, GridCall.LosesBatches,
  GridHistory.exists_losesBatches
-/
import TapeMultiplier.Proofs.Verification.Calls

namespace TapeMultiplier

/-- A task manages a pair if evaluating this pair alone succeeds, given the patience. -/
def GridTask.Manages (task : GridTask) (table : Table) (pair : Int × Int) : Prop :=
  ∃ patience results, task.evaluate table table.dense patience [pair] = .ok results

/-! ### A batch and its pairs -/

section

variable {table : Table} {patience : Nat} {maxSteps tapeSize : Int} {batch : List (Int × Int)}

/-- A pair that the kernel evaluates alone passes the checks of a batch and has a result. -/
theorem evaluateTask_of_boundedBatch {pair : Int × Int} {results : List BatchResult}
    (evaluated : boundedBatch table.dense patience [pair] maxSteps tapeSize = .ok results) :
    0 ≤ tapeSize ∧ checkTasks (some tapeSize) [pair] = .ok () ∧
      ∃ result, evaluateTask table.dense patience maxSteps tapeSize pair = .ok result := by
  obtain ⟨room, done⟩ := boundedBatch_eq_ok.mp evaluated
  obtain ⟨possible, each⟩ := evaluateBatch_eq_ok.mp done
  obtain ⟨-, tapes⟩ := (checkBatch_eq_ok possible).mp room
  obtain ⟨result, single⟩ := exists_forall₂.mp ⟨results, each⟩ pair List.mem_cons_self
  exact ⟨possible, tapes, result, single⟩

/-- Where there is room for the buffers, a batch of pairs that can each be evaluated alone fails only for
want of patience. -/
theorem boundedBatch_eq_error (nonempty : batch ≠ [])
    (buffers : checkBuffers batch.length tapeSize = .ok ())
    (each : ∀ pair ∈ batch, ∃ larger results,
      boundedBatch table.dense larger [pair] maxSteps tapeSize = .ok results)
    {failure : Failure}
    (failed : boundedBatch table.dense patience batch maxSteps tapeSize = .error failure) :
    failure = .unfinished := by
  have alone : ∀ pair ∈ batch, 0 ≤ tapeSize ∧ checkTasks (some tapeSize) [pair] = .ok () ∧
      ∃ larger result, evaluateTask table.dense larger maxSteps tapeSize pair = .ok result := by
    intro pair member
    obtain ⟨larger, results, evaluated⟩ := each pair member
    obtain ⟨possible, tape, single⟩ := evaluateTask_of_boundedBatch evaluated
    exact ⟨possible, tape, larger, single⟩
  obtain ⟨first, member⟩ := List.exists_mem_of_ne_nil batch nonempty
  have possible : 0 ≤ tapeSize := (alone first member).1
  have admitted : ∀ pair ∈ batch, Admitted (some tapeSize) pair := by
    intro pair member
    obtain ⟨-, -, larger, result, single⟩ := alone pair member
    exact admitted_of_evaluateTask possible single
  have tapes := checkTasks_of_singleton admitted fun pair member => (alone pair member).2.1
  have room : checkBatch batch tapeSize = .ok () := (checkBatch_eq_ok possible).mpr ⟨buffers, tapes⟩
  rw [boundedBatch_of_room room] at failed
  cases ran : evaluateBatch table.dense patience batch maxSteps tapeSize with
  | ok results =>
      rw [ran] at failed
      cases failed
  | error error =>
      rw [ran] at failed
      cases failed
      obtain ⟨pair, member, stopped⟩ := evaluateBatch_eq_error possible ran
      obtain ⟨-, -, larger, result, single⟩ := alone pair member
      rw [evaluateTask_eq_error possible single stopped]
      rfl

/-- A batch whose failures spoil no more than the batch is evaluated by the kernel if there is room for
its buffers and each of its pairs can be evaluated alone, and only then. -/
theorem GridTask.exists_evaluate_iff {task : GridTask} (kernel : task.useEngine = false)
    (nonempty : batch ≠ [])
    (spoilt : ∀ failure, task.evaluate table table.dense patience batch = .error failure →
      failure.spoilsBatch = true) :
    (∃ found, task.evaluate table table.dense patience batch = .ok found) ↔
      checkBuffers batch.length task.tapeSize = .ok () ∧ ∀ pair ∈ batch, task.Manages table pair := by
  constructor
  · rintro ⟨found, evaluated⟩
    refine ⟨?_, fun pair member => ?_⟩
    · rw [evaluate, kernel, if_neg Bool.false_ne_true] at evaluated
      obtain ⟨room, -⟩ := boundedBatch_eq_ok.mp evaluated
      obtain ⟨⟨⟩, buffers, -⟩ := Except.bind_eq_ok.mp room
      exact buffers
    · obtain ⟨result, alone⟩ :=
        exists_forall₂.mp ⟨found, GridTask.evaluate_alone evaluated⟩ pair member
      exact ⟨patience, _, alone patience (Nat.le_refl patience)⟩
  · rintro ⟨buffers, managed⟩
    cases evaluated : task.evaluate table table.dense patience batch with
    | ok found => exact ⟨found, rfl⟩
    | error failure =>
        have spoils := spoilt failure evaluated
        simp only [Manages, evaluate, kernel, if_neg Bool.false_ne_true] at managed evaluated
        rw [boundedBatch_eq_error nonempty buffers managed evaluated] at spoils
        cases spoils

/-- One pair that the kernel evaluates alone has room for its buffer. -/
theorem GridTask.Manages.buffers {task : GridTask} (kernel : task.useEngine = false) {pair : Int × Int}
    (managed : task.Manages table pair) : checkBuffers 1 task.tapeSize = .ok () := by
  obtain ⟨enough, results, evaluated⟩ := managed
  have always : ∀ failure, task.evaluate table table.dense enough [pair] = .error failure →
      failure.spoilsBatch = true := by
    intro failure failed
    cases evaluated.symm.trans failed
  exact ((exists_evaluate_iff kernel (List.cons_ne_nil pair []) always).mp ⟨results, evaluated⟩).1

end

/-! ### The pairs of a grid -/

theorem pendingPairs_ledgerOf_nil (gridMax : Int) (settings : Json) :
    pendingPairs gridMax (((ledgerOf []).keptKeys settings).map Json.ofText) = operandGrid gridMax :=
  List.filter_eq_self.mpr fun _ _ => rfl

/-- What a call that uses the kernel comes to in a fresh folder: it cuts its grid into batches, and loses
those that cannot be evaluated as a whole. -/
structure GridCall.LosesBatches (call : GridCall) (folder : Location) (store : Store) (table : Table)
    (batches : List (List (Int × Int))) : Prop where
  loaded : loadProgram call.task.programPath call.session = .ok table call.session
  cut : batchesOf call.task.batchSize (operandGrid call.task.gridMax) = .ok batches
  /-- The results hold the entries of the answer. -/
  recorded : entriesIn? (store.contentAt (resultsAt folder)) = some call.entries
  /-- Every entry is that of a pair of the grid, as the pair alone comes to it. -/
  evaluated : ∀ entry ∈ call.entries, ∃ pair ∈ operandGrid call.task.gridMax, ∃ result,
    call.Evaluated pair result ∧ entry = result.entry
  /-- A pair is listed just if there is room for the buffers of its batch and the task manages each pair
  of the batch. -/
  listed : ∀ batch ∈ batches, ∀ pair ∈ batch, (call.Lists pair ↔
    checkBuffers batch.length call.task.tapeSize = .ok () ∧
      ∀ other ∈ batch, call.task.Manages table other)
  /-- In batches of one pair, every pair is listed that the task manages. -/
  single : call.task.batchSize = 1 → ∀ pair ∈ operandGrid call.task.gridMax,
    (call.Lists pair ↔ call.task.Manages table pair)

/-- A failure costs a call that uses the kernel a batch, not a pair. -/
theorem GridHistory.exists_losesBatches {folder : Location} {call : GridCall} {store : Store}
    (history : GridHistory folder [call] store) (kernel : call.task.useEngine = false) :
    ∃ table batches, call.LosesBatches folder store table batches := by
  obtain ⟨table, batches, answers⟩ := history.exists_answers
  have cut := answers.cut
  rw [pendingPairs_ledgerOf_nil] at cut
  have listed : ∀ batch ∈ batches, ∀ pair ∈ batch, (call.Lists pair ↔
      checkBuffers batch.length call.task.tapeSize = .ok () ∧
        ∀ other ∈ batch, call.task.Manages table other) := by
    intro batch isBatch pair inBatch
    rw [answers.lists_iff isBatch inBatch]
    exact GridTask.exists_evaluate_iff kernel (List.ne_nil_of_mem inBatch) (answers.spoilt batch isBatch)
  refine ⟨table, batches, answers.loaded, cut, history.contentAt_results.2, ?_, listed, ?_⟩
  · intro entry member
    obtain ⟨batch, isBatch, result, -, inBatch, evaluated, rfl⟩ := answers.evaluated_of_entry member
    exact ⟨result.pair, answers.mem_operandGrid_of_mem isBatch inBatch, result, evaluated, rfl⟩
  · intro single pair inGrid
    obtain ⟨batch, isBatch, inBatch⟩ := answers.exists_batch inGrid List.not_mem_nil
    have short := length_le_of_batchesOf answers.positive cut batch isBatch
    have present := List.length_pos_of_mem inBatch
    obtain ⟨other, rfl⟩ : ∃ other, batch = [other] := List.length_eq_one_iff.mp (by omega)
    obtain rfl := List.mem_singleton.mp inBatch
    rw [listed _ isBatch _ inBatch, List.forall_mem_singleton]
    exact and_iff_right_of_imp (GridTask.Manages.buffers kernel)

/-! ### A batch that does not fit -/

/-- A task with buffers that have room for one times one and for no other pair of the grid. -/
def narrowTask (batchSize : Int) : GridTask :=
  { demoTask 2 (-1) with batchSize, tapeSize := 10, useEngine := false }

/-- The task begun in a fresh folder. -/
def narrowCall (batchSize : Int) : GridCall where
  task := narrowTask batchSize
  session := demoSession
  entries := answeredEntries (verifyGrid (narrowTask batchSize) demoSession)

/-- What evaluating it shows, with one batch for the whole grid and with a batch for each pair. -/
theorem evaluated_narrowCall :
    (Place.here (narrowTask 1).folder.text).location? = some demoFolder ∧
      answersWith 0 (verifyGrid (narrowTask 64) demoSession) = true ∧
      answersWith 1 (verifyGrid (narrowTask 1) demoSession) = true ∧
      (narrowCall 1).entries.filterMap entryKey? = [pairKey 1 1] := by
  decide +kernel

theorem history_narrowCall {batchSize : Int} {count : Nat} (positive : 1 ≤ batchSize)
    (answers : answersWith count (verifyGrid (narrowTask batchSize) demoSession) = true) :
    GridHistory demoFolder [narrowCall batchSize] (narrowCall batchSize).final.store := by
  have sameFolder : (narrowTask batchSize).folder = (narrowTask 1).folder := rfl
  have here : (Place.here (narrowCall batchSize).task.folder.text).location? = some demoFolder := by
    rw [narrowCall, sameFolder]
    exact evaluated_narrowCall.1
  have fresh : GridHistory demoFolder [] demoSession.store := .start rfl rfl
  have returned : verifyGrid (narrowCall batchSize).task (narrowCall batchSize).session =
      .ok (narrowCall batchSize).entries (narrowCall batchSize).final := by
    simp only [GridCall.final, narrowCall]
    exact eq_ok_of_answersWith answers
  exact .call fresh rfl rfl here positive returned

/-- One times one is listed when its batch has no other pair, and it is not when the rest of the grid is
in its batch, although it is managed all the same. -/
theorem exists_losesBatches_narrow :
    GridHistory demoFolder [narrowCall 64] (narrowCall 64).final.store ∧
      ((1, 1) : Int × Int) ∈ operandGrid 2 ∧ (narrowCall 1).Lists (1, 1) ∧
      (∃ table, loadProgram (narrowTask 64).programPath demoSession = .ok table demoSession ∧
        (narrowTask 64).Manages table (1, 1)) ∧
      ¬(narrowCall 64).Lists (1, 1) := by
  obtain ⟨-, answersTogether, answersAlone, keys⟩ := evaluated_narrowCall
  have inGrid : ((1, 1) : Int × Int) ∈ operandGrid 2 := by decide
  have listed : (narrowCall 1).Lists (1, 1) := by
    refine List.mem_filterMap.mp ?_
    rw [keys]
    exact List.mem_cons_self
  obtain ⟨table, batches, loses⟩ :=
    GridHistory.exists_losesBatches (history_narrowCall (by decide) answersAlone) rfl
  refine ⟨history_narrowCall (by decide) answersTogether, inGrid, listed,
    ⟨table, loses.loaded, (loses.single rfl (1, 1) inGrid).mp listed⟩, ?_⟩
  rintro ⟨entry, member, -⟩
  have none : (narrowCall 64).entries = [] :=
    List.length_eq_zero_iff.mp (length_answeredEntries answersTogether)
  rw [none] at member
  cases member

end TapeMultiplier
