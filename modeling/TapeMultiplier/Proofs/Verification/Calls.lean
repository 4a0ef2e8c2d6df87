/-
Module: TapeMultiplier.Proofs.Verification.Calls
Layer: Proofs
Purpose: What one call of a history answers.  It evaluates the batches of the pairs that earlier calls
  left pending, each batch as a whole or not at all, and every entry of its answer is that of a pair which
  comes to it alone as well.
Main exports: GridTask.pendingBatches, GridCall.final, GridCall.Evaluated, GridCall.Lists,
  GridCall.Answers, GridHistory.exists_answers, GridHistory.contentAt_results, GridCall.Answers.lists_iff
-/
import Mathlib.Data.List.Pairwise
import TapeMultiplier.Proofs.Verification.Alone
import TapeMultiplier.Proofs.Verification.History

namespace TapeMultiplier

/-- The table of a task's program and the batches that the task evaluates. -/
def GridTask.pendingBatches (task : GridTask) : App (Table × List (List (Int × Int))) := do
  let table ← loadProgram task.programPath
  let digest ← task.digest
  let batches ← (task.plan table digest).pendingBatches
  return (table, batches)

namespace GridCall

/-- The session after a call. -/
def final (call : GridCall) : Session :=
  leftBehind (verifyGrid call.task call.session)

/-- The results of a batch in a call; none if it cannot be evaluated. -/
def foundIn (call : GridCall) (table : Table) (batch : List (Int × Int)) : List BatchResult :=
  resultsOf (call.task.evaluate table table.dense call.session.patience batch)

/-- A call has evaluated a pair with a result: the program that it loads comes to the result for this pair
alone, and the call answers with its entry. -/
structure Evaluated (call : GridCall) (pair : Int × Int) (result : BatchResult) : Prop where
  about : result.pair = pair
  alone : ∃ table, loadProgram call.task.programPath call.session = .ok table call.session ∧
    ∀ patience, call.session.patience ≤ patience →
      call.task.evaluate table table.dense patience [pair] = .ok [result]
  entry : result.entry ∈ call.entries

/-- A call lists a pair if its answer has an entry of the pair. -/
def Lists (call : GridCall) (pair : Int × Int) : Prop :=
  ∃ entry ∈ call.entries, entryKey? entry = some (pairKey pair.1 pair.2)

/-- What a call answers after earlier ones, when it loads a table and has some batches pending. -/
structure Answers (call : GridCall) (earlier : List GridCall) (table : Table)
    (batches : List (List (Int × Int))) : Prop where
  positive : 1 ≤ call.task.batchSize
  loaded : loadProgram call.task.programPath call.session = .ok table call.session
  pending : ∃ after, call.task.pendingBatches call.session = .ok (table, batches) after
  /-- The batches are those of the pairs that are in the grid and not completed. -/
  cut : batchesOf call.task.batchSize (pendingPairs call.task.gridMax
    (((ledgerOf earlier).keptKeys call.settings).map Json.ofText)) = .ok batches
  entries : call.entries = (batches.flatMap (call.foundIn table)).map BatchResult.entry
  /-- The last thing that is printed is a verdict on the results. -/
  told : ∃ before, call.final.transcript =
    .text (verdict ((batches.flatMap (call.foundIn table)).map BatchResult.written) ++ "\n") :: before
  /-- A batch that cannot be evaluated spoils no other. -/
  spoilt : ∀ batch ∈ batches, ∀ failure,
    call.task.evaluate table table.dense call.session.patience batch = .error failure →
      failure.spoilsBatch = true
  logged : ∀ log, call.session.LogsTo log → call.final.store.contentAt log =
    call.session.store.contentAt log ++
      (Journal.lines (wrongEntries (batches.flatMap (call.foundIn table)))).toUTF8

end GridCall

namespace GridHistory

variable {folder : Location} {call : GridCall} {earlier calls : List GridCall} {store : Store}

theorem before (history : GridHistory folder (call :: earlier) store) :
    ∃ start, GridHistory folder earlier start := by
  cases history with
  | call earlierHistory => exact ⟨_, earlierHistory⟩

theorem of_append {later : List GridCall} (history : GridHistory folder (later ++ earlier) store) :
    ∃ start, GridHistory folder earlier start := by
  induction later generalizing store with
  | nil => exact ⟨store, history⟩
  | cons call rest ih =>
      obtain ⟨start, earlierHistory⟩ := before history
      exact ih earlierHistory

theorem store_eq_final (history : GridHistory folder (call :: earlier) store) :
    store = call.final.store := by
  cases history with
  | call _ _ _ _ _ returned =>
      rw [GridCall.final, returned]
      rfl

/-- The results hold the entries of the ledger, line by line. -/
theorem contentAt_results (history : GridHistory folder calls store) :
    store.contentAt (resultsAt folder) = (Journal.lines (ledgerOf calls).entries).toUTF8 ∧
      entriesIn? (store.contentAt (resultsAt folder)) = some (ledgerOf calls).entries := by
  obtain ⟨sound, stands⟩ := history.stands
  have content : store.contentAt (resultsAt folder) =
      (Journal.lines (ledgerOf calls).entries).toUTF8 := by
    rcases stands.results with written | ⟨empty, absent⟩
    · exact Store.contentAt_of_find? written
    · rw [Store.contentAt, absent, empty]
      rfl
  refine ⟨content, ?_⟩
  rw [content]
  exact entriesIn?_lines sound.filed

/-- The last call of a history answers. -/
theorem exists_answers (history : GridHistory folder (call :: earlier) store) :
    ∃ table batches, call.Answers earlier table batches := by
  cases history with
  | @call _ _ _ final earlierHistory sameResults sameCheckpoint here positive returned =>
      obtain ⟨sound, stood⟩ := earlierHistory.stands
      obtain ⟨table, digest, ready, loading, digested, verified⟩ := verifyGrid_eq_ok returned
      have making := (GridTask.digest_eq_ok digested).1
      obtain ⟨loaded, begun, batches, last, finished, work, concludes⟩ :=
        (stood.of_same sameResults sameCheckpoint).begun sound
          (call.task.regular_plan positive here table digest) (extends_of_makePath making) verified
      -- The session in which the batches are worked off has the patience and the log of the first one.
      have made : call.session.SameSurroundings ready := (steady_makePath _).of_ok making
      have same := made.trans work.surroundings
      obtain ⟨records, logged, spoilt⟩ := work.worksOff
      have settings : call.settings = call.task.signature digest := GridTask.settingsIn_eq digested
      have ended : call.final = final := by
        rw [GridCall.final, returned]
        rfl
      have written := records.written
      rw [List.nil_append, same.patience] at written
      rw [same.patience] at logged spoilt
      refine ⟨table, batches, positive, loading, ⟨loaded, ?_⟩, ?_, ?_, ⟨finished.transcript, ?_⟩, spoilt,
        ?_⟩
      · exact EStateM.bind_eq_ok.mpr ⟨table, _, loading, EStateM.bind_eq_ok.mpr ⟨digest, ready, digested,
          EStateM.bind_eq_ok.mpr ⟨batches, loaded, work.pending, rfl⟩⟩⟩
      · rw [settings]
        exact work.cut
      · rw [concludes.answered, written, map_entry_written]
        rfl
      · rw [ended, concludes.told, written]
        rfl
      · intro log logsTo
        rw [ended, concludes.store, logged log (logsTo.of_sameSurroundings same),
          work.kept.contentAt_eq (logsTo.ne_resultsAt folder), contentAt_of_makePath making]
        rfl

end GridHistory

/-! ### Pairs of an answer -/

/-- Results with the same key are those of the same pair. -/
theorem BatchResult.pair_eq_of_key {result : BatchResult} {pair : Int × Int}
    (keyed : entryKey? result.entry = some (pairKey pair.1 pair.2)) : result.pair = pair := by
  rw [entryKey?_entry] at keyed
  exact pairKey_injective (Option.some.inj keyed)

namespace GridCall.Answers

variable {call : GridCall} {earlier : List GridCall} {table : Table} {batches : List (List (Int × Int))}
  {batch : List (Int × Int)}

theorem flatten_eq (answers : call.Answers earlier table batches) :
    batches.flatten = pendingPairs call.task.gridMax
      (((ledgerOf earlier).keptKeys call.settings).map Json.ofText) :=
  (batchesOf_eq_ok answers.positive answers.cut).1

theorem mem_operandGrid_of_mem (answers : call.Answers earlier table batches) (member : batch ∈ batches)
    {pair : Int × Int} (inBatch : pair ∈ batch) : pair ∈ operandGrid call.task.gridMax := by
  have pending : pair ∈ batches.flatten := List.mem_flatten.mpr ⟨batch, member, inBatch⟩
  rw [answers.flatten_eq] at pending
  exact List.mem_of_mem_filter pending

/-- A pair of the grid whose key is not kept is in a batch. -/
theorem exists_batch (answers : call.Answers earlier table batches) {pair : Int × Int}
    (inGrid : pair ∈ operandGrid call.task.gridMax)
    (fresh : pairKey pair.1 pair.2 ∉ (ledgerOf earlier).keptKeys call.settings) :
    ∃ batch ∈ batches, pair ∈ batch := by
  refine List.mem_flatten.mp ?_
  rw [answers.flatten_eq]
  refine List.mem_filter.mpr ⟨inGrid, ?_⟩
  rw [Bool.not_eq_true', ← Bool.not_eq_true, isFiled_map_ofText]
  exact fresh

/-- No two batches have a pair in common. -/
theorem eq_of_mem_of_mem (answers : call.Answers earlier table batches) (member : batch ∈ batches)
    {other : List (Int × Int)} (otherMember : other ∈ batches) {pair : Int × Int}
    (inBatch : pair ∈ batch) (inOther : pair ∈ other) : batch = other := by
  have nodup : batches.flatten.Nodup := by
    rw [answers.flatten_eq]
    exact (nodup_operandGrid call.task.gridMax).filter _
  have symmetric : Std.Symm (List.Disjoint : List (Int × Int) → List (Int × Int) → Prop) :=
    ⟨fun _ _ => List.disjoint_symm⟩
  by_contra apart
  exact (List.nodup_flatten.mp nodup).2.forall member otherMember apart inBatch inOther

theorem mem_entries_iff (answers : call.Answers earlier table batches) {entry : Json} :
    entry ∈ call.entries ↔
      ∃ batch ∈ batches, ∃ result ∈ call.foundIn table batch, result.entry = entry := by
  rw [answers.entries, List.mem_map]
  constructor
  · rintro ⟨result, found, rfl⟩
    obtain ⟨batch, member, inBatch⟩ := List.mem_flatMap.mp found
    exact ⟨batch, member, result, inBatch, rfl⟩
  · rintro ⟨batch, member, result, inBatch, rfl⟩
    exact ⟨result, List.mem_flatMap.mpr ⟨batch, member, inBatch⟩, rfl⟩

/-- A result of a batch is that of one of its pairs, and of this pair alone. -/
theorem evaluated_of_mem (answers : call.Answers earlier table batches) (member : batch ∈ batches)
    {result : BatchResult} (found : result ∈ call.foundIn table batch) :
    result.pair ∈ batch ∧ call.Evaluated result.pair result := by
  have evaluated := eq_ok_of_mem_resultsOf found
  have inBatch : result.pair ∈ batch := by
    rw [← GridTask.evaluate_pairs evaluated]
    exact List.mem_map_of_mem found
  obtain ⟨pair, alone⟩ :=
    exists_forall₂.mp ⟨batch, (GridTask.evaluate_alone evaluated).flip⟩ result found
  obtain rfl : result.pair = pair :=
    (List.cons.inj (GridTask.evaluate_pairs (alone _ (Nat.le_refl _)))).1
  exact ⟨inBatch, rfl, ⟨table, answers.loaded, alone⟩,
    answers.mem_entries_iff.mpr ⟨batch, member, result, found, rfl⟩⟩

/-- Every pair of a batch that could be evaluated has a result. -/
theorem exists_evaluated (answers : call.Answers earlier table batches) (member : batch ∈ batches)
    {found : List BatchResult}
    (evaluated : call.task.evaluate table table.dense call.session.patience batch = .ok found)
    {pair : Int × Int} (inBatch : pair ∈ batch) :
    ∃ result ∈ call.foundIn table batch, call.Evaluated pair result := by
  have results : call.foundIn table batch = found := by
    rw [foundIn, evaluated]
    rfl
  rw [← GridTask.evaluate_pairs evaluated, ← results] at inBatch
  obtain ⟨result, isFound, rfl⟩ := List.mem_map.mp inBatch
  exact ⟨result, isFound, (answers.evaluated_of_mem member isFound).2⟩

/-- An entry of an answer is that of a pair which the call has evaluated. -/
theorem evaluated_of_entry (answers : call.Answers earlier table batches) {entry : Json}
    (member : entry ∈ call.entries) :
    ∃ batch ∈ batches, ∃ result ∈ call.foundIn table batch, result.pair ∈ batch ∧
      call.Evaluated result.pair result ∧ entry = result.entry := by
  obtain ⟨batch, isBatch, result, found, rfl⟩ := answers.mem_entries_iff.mp member
  obtain ⟨inBatch, evaluated⟩ := answers.evaluated_of_mem isBatch found
  exact ⟨batch, isBatch, result, found, inBatch, evaluated, rfl⟩

/-- A pair is listed if it is in a batch that could be evaluated, and only then. -/
theorem lists_iff_exists (answers : call.Answers earlier table batches) {pair : Int × Int} :
    call.Lists pair ↔ ∃ batch ∈ batches, pair ∈ batch ∧
      ∃ found, call.task.evaluate table table.dense call.session.patience batch = .ok found := by
  constructor
  · rintro ⟨entry, member, keyed⟩
    obtain ⟨batch, isBatch, result, found, inBatch, -, rfl⟩ := answers.evaluated_of_entry member
    obtain rfl := BatchResult.pair_eq_of_key keyed
    exact ⟨batch, isBatch, inBatch, _, eq_ok_of_mem_resultsOf found⟩
  · rintro ⟨batch, isBatch, inBatch, found, evaluated⟩
    obtain ⟨result, -, isResult⟩ := answers.exists_evaluated isBatch evaluated inBatch
    refine ⟨result.entry, isResult.entry, ?_⟩
    rw [entryKey?_entry, ← isResult.about]
    rfl

/-- A pair of a batch is listed if the batch could be evaluated, and only then. -/
theorem lists_iff (answers : call.Answers earlier table batches) (member : batch ∈ batches)
    {pair : Int × Int} (inBatch : pair ∈ batch) :
    call.Lists pair ↔
      ∃ found, call.task.evaluate table table.dense call.session.patience batch = .ok found := by
  rw [answers.lists_iff_exists]
  constructor
  · rintro ⟨other, isOther, inOther, evaluated⟩
    obtain rfl := answers.eq_of_mem_of_mem member isOther inBatch inOther
    exact evaluated
  · intro evaluated
    exact ⟨batch, member, inBatch, evaluated⟩

end GridCall.Answers

end TapeMultiplier
