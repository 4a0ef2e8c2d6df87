/-
Module: TapeMultiplier.Proofs.Verification.Batches
Layer: Proofs
Purpose: What a verification records.  One batch is recorded in both files or in neither, and so are all
  batches together.
Main exports: GridPlan.Records, GridPlan.verifyBatch_eq_ok, GridPlan.foundIn, GridPlan.WorksOff,
  GridPlan.worksOff_of_foldlM
-/
import Mathlib.Data.List.TakeWhile
import TapeMultiplier.Proofs.Verification.Mismatches
import TapeMultiplier.Proofs.Verification.Pairs

namespace TapeMultiplier

/-! ### Recording -/

theorem writeEntries_eq_ok {results : Location} {entries : List Json} {start final : Session}
    (wrote : writeEntries results entries start = .ok () final) :
    (∀ entry ∈ entries, entry.writable = true) ∧
      final.store = start.store.append results (Journal.lines entries).toUTF8 := by
  obtain ⟨⟨⟩, middle, written, rest⟩ := EStateM.bind_eq_ok.mp wrote
  split at rest
  · cases rest
  · next all =>
    rw [Bool.not_eq_true, Bool.not_eq_false', List.all_eq_true] at all
    cases rest
    refine ⟨all, ?_⟩
    rw [writeText_eq_ok written, List.takeWhile_eq_self_iff.mpr all]

/-- The key of the pair that a result is about. -/
def BatchResult.key (result : BatchResult) : String :=
  pairKey result.a result.b

/-- The line of a result, with its verdict. -/
def BatchResult.written (result : BatchResult) : WrittenEntry :=
  { entry := result.entry, correct := result.correct }

@[simp]
theorem map_entry_written (results : List BatchResult) :
    (results.map BatchResult.written).map (·.entry) = results.map BatchResult.entry := by
  rw [List.map_map]
  rfl

theorem steady_writeEntries (results : Location) (entries : List Json) :
    (writeEntries results entries).Steady := by
  refine App.steady_bind (steady_writeText _ _) fun _ => ?_
  split
  · exact (App.reads_throw _).steady
  · exact (App.reads_pure _).steady

theorem steady_advanceProgress (count : Nat) : (advanceProgress count).Steady :=
  fun _ => ⟨rfl, rfl, rfl⟩

/-- The results of an evaluation; none if it failed. -/
def resultsOf : Except Failure (List BatchResult) → List BatchResult
  | .ok found => found
  | .error _ => []

/-- There is a result only if the evaluation succeeded. -/
theorem eq_ok_of_mem_resultsOf {evaluated : Except Failure (List BatchResult)} {result : BatchResult}
    (member : result ∈ resultsOf evaluated) : evaluated = .ok (resultsOf evaluated) := by
  cases evaluated with
  | error failure => cases member
  | ok found => rfl

/-- The entries of the results that are not correct. -/
def wrongEntries (results : List BatchResult) : List Json :=
  (results.filter fun result => !result.correct).map BatchResult.entry

namespace GridPlan

/-- What happens while results are recorded: their lines are added, and if there are any, a checkpoint
is saved in which their keys are added too. -/
structure Records (plan : GridPlan) (results checkpoint : Location) (news : List BatchResult)
    (before after : GridProgress) (start final : Session) : Prop where
  written : after.written = before.written ++ news.map BatchResult.written
  completed : ∀ {keys}, before.completed = completedList keys →
    after.completed = completedList (keys ++ news.map BatchResult.key)
  lines : ∀ {content}, start.store.find? results = some (.file content) →
    final.store.find? results =
      some (.file (content ++ (Journal.lines (news.map BatchResult.entry)).toUTF8))
  writable : ∀ result ∈ news, result.entry.writable = true
  idle : news = [] → after = before ∧ final.store = start.store
  saved : news ≠ [] → (checkpointDocument plan.signature after.completed).writable = true ∧
    final.store.find? checkpoint =
      some (.file (checkpointDocument plan.signature after.completed).writeIndented.toUTF8)

namespace Records

variable {plan : GridPlan} {results checkpoint : Location}

theorem nothing {state : GridProgress} {start final : Session} (same : final.store = start.store) :
    plan.Records results checkpoint [] state state start final where
  written := (List.append_nil _).symm
  completed := by
    intro keys started
    rw [started, List.map_nil, List.append_nil]
  lines := by
    intro content present
    rw [same, present]
    show _ = some (Node.file (content ++ ByteArray.empty))
    rw [ByteArray.append_empty]
  writable := fun result member => by cases member
  idle := fun _ => ⟨rfl, same⟩
  saved := fun nonempty => absurd rfl nonempty

theorem trans {news more : List BatchResult} {before between after : GridProgress}
    {start middle final : Session} (one : plan.Records results checkpoint news before between start middle)
    (two : plan.Records results checkpoint more between after middle final) :
    plan.Records results checkpoint (news ++ more) before after start final where
  written := by rw [two.written, one.written, List.map_append, List.append_assoc]
  completed := by
    intro keys started
    rw [two.completed (one.completed started), List.map_append, List.append_assoc]
  lines := by
    intro content present
    rw [two.lines (one.lines present), List.map_append, Journal.lines_append, ByteArray.append_assoc]
    rfl
  writable := by
    intro result member
    rcases List.mem_append.mp member with inNews | inMore
    · exact one.writable result inNews
    · exact two.writable result inMore
  idle := by
    intro empty
    obtain ⟨noNews, noMore⟩ := List.append_eq_nil_iff.mp empty
    obtain ⟨sameState, sameStore⟩ := two.idle noMore
    rw [sameState, sameStore]
    exact one.idle noNews
  saved := by
    intro nonempty
    by_cases noMore : more = []
    · obtain ⟨sameState, sameStore⟩ := two.idle noMore
      rw [sameState, sameStore]
      refine one.saved fun noNews => nonempty ?_
      rw [noNews, noMore]
      rfl
    · exact two.saved noMore

end Records

theorem extendCompleted_eq_ok {completed extended : Json} {keys : List String}
    (extending : extendCompleted completed keys = .ok extended) {before : List String}
    (started : completed = completedList before) : extended = completedList (before ++ keys) := by
  subst started
  cases extending
  rw [completedList, List.map_append]

/-- The end of the work on a batch: its keys are added and the checkpoint is saved. -/
theorem completeBatch_eq_ok {plan : GridPlan} {found : List BatchResult} {state next : GridProgress}
    {count : Nat} {start final : Session}
    (ended : (do
      let completed ← orFail Failure.checkpoint (extendCompleted state.completed
        (found.map fun result => pairKey result.a result.b))
      saveCheckpoint completed plan.checkpointFile plan.signature
      advanceProgress count
      return { completed, written := state.written ++ found.map fun result =>
        { entry := result.entry, correct := result.correct } } : App GridProgress) start =
        .ok next final) :
    ∃ saved, extendCompleted state.completed (found.map BatchResult.key) = .ok next.completed ∧
      saveCheckpoint next.completed plan.checkpointFile plan.signature start = .ok () saved ∧
      final.store = saved.store ∧
      next.written = state.written ++ found.map BatchResult.written := by
  obtain ⟨completed, extended, extending, rest⟩ := EStateM.bind_eq_ok.mp ended
  obtain ⟨isExtended, rfl⟩ := orFail_eq_ok extending
  obtain ⟨⟨⟩, saved, saving, advancing⟩ := EStateM.bind_eq_ok.mp rest
  cases advancing
  exact ⟨saved, isExtended, saving, rfl, rfl⟩

/-- A batch that can be evaluated has its lines written, its wrong results logged, and then its checkpoint
saved. -/
theorem verifyBatch_eq_ok {plan : GridPlan} {results : Location} {batch : List (Int × Int)}
    {state next : GridProgress} {start final : Session} {found : List BatchResult}
    (evaluated : plan.evaluate start.patience batch = .ok found)
    (verified : plan.verifyBatch results state batch start = .ok next final) :
    ∃ written logged saved, writeEntries results (found.map BatchResult.entry) start = .ok () written ∧
      LogsWrong (wrongEntries found) written logged ∧
      extendCompleted state.completed (found.map BatchResult.key) = .ok next.completed ∧
      saveCheckpoint next.completed plan.checkpointFile plan.signature logged = .ok () saved ∧
      final.store = saved.store ∧
      next.written = state.written ++ found.map BatchResult.written := by
  obtain ⟨session, middle, got, rest⟩ := EStateM.bind_eq_ok.mp verified
  cases got
  simp only [evaluated] at rest
  obtain ⟨⟨⟩, written, writing, logging⟩ := EStateM.bind_eq_ok.mp rest
  rw [List.map_map] at writing
  obtain ⟨_, same, gotToo, saving⟩ := EStateM.bind_eq_ok.mp logging
  cases gotToo
  have wrong : ((found.map fun result => ({ entry := result.entry, correct := result.correct } :
      WrittenEntry)).filter fun entry => !entry.correct).map (·.entry) = wrongEntries found := by
    rw [List.filter_map, List.map_map]
    rfl
  rw [← List.isEmpty_map, wrong] at saving
  split at saving
  · next busy =>
    rw [Bool.and_eq_true, Bool.not_eq_true', List.isEmpty_eq_false_iff] at busy
    obtain ⟨⟨⟩, rotated, rotating, more⟩ := EStateM.bind_eq_ok.mp saving
    obtain ⟨⟨⟩, logged, logs, ending⟩ := EStateM.bind_eq_ok.mp more
    obtain ⟨saved, ended⟩ := completeBatch_eq_ok ending
    exact ⟨written, logged, saved, writing, Or.inl ⟨busy.1, rotated, rotating, logs⟩, ended⟩
  · next quiet =>
    obtain ⟨saved, ended⟩ := completeBatch_eq_ok saving
    refine ⟨written, written, saved, writing, Or.inr ⟨?_, rfl⟩, ended⟩
    rw [Bool.and_eq_true, not_and_or, Bool.not_eq_true', Bool.not_eq_false, List.isEmpty_iff,
      Option.not_isSome_iff_eq_none] at quiet
    exact quiet

theorem steady_completeBatch (plan : GridPlan) (state : GridProgress) (keys : List String)
    (entries : List WrittenEntry) (count : Nat) :
    (do
      let completed ← orFail Failure.checkpoint (extendCompleted state.completed keys)
      saveCheckpoint completed plan.checkpointFile plan.signature
      advanceProgress count
      return { completed, written := state.written ++ entries } : App GridProgress).Steady := by
  refine App.steady_bind (App.reads_orFail _ _).steady fun completed => ?_
  refine App.steady_bind (steady_saveCheckpoint _ _ _) fun _ => ?_
  exact App.steady_bind (steady_advanceProgress _) fun _ => (App.reads_pure _).steady

/-- Work on a batch keeps the surroundings. -/
theorem steady_verifyBatch (plan : GridPlan) (results : Location) (state : GridProgress)
    (batch : List (Int × Int)) : (plan.verifyBatch results state batch).Steady := by
  refine App.steady_bind App.reads_get.steady fun session => ?_
  split
  · split
    · exact (App.reads_throw _).steady
    · refine App.steady_bind (steady_print _) fun _ => ?_
      exact App.steady_bind (steady_advanceProgress _) fun _ => (App.reads_pure _).steady
  · refine App.steady_bind (steady_writeEntries _ _) fun _ => ?_
    refine App.steady_bind App.reads_get.steady fun session => ?_
    split
    · refine App.steady_bind steady_rotateJournal fun _ => ?_
      exact App.steady_bind (steady_logMismatches _) fun _ => steady_completeBatch _ _ _ _ _
    · exact steady_completeBatch _ _ _ _ _

/-- A batch that can be evaluated is recorded with all its results. -/
theorem records_of_evaluated {plan : GridPlan} {folder : Location}
    (located : (Place.here plan.checkpointFile.text).location? = some (checkpointAt folder))
    {batch : List (Int × Int)} {state next : GridProgress} {start final : Session}
    {found : List BatchResult} (nonempty : found ≠ [])
    (evaluated : plan.evaluate start.patience batch = .ok found) {content : ByteArray}
    (present : start.store.find? (resultsAt folder) = some (.file content))
    (verified : plan.verifyBatch (resultsAt folder) state batch start = .ok next final) :
    plan.Records (resultsAt folder) (checkpointAt folder) found state next start final := by
  obtain ⟨written, logged, saved, writing, logs, extended, saving, sameStore, entries⟩ :=
    verifyBatch_eq_ok evaluated verified
  obtain ⟨writable, appended⟩ := writeEntries_eq_ok writing
  obtain ⟨hasText, location, named, inFile, kept⟩ := saveCheckpoint_eq_ok saving
  obtain rfl : checkpointAt folder = location := Option.some.inj (located.symm.trans named)
  have added : written.store.find? (resultsAt folder) =
      some (.file (content ++ (Journal.lines (found.map BatchResult.entry)).toUTF8)) := by
    rw [appended]
    exact Store.find?_append_self present _
  refine ⟨entries, extendCompleted_eq_ok extended, ?_, ?_, fun empty => absurd empty nonempty, ?_⟩
  · intro before presentToo
    obtain rfl : content = before := by
      rw [present] at presentToo
      exact Node.file.inj (Option.some.inj presentToo)
    rw [sameStore]
    exact kept.file_eq (checkpointAt_ne_resultsAt folder).symm (logs.keeps added)
  · exact fun result member => writable _ (List.mem_map_of_mem member)
  · rw [sameStore]
    exact fun _ => ⟨hasText, inFile⟩

/-- A batch that can be evaluated has its wrong results logged. -/
theorem contentAt_of_evaluated {plan : GridPlan} {folder : Location}
    (located : (Place.here plan.checkpointFile.text).location? = some (checkpointAt folder))
    {batch : List (Int × Int)} {state next : GridProgress} {start final : Session}
    {found : List BatchResult} (evaluated : plan.evaluate start.patience batch = .ok found)
    {content : ByteArray} (present : start.store.find? (resultsAt folder) = some (.file content))
    (verified : plan.verifyBatch (resultsAt folder) state batch start = .ok next final)
    {log : Location} (logsTo : start.LogsTo log) :
    final.store.contentAt log =
      start.store.contentAt log ++ (Journal.lines (wrongEntries found)).toUTF8 := by
  obtain ⟨written, logged, saved, writing, logs, -, saving, sameStore, -⟩ :=
    verifyBatch_eq_ok evaluated verified
  obtain ⟨-, appended⟩ := writeEntries_eq_ok writing
  obtain ⟨-, location, named, -, sameSaved⟩ := saveCheckpoint_eq_ok saving
  obtain rfl : checkpointAt folder = location := Option.some.inj (located.symm.trans named)
  have logsToWritten := logsTo.of_sameSurroundings ((steady_writeEntries _ _).of_ok writing)
  have sameWritten := Store.sameBut_append present (Journal.lines (found.map BatchResult.entry)).toUTF8
  calc final.store.contentAt log
      = logged.store.contentAt log := by
        rw [sameStore, sameSaved.contentAt_eq (logsTo.ne_checkpointAt folder)]
    _ = written.store.contentAt log ++ (Journal.lines (wrongEntries found)).toUTF8 :=
        logs.contentAt_eq logsToWritten
    _ = start.store.contentAt log ++ (Journal.lines (wrongEntries found)).toUTF8 := by
        rw [appended, sameWritten.contentAt_eq (logsTo.ne_resultsAt folder)]

/-- A batch that cannot be evaluated is left out, and the failure is of the kind that spoils no other. -/
theorem verifyBatch_of_failure {plan : GridPlan} {results : Location} {batch : List (Int × Int)}
    {state next : GridProgress} {start final : Session} {failure : Failure}
    (failed : plan.evaluate start.patience batch = .error failure)
    (verified : plan.verifyBatch results state batch start = .ok next final) :
    failure.spoilsBatch = true ∧ next = state ∧ final.store = start.store := by
  obtain ⟨session, middle, got, rest⟩ := EStateM.bind_eq_ok.mp verified
  cases got
  simp only [failed] at rest
  split at rest
  · cases rest
  · next spoils =>
    obtain ⟨⟨⟩, printed, print, rested⟩ := EStateM.bind_eq_ok.mp rest
    obtain ⟨⟨⟩, advanced, advance, ended⟩ := EStateM.bind_eq_ok.mp rested
    cases print
    cases advance
    cases ended
    exact ⟨by simpa using spoils, rfl, rfl⟩

/-! ### A run over batches -/

/-- The results of a batch within a patience; none if it cannot be evaluated. -/
def foundIn (plan : GridPlan) (patience : Nat) (batch : List (Int × Int)) : List BatchResult :=
  resultsOf (plan.evaluate patience batch)

/-- What becomes of batches: the results of each are recorded, the wrong ones are logged, and a batch that
cannot be evaluated spoils no other. -/
structure WorksOff (plan : GridPlan) (folder : Location) (batches : List (List (Int × Int)))
    (before after : GridProgress) (start final : Session) : Prop where
  records : plan.Records (resultsAt folder) (checkpointAt folder)
    (batches.flatMap (plan.foundIn start.patience)) before after start final
  logged : ∀ log, start.LogsTo log → final.store.contentAt log = start.store.contentAt log ++
    (Journal.lines (wrongEntries (batches.flatMap (plan.foundIn start.patience)))).toUTF8
  spoilt : ∀ batch ∈ batches, ∀ failure, plan.evaluate start.patience batch = .error failure →
    failure.spoilsBatch = true

theorem wrongEntries_append (found more : List BatchResult) :
    wrongEntries (found ++ more) = wrongEntries found ++ wrongEntries more := by
  simp [wrongEntries]

/-- A batch is recorded as a whole or not at all. -/
theorem worksOff_singleton {plan : GridPlan} {folder : Location}
    (located : (Place.here plan.checkpointFile.text).location? = some (checkpointAt folder))
    (pairs : ∀ {patience batch found}, plan.evaluate patience batch = .ok found →
      found.map BatchResult.pair = batch)
    {batch : List (Int × Int)} (nonempty : batch ≠ []) {state next : GridProgress}
    {start final : Session} {content : ByteArray}
    (present : start.store.find? (resultsAt folder) = some (.file content))
    (verified : plan.verifyBatch (resultsAt folder) state batch start = .ok next final) :
    plan.WorksOff folder [batch] state next start final := by
  cases evaluated : plan.evaluate start.patience batch with
  | error failure =>
      obtain ⟨spoils, rfl, sameStore⟩ := verifyBatch_of_failure evaluated verified
      have noResults : [batch].flatMap (plan.foundIn start.patience) = [] := by
        rw [List.flatMap_singleton, foundIn, evaluated]
        rfl
      refine ⟨noResults ▸ Records.nothing sameStore, fun log _ => ?_, ?_⟩
      · rw [noResults, sameStore]
        exact ByteArray.append_empty.symm
      · refine List.forall_mem_singleton.mpr fun other failed => ?_
        cases evaluated.symm.trans failed
        exact spoils
  | ok found =>
      have someFound : found ≠ [] := by
        rintro rfl
        exact nonempty (pairs evaluated).symm
      have results : [batch].flatMap (plan.foundIn start.patience) = found := by
        rw [List.flatMap_singleton, foundIn, evaluated]
        rfl
      refine ⟨results ▸ records_of_evaluated located someFound evaluated present verified,
        fun log logsTo => ?_, ?_⟩
      · rw [results]
        exact contentAt_of_evaluated located evaluated present verified logsTo
      · refine List.forall_mem_singleton.mpr fun other failed => ?_
        cases evaluated.symm.trans failed

theorem WorksOff.trans {plan : GridPlan} {folder : Location} {batches more : List (List (Int × Int))}
    {before between after : GridProgress} {start middle final : Session}
    (one : plan.WorksOff folder batches before between start middle)
    (two : plan.WorksOff folder more between after middle final)
    (same : start.SameSurroundings middle) :
    plan.WorksOff folder (batches ++ more) before after start final := by
  obtain ⟨recordsMore, loggedMore, spoiltMore⟩ := two
  rw [same.patience] at recordsMore loggedMore spoiltMore
  refine ⟨?_, fun log logsTo => ?_, ?_⟩
  · rw [List.flatMap_append]
    exact one.records.trans recordsMore
  · rw [loggedMore log (logsTo.of_sameSurroundings same), one.logged log logsTo, List.flatMap_append,
      wrongEntries_append, Journal.lines_append, ByteArray.append_assoc]
    rfl
  · exact List.forall_mem_append.mpr ⟨one.spoilt, spoiltMore⟩

/-- A run over batches works them off one by one. -/
theorem worksOff_of_foldlM {plan : GridPlan} {folder : Location}
    (located : (Place.here plan.checkpointFile.text).location? = some (checkpointAt folder))
    (pairs : ∀ {patience batch found}, plan.evaluate patience batch = .ok found →
      found.map BatchResult.pair = batch)
    {batches : List (List (Int × Int))} (nonempty : ∀ batch ∈ batches, batch ≠ [])
    {state next : GridProgress} {start final : Session} {content : ByteArray}
    (present : start.store.find? (resultsAt folder) = some (.file content))
    (verified : batches.foldlM (plan.verifyBatch (resultsAt folder)) state start = .ok next final) :
    plan.WorksOff folder batches state next start final := by
  -- The results are a file all along, which is what each batch needs of the one before it.
  induction batches generalizing state start content with
  | nil =>
      cases verified
      refine ⟨Records.nothing rfl, fun log _ => ByteArray.append_empty.symm, ?_⟩
      intro batch member
      cases member
  | cons batch rest ih =>
      rw [List.foldlM_cons] at verified
      obtain ⟨between, middle, first, others⟩ := EStateM.bind_eq_ok.mp verified
      obtain ⟨nonemptyBatch, nonemptyRest⟩ := List.forall_mem_cons.mp nonempty
      have one := worksOff_singleton located pairs nonemptyBatch present first
      have more := ih nonemptyRest (one.records.lines present) others
      exact one.trans more ((plan.steady_verifyBatch _ _ _).of_ok first)

/-- The results of batches are those of some of their pairs, in their order. -/
theorem sublist_pairs {plan : GridPlan}
    (pairs : ∀ {patience batch found}, plan.evaluate patience batch = .ok found →
      found.map BatchResult.pair = batch) (patience : Nat) (batches : List (List (Int × Int))) :
    ((batches.flatMap (plan.foundIn patience)).map BatchResult.pair).Sublist batches.flatten := by
  induction batches with
  | nil => exact List.Sublist.refl []
  | cons batch rest ih =>
      rw [List.flatMap_cons, List.map_append, List.flatten_cons]
      refine List.Sublist.append ?_ ih
      cases evaluated : plan.evaluate patience batch with
      | error failure =>
          rw [foundIn, evaluated]
          exact List.nil_sublist batch
      | ok found =>
          rw [foundIn, evaluated, resultsOf, pairs evaluated]

end GridPlan

end TapeMultiplier
