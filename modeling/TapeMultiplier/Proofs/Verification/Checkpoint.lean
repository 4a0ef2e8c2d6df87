/-
Module: TapeMultiplier.Proofs.Verification.Checkpoint
Layer: Proofs
Purpose: Loading and saving checkpoints.  Loading changes no file and gives back what was saved; saving
  changes the checkpoint alone.
Main exports: resultsAt, checkpointAt, loadCheckpoint_absent, loadCheckpoint_present,
  loadCheckpoint_of_saved, saveCheckpoint_eq_ok
-/
import TapeMultiplier.Proofs.Session.Surroundings
import TapeMultiplier.Proofs.SettingsFile
import TapeMultiplier.Proofs.Verification.Documents

namespace TapeMultiplier

/-! ### The two files of a folder -/

theorem fileNamed_results : Path.FileNamed "results.jsonl" where
  nonempty := by decide
  whole := by decide
  notItself := by decide
  notAbove := by decide

theorem fileNamed_checkpoint : Path.FileNamed "results_checkpoint.json" where
  nonempty := by decide
  whole := by decide
  notItself := by decide
  notAbove := by decide

/-- Where the results of a folder are. -/
def resultsAt (folder : Location) : Location :=
  folder.enter (FileName.ofText "results.jsonl")

/-- Where the checkpoint of a folder is. -/
def checkpointAt (folder : Location) : Location :=
  folder.enter (FileName.ofText "results_checkpoint.json")

theorem checkpointAt_ne_resultsAt (folder : Location) : checkpointAt folder ≠ resultsAt folder := by
  intro same
  have names : FileName.ofText "results_checkpoint.json" = FileName.ofText "results.jsonl" :=
    (List.cons.inj (Location.mk.inj same).2).1
  exact absurd names (by decide)

/-! ### Loading -/

/-- A checkpoint is looked for first; if there is one, its document says how to go on. -/
theorem loadCheckpoint_eq_ok {path : Path} {signature : Json} {start final : Session}
    {answer : Option Json} (loaded : loadCheckpoint path signature start = .ok answer final) :
    final.store = start.store ∧ ∃ found, placeFound (.here path.text) start = .ok found start ∧
      ((found = false ∧ answer = some (.list [])) ∨ (found = true ∧ ∃ document fields,
        readDocument Json.nestingLimit (.here path.text) start = .ok document start ∧ document = .object fields ∧
        answer = if ((Json.lookupField fields "settings").getD .null).equal signature
          then some ((Json.lookupField fields "completed").getD (.list [])) else none)) := by
  obtain ⟨found, middle, looked, rest⟩ := EStateM.bind_eq_ok.mp loaded
  obtain rfl : middle = start := (reads_placeFound _).eq_of_ok looked
  cases found with
  | false =>
      cases rest
      exact ⟨rfl, false, looked, Or.inl ⟨rfl, rfl⟩⟩
  | true =>
      obtain ⟨document, last, read, settled⟩ := EStateM.bind_eq_ok.mp rest
      obtain rfl : last = middle := (readDocument_eq_ok.mp read).2
      split at settled
      · next fields =>
        dsimp only at settled
        split at settled
        · next agrees =>
          cases settled
          exact ⟨rfl, true, looked, Or.inr ⟨rfl, _, fields, read, rfl, (if_pos agrees).symm⟩⟩
        · next differs =>
          cases settled
          exact ⟨rfl, true, looked, Or.inr ⟨rfl, _, fields, read, rfl, (if_neg differs).symm⟩⟩
      · cases settled

theorem steady_loadCheckpoint (path : Path) (signature : Json) :
    (loadCheckpoint path signature).Steady := by
  refine App.steady_bind (reads_placeFound _).steady fun found => ?_
  split
  · exact (App.reads_pure _).steady
  · refine App.steady_bind (reads_readDocument _ _).steady fun document => ?_
    split
    · dsimp only
      split
      · exact (App.reads_pure _).steady
      · exact App.steady_bind (steady_print _) fun _ => (App.reads_pure _).steady
    · exact (App.reads_throw _).steady

/-- Without a checkpoint there is nothing completed. -/
theorem loadCheckpoint_absent {path : Path} {signature : Json} {start final : Session}
    {answer : Option Json} {location : Location} (named : (Place.here path.text).location? = some location)
    (absent : start.store.find? location = none)
    (loaded : loadCheckpoint path signature start = .ok answer final) : answer = some (.list []) := by
  obtain ⟨-, found, looked, ⟨-, answered⟩ | ⟨isFound, -⟩⟩ := loadCheckpoint_eq_ok loaded
  · exact answered
  · obtain ⟨-, ⟨-, node, stands⟩ | ⟨notFound, -⟩⟩ := placeFound_eq_ok looked
    · obtain ⟨other, namedToo, stored⟩ := Store.status_eq_ok stands
      rw [named] at namedToo
      cases namedToo
      rw [absent] at stored
      cases stored
    · rw [isFound] at notFound
      cases notFound

/-- From a checkpoint that was saved comes what was saved as completed, if its settings agree. -/
theorem loadCheckpoint_present {path : Path} {signature made completed : Json} {start final : Session}
    {answer : Option Json} {location : Location} (named : (Place.here path.text).location? = some location)
    (filed : (checkpointDocument made completed).Filed)
    (present : start.store.find? location =
      some (.file (checkpointDocument made completed).writeIndented.toUTF8))
    (looked : placeFound (.here path.text) start ≠ .ok false start)
    (loaded : loadCheckpoint path signature start = .ok answer final) :
    answer = if made.equal signature then some completed else none := by
  obtain ⟨-, found, lookedToo, ⟨notFound, -⟩ | ⟨-, document, fields, read, isObject, answered⟩⟩ :=
    loadCheckpoint_eq_ok loaded
  · rw [notFound] at lookedToo
    exact absurd lookedToo looked
  · obtain ⟨⟨-, content, decoded, stands, valid, parsed⟩, -⟩ := readDocument_eq_ok.mp read
    obtain ⟨other, namedToo, inStore⟩ := Store.status_eq_ok stands
    rw [named] at namedToo
    cases namedToo
    rw [present] at inStore
    cases inStore
    rw [Text.decodeUtf8_toUTF8] at valid
    cases valid
    rw [unifyLineEnds_of_notMem (Json.notMem_writeIndented _), ← Json.read, filed.read_writeIndented,
      isObject] at parsed
    cases parsed
    exact answered

/-- What is told where a verification starts over. -/
def restartNotice : String :=
  "[WARNING] Program or settings changed since the last run. Starting over."

/-- A checkpoint that was saved can be loaded: what was completed comes back, or nothing if its settings
differ. -/
theorem loadCheckpoint_of_saved {path : Path} {signature made completed : Json} {session : Session}
    {location : Location} (named : (Place.here path.text).location? = some location)
    (filed : (checkpointDocument made completed).Filed)
    (present : session.store.find? location =
      some (.file (checkpointDocument made completed).writeIndented.toUTF8))
    (allowed : checkPath path.text = .ok ()) {node : Node}
    (stands : session.store.status (.here path.text) = .ok node) :
    loadCheckpoint path signature session =
      (if made.equal signature then pure (some completed)
        else printLine restartNotice >>= fun _ => pure none : App (Option Json)) session := by
  obtain rfl : node = .file (checkpointDocument made completed).writeIndented.toUTF8 := by
    obtain ⟨other, namedToo, found⟩ := Store.status_eq_ok stands
    cases named.symm.trans namedToo
    exact Option.some.inj (found.symm.trans present)
  have parsed : Json.read (unifyLineEnds (checkpointDocument made completed).writeIndented.toList) =
      .ok (checkpointDocument made completed) := by
    rw [unifyLineEnds_of_notMem (Json.notMem_writeIndented _), filed.read_writeIndented]
  have shown : session.Shows Json.nestingLimit (.here path.text) (checkpointDocument made completed) :=
    ⟨allowed, _, _, stands, Text.decodeUtf8_toUTF8 _, parsed⟩
  have found : placeFound (.here path.text) session = .ok true session :=
    placeFound_of_ok allowed stands
  rw [loadCheckpoint, EStateM.bind_of_ok found]
  exact EStateM.bind_of_ok (readDocument_eq_ok.mpr ⟨shown, rfl⟩)

/-! ### Saving -/

theorem steady_saveCheckpoint (completed : Json) (path : Path) (signature : Json) :
    (saveCheckpoint completed path signature).Steady :=
  App.steady_bind (steady_openFile _ _) fun _ => App.steady_bind (steady_writeText _ _) fun _ =>
    (App.reads_orFail _ _).steady

/-- A checkpoint that is saved is in its file afterwards; other files are as they were. -/
theorem saveCheckpoint_eq_ok {path : Path} {signature completed : Json} {start final : Session}
    (saved : saveCheckpoint completed path signature start = .ok () final) :
    (checkpointDocument signature completed).writable = true ∧
      ∃ location, (Place.here path.text).location? = some location ∧
        final.store.find? location =
          some (.file (checkpointDocument signature completed).writeIndented.toUTF8) ∧
        Store.SameBut location start.store final.store := by
  obtain ⟨location, opened, opening, rest⟩ := EStateM.bind_eq_ok.mp saved
  obtain ⟨-, isOpened⟩ := openFile_eq_ok opening
  obtain ⟨-, named, sameOpened, -, emptied⟩ := Store.openForWriting_eq_ok isOpened
  have empty : opened.store.find? location = some (.file ByteArray.empty) := emptied
  obtain ⟨hasText, written⟩ := writeDocument_eq_ok rest
  refine ⟨hasText, location, named, ?_, ?_⟩
  · rw [written, Store.find?_append_self empty, ByteArray.empty_append]
  · rw [written]
    exact sameOpened.trans (Store.sameBut_append empty _)

end TapeMultiplier
