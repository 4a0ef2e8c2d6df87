/-
Module: TapeMultiplier.Verification
Layer: Session
Purpose: Verifying a program over a grid of factors.  Results are written batch by batch, and a
  checkpoint beside them says which pairs are done, so that a later run goes on where this one ended.
Main exports: GridTask, GridPlan, loadCheckpoint, saveCheckpoint, GridPlan.verify, verifyGrid
-/
import TapeMultiplier.Files
import TapeMultiplier.Journal

namespace TapeMultiplier

/-- What a verification is asked to do. -/
structure GridTask where
  programPath : RawText
  gridMax : Int
  batchSize : Int
  maxSteps : Int
  tapeSize : Int
  resultsRoot : RawText
  useEngine : Bool
deriving Repr, DecidableEq

/-- The folder of the results: one for each program name. -/
def resultsFolder (resultsRoot programPath : RawText) : Path :=
  (Path.ofText resultsRoot).child (Path.ofText programPath).stem

/-- What has to agree for a checkpoint to be used: program, step limit, tape size and engine. -/
def gridSignature (digest : String) (maxSteps tapeSize : Json) (useEngine : Bool) : Json :=
  .object [
    ("program_sha256", .string digest),
    ("max_steps", maxSteps),
    ("tape_size", if useEngine then .null else tapeSize),
    ("engine", .string (if useEngine then "reference" else "kernel"))]

namespace GridTask

/-- The task with nothing but its program chosen. -/
def standard (programPath : RawText) : GridTask where
  programPath
  gridMax := 12
  batchSize := 64
  maxSteps := -1
  tapeSize := 512
  resultsRoot := "results"
  useEngine := false

/-- The folder of the results. -/
def folder (task : GridTask) : Path :=
  resultsFolder task.resultsRoot task.programPath

/-- What has to agree for a checkpoint to be used. -/
def signature (task : GridTask) (digest : String) : Json :=
  gridSignature digest (.int task.maxSteps) (.int task.tapeSize) task.useEngine

end GridTask

/-- The line of a result. -/
def BatchResult.entry (result : BatchResult) : Json :=
  .object [
    ("a", .int result.a),
    ("b", .int result.b),
    ("expected", .int (result.a * result.b)),
    ("result", .int result.product),
    ("steps", .int result.steps),
    ("status", .string result.status.text),
    ("correct", .bool result.correct)]

/-- The completed pairs of a checkpoint: none if there is no checkpoint, and nothing at all if it was
made under another signature. -/
def loadCheckpoint (path : Path) (signature : Json) : App (Option Json) := do
  let place := Place.here path.text
  if !(← placeFound place) then return some (.list [])
  match ← readDocument Json.nestingLimit place with
  | .object fields =>
      let made := (Json.lookupField fields "settings").getD .null
      if made.equal signature then
        return some ((Json.lookupField fields "completed").getD (.list []))
      else
        printLine "[WARNING] Program or settings changed since the last run. Starting over."
        return none
  | document => throw (.checkpoint (.noFields document.kind))

/-- The document of a checkpoint. -/
def checkpointDocument (signature completed : Json) : Json :=
  .object [("settings", signature), ("completed", completed)]

/-- Save a checkpoint.  The file is emptied before it is written. -/
def saveCheckpoint (completed : Json) (path : Path) (signature : Json) : App Unit := do
  let location ← openFile .truncate path.text
  writeDocument Json.nestingLimit location (checkpointDocument signature completed)

/-- The first value that cannot be filed. -/
def firstUnfiled (items : List Json) : Option Kind :=
  (items.find? fun item => !Settings.allowedKey item).map Json.kind

/-- The keys that completed pairs are filed under. -/
def filedKeys (completed : Json) : Except CheckpointError (List Json) :=
  match Settings.members? completed with
  | none => .error (.holdsNothing completed.kind)
  | some items =>
      match firstUnfiled items with
      | some kind => .error (.notFiled kind)
      | none => .ok items

/-- Whether a key is among those filed. -/
def isFiled (done : List Json) (key : String) : Bool :=
  done.any fun item => item.same (.string key)

/-- Completed pairs with more keys at the end. -/
def extendCompleted (completed : Json) (keys : List String) : Except CheckpointError Json :=
  match completed with
  | .list items => .ok (.list (items ++ keys.map Json.ofText))
  | other => .error (.notExtended other.kind)

/-- Cut a list into pieces of a size; the last one may be shorter.  The first argument bounds the
number of pieces. -/
def piecesOf {α : Type} (size : Nat) : Nat → List α → List (List α)
  | 0, _ => []
  | count + 1, items =>
      if items.isEmpty then [] else items.take size :: piecesOf size count (items.drop size)

/-- The batches of pending pairs.  A size of zero is an error, a negative size gives no batch. -/
def batchesOf (size : Int) (pending : List (Int × Int)) : Except Failure (List (List (Int × Int))) :=
  if size = 0 then .error .emptyBatches
  else if size < 0 then .ok []
  else .ok (piecesOf size.toNat pending.length pending)

/-- Evaluate a batch with the engine that the task asks for. -/
def GridTask.evaluate (task : GridTask) (table : Table) (dense : Dense) (patience : Nat)
    (batch : List (Int × Int)) : Except Failure (List BatchResult) :=
  if task.useEngine then boundedReference table patience batch task.maxSteps
  else boundedBatch dense patience batch task.maxSteps task.tapeSize

/-- Whether a failure spoils one batch only; the verification goes on with the next. -/
def Failure.spoilsBatch (failure : Failure) : Bool :=
  failure.failureClass == .wrongValue

/-- Record that a batch is behind. -/
def advanceProgress (count : Nat) : App Unit :=
  modify fun session =>
    { session with
      progress := session.progress.map fun bar => { bar with advances := bar.advances ++ [count] } }

/-- The key of the first pair of a batch. -/
def batchName : List (Int × Int) → String
  | [] => ""
  | (a, b) :: _ => pairKey a b

/-- An entry that a verification writes, with its verdict. -/
structure WrittenEntry where
  entry : Json
  correct : Bool

/-- Write entries as lines, up to the first one that has no text. -/
def writeEntries (results : Location) (entries : List Json) : App Unit := do
  writeText results (Journal.lines (entries.takeWhile Json.writable))
  if !entries.all Json.writable then throw (.capacity .digits)

/-- What a verification carries from batch to batch. -/
structure GridProgress where
  completed : Json
  written : List WrittenEntry

/-- How a verification goes about its work, once its program is loaded. -/
structure GridPlan where
  /-- Where results and checkpoint are kept. -/
  folder : Path
  /-- What has to agree for a checkpoint to be used. -/
  signature : Json
  /-- The largest factor. -/
  gridMax : Int
  /-- The batches of pending pairs. -/
  batches : List (Int × Int) → Except Failure (List (List (Int × Int)))
  /-- The results of a batch within the session's patience. -/
  evaluate : Nat → List (Int × Int) → Except Failure (List BatchResult)

namespace GridPlan

/-- The file of the results. -/
def resultsFile (plan : GridPlan) : RawText :=
  (plan.folder.child "results.jsonl").text

/-- The file of the checkpoint. -/
def checkpointFile (plan : GridPlan) : Path :=
  plan.folder.child "results_checkpoint.json"

/-- Evaluate one batch and record it: result lines, log of wrong products, checkpoint.  A batch that
cannot be evaluated is reported and left out. -/
def verifyBatch (plan : GridPlan) (results : Location) (state : GridProgress)
    (batch : List (Int × Int)) : App GridProgress := do
  match plan.evaluate (← get).patience batch with
  | .error failure =>
      if !failure.spoilsBatch then throw failure
      printMarked ("[WARNING] Batch starting at " ++ batchName batch ++ " failed: " ++ failure.message)
      advanceProgress batch.length
      return state
  | .ok found =>
      let entries := found.map fun result =>
        { entry := result.entry, correct := result.correct : WrittenEntry }
      let wrong := entries.filter fun written => !written.correct
      writeEntries results (entries.map (·.entry))
      if !wrong.isEmpty && (← get).journal.isSome then
        rotateJournal
        logMismatches (wrong.map (·.entry))
      let keys := found.map fun result => pairKey result.a result.b
      let completed ← orFail .checkpoint (extendCompleted state.completed keys)
      saveCheckpoint completed plan.checkpointFile plan.signature
      advanceProgress batch.length
      return { completed, written := state.written ++ entries }

end GridPlan

/-- The verdict on what was written. -/
def verdict (written : List WrittenEntry) : String :=
  let wrong := (written.filter fun entry => !entry.correct).length
  let total := Text.grouped written.length
  if wrong = 0 then "All " ++ total ++ " pairs verified."
  else Text.grouped wrong ++ " of " ++ total ++ " pairs produced a wrong product."

/-- How a verification goes on after a checkpoint: with its completed pairs, adding to the results, or
from scratch if it holds none. -/
def resumption : Option Json → Json × Store.WriteMode
  | none => (.list [], .truncate)
  | some .null => (.list [], .truncate)
  | some completed => (completed, .append)

/-- Verify all pairs of the grid that no checkpoint marks as done.  The answer is the entries written
now. -/
def GridPlan.verify (plan : GridPlan) : App (List Json) := do
  let pairs := operandGrid plan.gridMax
  let (completed, mode) := resumption (← loadCheckpoint plan.checkpointFile plan.signature)
  let done ← orFail .checkpoint (filedKeys completed)
  let pending := pairs.filter fun pair => !isFiled done (pairKey pair.1 pair.2)
  printLine ("Loaded " ++ Text.grouped pairs.length ++ " operand pairs. " ++
    Text.grouped pending.length ++ " pending.")
  let results ← openFile mode plan.resultsFile
  modify fun session =>
    { session with progress := some { total := pending.length, advances := [] } }
  let batches ← orFail id (plan.batches pending)
  let final ← batches.foldlM (plan.verifyBatch results) { completed, written := [] }
  printLine (verdict final.written)
  return final.written.map (·.entry)

/-- The plan of a task for a program with a digest. -/
def GridTask.plan (task : GridTask) (table : Table) (digest : String) : GridPlan where
  folder := task.folder
  signature := task.signature digest
  gridMax := task.gridMax
  batches := batchesOf task.batchSize
  evaluate := task.evaluate table table.dense

/-- Verify a program over the grid: the folder of the results is made, and the task is carried out. -/
def verifyGrid (task : GridTask) : App (List Json) := do
  let table ← loadProgram task.programPath
  makePath task.folder
  let digest ← programDigest task.programPath
  (task.plan table digest).verify

end TapeMultiplier
