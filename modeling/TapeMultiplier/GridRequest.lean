/-
Module: TapeMultiplier.GridRequest
Layer: Session
Purpose: Verifications some of whose settings were named without a value.  Such a verification goes as
  far as it can: it fails where the value is needed, and not at all if it never is.
Main exports: GridRequest, GridRequest.verify, GridRequest.verify_ofTask
-/
import TapeMultiplier.Verification

namespace TapeMultiplier

/-- What a verification is asked to do; nothing stands for a setting without a value. -/
structure GridRequest where
  programPath : Option RawText
  gridMax : Option Int
  batchSize : Option Int
  maxSteps : Option Int
  tapeSize : Option Int
  resultsRoot : Option RawText
  useEngine : Bool
deriving Repr, DecidableEq

namespace GridRequest

/-- The request for a task, with a value for every setting. -/
def ofTask (task : GridTask) : GridRequest where
  programPath := some task.programPath
  gridMax := some task.gridMax
  batchSize := some task.batchSize
  maxSteps := some task.maxSteps
  tapeSize := some task.tapeSize
  resultsRoot := some task.resultsRoot
  useEngine := task.useEngine

/-- A setting in a signature: without a value it is the empty list. -/
def settingJson : Option Int → Json
  | some value => .int value
  | none => .list []

/-- What has to agree for a checkpoint to be used. -/
def signature (request : GridRequest) (digest : String) : Json :=
  gridSignature digest (settingJson request.maxSteps) (settingJson request.tapeSize)
    request.useEngine

/-- The batches of pending pairs. -/
def batches (request : GridRequest) (pending : List (Int × Int)) :
    Except Failure (List (List (Int × Int))) :=
  match request.batchSize with
  | some size => batchesOf size pending
  | none => .error (.noValue .amount)

/-- Evaluate a batch.  The engine asks for the step limit first and needs no tape size; the kernel asks
for the tape size first, and for the step limit when all tapes are laid out. -/
def evaluate (request : GridRequest) (table : Table) (dense : Dense) (patience : Nat)
    (batch : List (Int × Int)) : Except Failure (List BatchResult) :=
  match request.useEngine, request.maxSteps, request.tapeSize with
  | true, some limit, _ => boundedReference table patience batch limit
  | true, none, _ => .error (.noValue .positiveLimit)
  | false, some limit, some size => boundedBatch dense patience batch limit size
  | false, none, some size => do
      let _ ← boundedBatch dense patience batch 0 size
      throw (.noValue .negativeLimit)
  | false, _, none => .error (.noValue .amount)

/-- The plan of a request for a program with a digest. -/
def plan (request : GridRequest) (folder : Path) (table : Table) (digest : String) (gridMax : Int) :
    GridPlan where
  folder
  signature := request.signature digest
  gridMax
  batches := request.batches
  evaluate := request.evaluate table table.dense

/-- Verify a program over the grid as far as the request has values. -/
def verify (request : GridRequest) : App (List Json) := do
  let programPath ← required .path request.programPath
  let table ← loadProgram programPath
  let resultsRoot ← required .path request.resultsRoot
  let folder := resultsFolder resultsRoot programPath
  makePath folder
  let digest ← programDigest programPath
  let gridMax ← required .largestFactor request.gridMax
  (request.plan folder table digest gridMax).verify

/-- A request with all values evaluates batches as its task does. -/
theorem evaluate_ofTask (task : GridTask) (table : Table) (dense : Dense) :
    (ofTask task).evaluate table dense = task.evaluate table dense := by
  funext patience batch
  cases h : task.useEngine <;> simp [evaluate, ofTask, GridTask.evaluate, h]

/-- A request with all values is the verification of its task. -/
theorem verify_ofTask (task : GridTask) : (ofTask task).verify = verifyGrid task := by
  have same (table : Table) (digest : String) :
      (ofTask task).plan task.folder table digest task.gridMax = task.plan table digest := by
    simp only [plan, GridTask.plan, evaluate_ofTask]
    rfl
  simp only [verifyGrid, ← same]
  rfl

end GridRequest

end TapeMultiplier
