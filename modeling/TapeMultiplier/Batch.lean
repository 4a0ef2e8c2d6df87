/-
Module: TapeMultiplier.Batch
Layer: Model
Purpose: Evaluating many multiplication tasks at once, by the kernel on buffers of one size or by the
  step-by-step machine.
Main exports: BatchResult, BatchError, evaluateBatch, evaluateReference
-/
import TapeMultiplier.Kernel

namespace TapeMultiplier

/-- The result of one task. -/
structure BatchResult where
  a : Int
  b : Int
  steps : Nat
  status : Status
  tape : String
  product : Nat
deriving Repr, DecidableEq

/-- A result is correct if the machine halted on the right product. -/
def BatchResult.correct (result : BatchResult) : Bool :=
  result.status == .halted && (result.product : Int) == result.a * result.b

/-- Why a batch has no results. -/
inductive BatchError where
  | negativeSize
  | operands (error : OperandError)
  | tooSmall (tapeSize a b : Int)
  | alphabet (error : CellError)
  | column (error : ColumnError)
  | head (error : HeadError)
  | fault (fault : KernelFault)
  | unfinished
deriving Repr, DecidableEq

/-- A task on its buffer, before it runs. -/
structure PreparedTask where
  a : Int
  b : Int
  cells : Cells
  lo : Nat
  hi : Nat
  head : Int
deriving Repr, DecidableEq

/-- Put a task into the second half of a blank buffer: the factors are checked first, then that the
starting tape fits. -/
def prepareTask (tapeSize : Int) (task : Int × Int) : Except BatchError PreparedTask := do
  let (a, b) := task
  match checkOperands a b with
  | .error error => throw (.operands error)
  | .ok () => pure ()
  let origin := tapeSize.fdiv 2
  match encodeCells (multiplicationTape a b) with
  | .error error => throw (.alphabet error)
  | .ok initial =>
      if tapeSize < origin + initial.length then throw (.tooSmall tapeSize a b)
      let margin := (tapeSize - (origin + initial.length)).toNat
      return {
        a, b
        cells := Array.replicate origin.toNat Kernel.blank ++ initial.toArray ++
          Array.replicate margin Kernel.blank
        lo := origin.toNat
        hi := origin.toNat + initial.length
        head := origin + Machine.startHead }

/-- The result of a kernel report; only a halted machine has a product. -/
def resultOfReport (a b : Int) (report : Report) : Except BatchError BatchResult :=
  match decodeCells report.window with
  | .error error => .error (.column error)
  | .ok tape =>
      .ok {
        a, b
        steps := report.steps
        status := report.status
        tape := String.ofList tape
        product := if report.status = .halted then extractProduct tape else 0 }

/-- Run a prepared task. -/
def runTask (dense : Dense) (patience : Nat) (maxSteps : Int) (task : PreparedTask) :
    Except BatchError BatchResult :=
  match Kernel.simulate dense patience maxSteps task.cells task.lo task.hi task.head with
  | .error (.fault fault) => .error (.fault fault)
  | .error .unfinished => .error .unfinished
  | .ok report => resultOfReport task.a task.b report

/-- Evaluate tasks by the kernel on buffers of one size.  All tasks are prepared before the first one
runs, so an error is that of the first task that cannot be prepared. -/
def evaluateBatch (dense : Dense) (patience : Nat) (tasks : List (Int × Int)) (maxSteps : Int)
    (tapeSize : Int) : Except BatchError (List BatchResult) := do
  if tapeSize < 0 then throw .negativeSize
  let prepared ← tasks.mapM (prepareTask tapeSize)
  prepared.mapM (runTask dense patience maxSteps)

/-- The step limit of the reference evaluation: only a positive number is a limit. -/
def referenceLimit (maxSteps : Int) : StepLimit :=
  if 0 < maxSteps then .atMost maxSteps else .unlimited

/-- Evaluate one task by the step-by-step machine. -/
def referenceTask (table : Table) (patience : Nat) (maxSteps : Int) (task : Int × Int) :
    Except BatchError BatchResult :=
  let (a, b) := task
  match multiply table patience a b (referenceLimit maxSteps) with
  | .error (.operands error) => .error (.operands error)
  | .error (.head error) => .error (.head error)
  | .error .unfinished => .error .unfinished
  | .ok (product, final) =>
      .ok {
        a, b
        steps := final.steps
        status := if final.halted then .halted else .stepLimit
        tape := final.tape
        product := if final.halted then product else 0 }

/-- Evaluate tasks one after the other by the step-by-step machine. -/
def evaluateReference (table : Table) (patience : Nat) (tasks : List (Int × Int))
    (maxSteps : Int) : Except BatchError (List BatchResult) :=
  tasks.mapM (referenceTask table patience maxSteps)

/-- The wording of the errors that can be reported. -/
def BatchError.message : BatchError → String
  | negativeSize => "negative dimensions are not allowed"
  | operands error => error.message
  | tooSmall tapeSize a b =>
      "Tape size " ++ Text.decimalInt tapeSize ++ " too small for " ++ Text.decimalInt a ++ " x " ++
        Text.decimalInt b
  | alphabet error => Text.quoted (String.singleton error.character)
  | column error => error.message
  | head error => error.message
  | fault cause => cause.message
  | unfinished => "the run did not end"

end TapeMultiplier
