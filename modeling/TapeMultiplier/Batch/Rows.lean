/-
Module: TapeMultiplier.Batch.Rows
Layer: Model
Purpose: A batch on shared arrays.  The arrays are laid out for the whole batch, every task is put into its
  row, the machines work in place, and the results are read back from the rows.
Main exports: BatchProgram, BatchArrays, BatchArrays.place, BatchArrays.simulateRow, BatchArrays.results,
  evaluateInRows
-/
import TapeMultiplier.Batch

namespace TapeMultiplier

/-!
One array holds the buffers of all tasks, and five more hold where the windows begin and end, where the heads
are, how many steps were counted and how the runs ended.  Nothing but its position tells to which task an
entry belongs.  The machines run in parallel, so the order in which their rows are taken is not fixed: it is
given with the batch.
-/

/-- A program as a batch takes it: a table, or the dense form that was made of one before. -/
inductive BatchProgram where
  | ofTable (table : Table)
  | ofDense (dense : Dense)
deriving Repr, DecidableEq

/-- The dense form of the program. -/
def BatchProgram.dense : BatchProgram → Dense
  | ofTable table => table.dense
  | ofDense dense => dense

/-- The arrays of a batch, with a row for each task. -/
structure BatchArrays where
  tapes : Array Cells
  los : Array Nat
  his : Array Nat
  heads : Array Int
  steps : Array Nat
  statuses : Array Status
deriving Repr, DecidableEq

namespace BatchArrays

/-- The arrays for a number of tasks before any is placed: blank buffers of one size, and zeros. -/
def blank (count size : Nat) : BatchArrays :=
  { tapes := Array.replicate count (Array.replicate size Kernel.blank)
    los := Array.replicate count 0
    his := Array.replicate count 0
    heads := Array.replicate count 0
    steps := Array.replicate count 0
    statuses := Array.replicate count .halted }

/-- The entries of a row. -/
def row (arrays : BatchArrays) (position : Nat) : Report :=
  { steps := arrays.steps.getD position 0
    lo := arrays.los.getD position 0
    hi := arrays.his.getD position 0
    head := arrays.heads.getD position 0
    status := arrays.statuses.getD position .halted
    cells := arrays.tapes.getD position #[] }

/-- Replace the entries of a row. -/
def setRow (arrays : BatchArrays) (position : Nat) (entries : Report) : BatchArrays :=
  { tapes := arrays.tapes.setIfInBounds position entries.cells
    los := arrays.los.setIfInBounds position entries.lo
    his := arrays.his.setIfInBounds position entries.hi
    heads := arrays.heads.setIfInBounds position entries.head
    steps := arrays.steps.setIfInBounds position entries.steps
    statuses := arrays.statuses.setIfInBounds position entries.status }

/-- Write cells over a buffer, from a position on. -/
def overwrite (cells : Cells) (position : Nat) : List Int → Cells
  | [] => cells
  | cell :: rest => overwrite (cells.setIfInBounds position cell) (position + 1) rest

/-- Put a task into its row: its starting tape into the second half of the buffer, and the window and the
head beside it.  The factors are checked first, then that the starting tape fits. -/
def place (tapeSize : Int) (arrays : BatchArrays) (position : Nat) (task : Int × Int) :
    Except BatchError BatchArrays := do
  let (a, b) := task
  match checkOperands a b with
  | .error error => throw (.operands error)
  | .ok () => pure ()
  let origin := tapeSize.fdiv 2
  match encodeCells (multiplicationTape a b) with
  | .error error => throw (.alphabet error)
  | .ok initial =>
      if tapeSize < origin + initial.length then throw (.tooSmall tapeSize a b)
      let before := arrays.row position
      return arrays.setRow position {
        before with
        cells := overwrite before.cells origin.toNat initial
        lo := origin.toNat
        hi := origin.toNat + initial.length
        head := origin + Machine.startHead }

/-- Run the machine of a row from where its entries have it, and leave in the row what the run comes to. -/
def simulateRow (dense : Dense) (patience : Nat) (maxSteps : Int) (arrays : BatchArrays)
    (position : Nat) : Except BatchError BatchArrays :=
  let before := arrays.row position
  match Kernel.simulate dense patience maxSteps before.cells before.lo before.hi before.head with
  | .error (.fault fault) => .error (.fault fault)
  | .error .unfinished => .error .unfinished
  | .ok report => .ok (arrays.setRow position report)

/-- Read the results of tasks from their rows. -/
def results (arrays : BatchArrays) (tasks : List (Int × Int)) : Except BatchError (List BatchResult) :=
  tasks.zipIdx.mapM fun entry => resultOfReport entry.1.1 entry.1.2 (arrays.row entry.2)

end BatchArrays

/-- Evaluate tasks on shared arrays, where the rows run in a given order. -/
def evaluateInRows (program : BatchProgram) (patience : Nat) (order : List Nat)
    (tasks : List (Int × Int)) (maxSteps tapeSize : Int) : Except BatchError (List BatchResult) := do
  if tapeSize < 0 then throw .negativeSize
  let placed ← tasks.zipIdx.foldlM (fun arrays entry => arrays.place tapeSize entry.2 entry.1)
    (BatchArrays.blank tasks.length tapeSize.toNat)
  let final ← order.foldlM (BatchArrays.simulateRow program.dense patience maxSteps) placed
  final.results tasks

end TapeMultiplier
