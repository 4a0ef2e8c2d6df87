/-
Module: TapeMultiplier.Kernel
Layer: Model
Purpose: The integer kernel: a dense program on a buffer of fixed size.  The live tape is the window
  from `lo` up to `hi`; the tape grows by widening the window, until the buffer is used up.
Main exports: Cells, encodeCells, decodeCells, Kernel, Status, Report, Kernel.step, Kernel.run,
  Kernel.simulate
-/
import TapeMultiplier.Dense
import TapeMultiplier.Machine

namespace TapeMultiplier

/-!
Cells are plain integers, and the buffer outside the window may hold anything.  The head may start
outside the window; left of the buffer it counts from the buffer's end.  Reads and writes are checked:
a position outside the buffer, a state without a row or a cell without a column is a `KernelFault`.
With the head on a window whose live cells are letter columns no fault arises.
-/

/-- A buffer of cells; live cells hold letter columns. -/
abbrev Cells := Array Int

/-- A character outside the alphabet. -/
structure CellError where
  character : Char
deriving Repr, DecidableEq

/-- A cell that names no letter. -/
structure ColumnError where
  cell : Int
deriving Repr, DecidableEq

/-- The wording of the error. -/
def ColumnError.message (error : ColumnError) : String :=
  (IndexFault.ofPosition error.cell).message "list"

/-- The letter columns of a text over the alphabet. -/
def encodeCells (tape : List Char) : Except CellError (List Int) :=
  tape.mapM fun c =>
    match Symbol.ofChar? c with
    | some symbol => .ok symbol.index
    | none => .error ⟨c⟩

/-- The letter of a column, where negative columns count from the end of the alphabet. -/
def symbolOfCell? (cell : Int) : Option Symbol := do
  let index ← resolveIndex? Symbol.all.length cell
  Symbol.ofIndex? index

/-- The text of letter columns. -/
def decodeCells (cells : List Int) : Except ColumnError (List Char) :=
  cells.mapM fun cell =>
    match symbolOfCell? cell with
    | some symbol => .ok symbol.char
    | none => .error ⟨cell⟩

/-- An access that the kernel cannot make. -/
inductive KernelFault where
  /-- The head is outside a buffer of this size. -/
  | position (head : Int) (size : Nat)
  /-- A cell holds no letter column, or the state has no row. -/
  | cell (state : Nat) (value : Int)
deriving Repr, DecidableEq

/-- The wording of the fault. -/
def KernelFault.message : KernelFault → String
  | position head size =>
      "index " ++ Text.decimalInt head ++ " is out of bounds for axis 0 with size " ++
        Text.decimal size
  | cell _ value => "index " ++ Text.decimalInt value ++ " is out of bounds for axis 1 with size 6"

/-- How a kernel run ended. -/
inductive Status where
  | halted
  | stepLimit
  | tapeOverflow
deriving Repr, Inhabited, DecidableEq

/-- The status in results. -/
def Status.text : Status → String
  | halted => "halted"
  | stepLimit => "step_limit"
  | tapeOverflow => "tape_overflow"

/-- A kernel in the middle of a run. -/
structure Kernel where
  cells : Cells
  lo : Nat
  hi : Nat
  head : Int
  state : Nat
  steps : Nat
deriving Repr, Inhabited, DecidableEq

/-- What a kernel run leaves behind. -/
structure Report where
  steps : Nat
  lo : Nat
  hi : Nat
  head : Int
  status : Status
  cells : Cells
deriving Repr, Inhabited, DecidableEq

namespace Kernel

/-- The kernel's report at the end of a run. -/
def report (k : Kernel) (status : Status) : Report :=
  { steps := k.steps, lo := k.lo, hi := k.hi, head := k.head, status, cells := k.cells }

/-- Blank cells hold the column of the blank. -/
def blank : Int := Symbol.blank.index

/-- What one step of the kernel comes to. -/
inductive Progress where
  | next (k : Kernel)
  | done (report : Report)
deriving Repr

/-- Widen the window when the head has left it, or report that the buffer is used up.  Overflow
counts the step that caused it. -/
def settle (k : Kernel) (next : Nat) : Progress :=
  if (k.hi : Int) ≤ k.head then
    if k.cells.size ≤ k.hi then
      .done ({ k with steps := k.steps + 1 }.report .tapeOverflow)
    else
      let hi := k.hi
      .next { cells := k.cells.setIfInBounds hi blank, lo := k.lo, hi := hi + 1, head := k.head,
              state := next, steps := k.steps + 1 }
  else if k.head < k.lo then
    match k.lo with
    | 0 => .done ({ k with steps := k.steps + 1 }.report .tapeOverflow)
    | lo + 1 =>
        .next { cells := k.cells.setIfInBounds lo blank, lo, hi := k.hi, head := k.head,
                state := next, steps := k.steps + 1 }
  else
    .next { cells := k.cells, lo := k.lo, hi := k.hi, head := k.head, state := next,
            steps := k.steps + 1 }

/-- One step: halt on an empty cell, otherwise write, move and settle. -/
def step (dense : Dense) (k : Kernel) : Except KernelFault Progress :=
  match resolveIndex? k.cells.size k.head with
  | none => .error (.position k.head k.cells.size)
  | some place =>
      let value := k.cells.getD place blank
      match if value < 0 then none else dense.cell? k.state value.toNat with
      | none => .error (.cell k.state value)
      | some none => .ok (.done (k.report .halted))
      | some (some action) =>
          let head := k.head
          let moved : Kernel :=
            { cells := k.cells.setIfInBounds place action.write, lo := k.lo, hi := k.hi,
              head := head + action.move.offset, state := k.state, steps := k.steps }
          .ok (moved.settle action.next)

/-- Step until the run is done, or until a number of steps were made. -/
def run (dense : Dense) : Nat → Kernel → Except KernelFault Report
  | 0, k => .ok (k.report .stepLimit)
  | budget + 1, k =>
      match k.step dense with
      | .error fault => .error fault
      | .ok (.done report) => .ok report
      | .ok (.next next) => run dense budget next

end Kernel

/-- A kernel's step limit: a negative number means no limit. -/
def kernelLimit (maxSteps : Int) : StepLimit :=
  if maxSteps < 0 then .unlimited else .atMost maxSteps

/-- Why a kernel run has no report. -/
inductive SimulationError where
  | fault (fault : KernelFault)
  | unfinished
deriving Repr, DecidableEq

/-- Run the kernel from state 0 on a window; a negative limit means no limit. -/
def Kernel.simulate (dense : Dense) (patience : Nat) (maxSteps : Int) (cells : Cells)
    (lo hi : Nat) (head : Int) : Except SimulationError Report :=
  let limit := kernelLimit maxSteps
  match Kernel.run dense (limit.budget patience) { cells, lo, hi, head, state := 0, steps := 0 } with
  | .error fault => .error (.fault fault)
  | .ok report =>
      if limit = .unlimited ∧ report.status = .stepLimit then .error .unfinished else .ok report

/-- The live cells of a report. -/
def Report.window (report : Report) : List Int :=
  (report.cells.extract report.lo report.hi).toList

end TapeMultiplier
