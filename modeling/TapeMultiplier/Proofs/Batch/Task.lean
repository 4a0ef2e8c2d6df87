/-
Module: TapeMultiplier.Proofs.Batch.Task
Layer: Proofs
Purpose: One task of a batch.  A task that fits its buffer begins on a board whose tape is that of the
  step-by-step machine, and a batch is evaluated task by task.
Main exports: taskBoard, multiplier_eq_machine, prepareTask_eq, runTask_board_eq_ok, evaluateTask,
  evaluateTask_eq_ok, evaluateBatch_eq_ok
-/
import TapeMultiplier.Batch
import TapeMultiplier.Proofs.Bind
import TapeMultiplier.Proofs.Kernel.Refinement

namespace TapeMultiplier

/-! ### The board of a task -/

/-- The letters after the first zero of a starting tape. -/
def factorSymbols (a b : Nat) : List Symbol :=
  List.replicate a .number ++ .calculation :: (List.replicate b .number ++ [.blank])

/-- The board on which the factors `a + 1` and `b` are multiplied, with blank cells on both sides. -/
def taskBoard (below beyond a b : Nat) : Board where
  below := List.replicate below Kernel.blank
  before := [.blank]
  current := .number
  after := factorSymbols a b
  beyond := List.replicate beyond Kernel.blank

/-- The task that is prepared on a board. -/
def Board.task (board : Board) (a b : Int) : PreparedTask :=
  { a, b, cells := board.buffer.toArray, lo := board.below.length, hi := board.hi, head := board.head }

section Board

variable (below beyond a b : Nat)

theorem symbols_taskBoard :
    (taskBoard below beyond a b).symbols = .blank :: .number :: factorSymbols a b := rfl

theorem length_factorSymbols : (factorSymbols a b).length = a + b + 2 := by
  simp [factorSymbols]
  omega

theorem hi_taskBoard : (taskBoard below beyond a b).hi = below + (a + 1 + b + 3) := by
  simp [Board.hi, Board.head, taskBoard, length_factorSymbols]
  omega

theorem buffer_taskBoard :
    (taskBoard below beyond a b).buffer =
      List.replicate below Kernel.blank ++ columns (taskBoard below beyond a b).symbols ++
        List.replicate beyond Kernel.blank := by
  simp [Board.buffer, taskBoard]

/-- The starting tape is the tape of the board. -/
theorem multiplicationTape_eq :
    multiplicationTape (a + 1 : Nat) b = (taskBoard below beyond a b).tape.cells := by
  rw [Board.cells_tape, symbols_taskBoard]
  simp [multiplicationTape, factorSymbols, List.replicate_succ]

/-- The step-by-step machine begins with the tape of the board. -/
theorem multiplier_eq_machine (positive : 0 < b) :
    multiplier (a + 1 : Nat) b =
      .ok ((taskBoard below beyond a b).machine Table.startState 0) := by
  have accepted : checkOperands ((a + 1 : Nat) : Int) b = .ok () := by
    rw [checkOperands, if_neg (by omega)]
  have head : Machine.startHead = ((taskBoard below beyond a b).tape.head : Int) := rfl
  rw [multiplier, accepted, Machine.start, multiplicationTape_eq below beyond, head, Tape.ofCells?_cells]
  rfl

theorem encodeCells_map_char (symbols : List Symbol) :
    encodeCells (symbols.map Symbol.char) = .ok (columns symbols) := by
  induction symbols with
  | nil => rfl
  | cons symbol rest ih =>
      simp only [encodeCells, columns] at ih
      simp only [encodeCells, columns, List.map_cons, List.mapM_cons, Symbol.ofChar?_char, ih]
      rfl

/-- The starting tape has letters only. -/
theorem encodeCells_multiplicationTape :
    encodeCells (multiplicationTape (a + 1 : Nat) b) =
      .ok (columns (taskBoard below beyond a b).symbols) := by
  rw [multiplicationTape_eq below beyond, Board.cells_tape, encodeCells_map_char]

end Board

/-! ### Preparing a task -/

/-- The cells of a buffer behind a starting tape that begins in its middle. -/
def marginBehind (size a b : Nat) : Nat :=
  size - (size / 2 + (a + 1 + b + 3))

/-- A task with a factor that is not positive is refused. -/
theorem prepareTask_of_refused {first second : Int} (refused : first ≤ 0 ∨ second ≤ 0) (size : Nat) :
    prepareTask size (first, second) = .error (.operands .positive) := by
  have rejected : checkOperands first second = .error .positive := by
    rw [checkOperands, if_pos refused]
  simp only [prepareTask, rejected]
  rfl

/-- A task with positive factors is prepared on its board if the second half of the buffer has room for
its starting tape. -/
theorem prepareTask_eq (size a b : Nat) (positive : 0 < b) :
    prepareTask size ((a + 1 : Nat), b) =
      if size < size / 2 + (a + 1 + b + 3) then .error (.tooSmall size (a + 1 : Nat) b)
      else .ok ((taskBoard (size / 2) (marginBehind size a b) a b).task (a + 1 : Nat) b) := by
  have accepted : checkOperands ((a + 1 : Nat) : Int) b = .ok () := by
    rw [checkOperands, if_neg (by omega)]
  have half : (size : Int).fdiv 2 = (size / 2 : Nat) := (Int.ofNat_fdiv size 2).symm
  have encoded := encodeCells_multiplicationTape (size / 2) (marginBehind size a b) a b
  have width : (columns (taskBoard (size / 2) (marginBehind size a b) a b).symbols).length =
      a + 1 + b + 3 := by
    simp [columns, symbols_taskBoard, length_factorSymbols]
    omega
  simp only [prepareTask, accepted, encoded, half, width]
  by_cases small : size < size / 2 + (a + 1 + b + 3)
  · rw [if_pos small, if_pos (by omega)]
    rfl
  · have margin : ((size : Int) - ((size / 2 : Nat) + (a + 1 + b + 3 : Nat))).toNat =
        marginBehind size a b := by
      rw [marginBehind]
      omega
    have filled : Array.replicate (size / 2) Kernel.blank ++
        (columns (taskBoard (size / 2) (marginBehind size a b) a b).symbols).toArray ++
          Array.replicate (marginBehind size a b) Kernel.blank =
        (taskBoard (size / 2) (marginBehind size a b) a b).buffer.toArray := by
      simp [buffer_taskBoard, ← List.toArray_replicate]
    have first : (taskBoard (size / 2) (marginBehind size a b) a b).below.length = size / 2 := by
      simp [taskBoard]
    have second : ((taskBoard (size / 2) (marginBehind size a b) a b).head : Int) =
        (size / 2 : Nat) + Machine.startHead := by
      simp [taskBoard, Board.head, Machine.startHead]
    rw [if_neg small, if_neg (by omega), margin, Int.toNat_natCast, filled, Board.task, hi_taskBoard,
      first, second]
    rfl

/-- A task that is prepared has positive factors, and its starting tape fits the buffer. -/
theorem prepareTask_eq_ok {size : Nat} {task : Int × Int} {prepared : PreparedTask}
    (succeeded : prepareTask size task = .ok prepared) :
    ∃ a b : Nat, 0 < b ∧ task = (((a + 1 : Nat) : Int), (b : Int)) ∧
      size / 2 + (a + 1 + b + 3) ≤ size ∧
      prepared = (taskBoard (size / 2) (marginBehind size a b) a b).task (a + 1 : Nat) b := by
  obtain ⟨first, second⟩ := task
  by_cases refused : first ≤ 0 ∨ second ≤ 0
  · cases (prepareTask_of_refused refused size).symm.trans succeeded
  · obtain ⟨a, rfl⟩ : ∃ a : Nat, first = (a + 1 : Nat) := ⟨(first - 1).toNat, by omega⟩
    obtain ⟨b, rfl⟩ : ∃ b : Nat, second = b := ⟨second.toNat, by omega⟩
    have positive : 0 < b := by omega
    rw [prepareTask_eq size a b positive] at succeeded
    split at succeeded
    · cases succeeded
    · next room =>
      exact ⟨a, b, positive, rfl, Nat.le_of_not_lt room, (Except.ok.inj succeeded).symm⟩

/-! ### Running a task -/

/-- The kernel has a report if its run meets no fault and, where there is no limit, has halted. -/
theorem Kernel.simulate_eq_ok {dense : Dense} {patience : Nat} {maxSteps : Int} {cells : Cells}
    {lo hi : Nat} {head : Int} {report : Report} :
    Kernel.simulate dense patience maxSteps cells lo hi head = .ok report ↔
      Kernel.run dense ((kernelLimit maxSteps).budget patience)
          { cells, lo, hi, head, state := 0, steps := 0 } = .ok report ∧
        ¬(kernelLimit maxSteps = .unlimited ∧ report.status = .stepLimit) := by
  rw [Kernel.simulate]
  cases Kernel.run dense ((kernelLimit maxSteps).budget patience)
      { cells, lo, hi, head, state := 0, steps := 0 } with
  | error fault => simp
  | ok found =>
      simp only [Except.ok.injEq]
      split
      · next unfinished =>
        refine iff_of_false (by simp) ?_
        rintro ⟨rfl, finished⟩
        exact finished unfinished
      · next finished =>
        constructor
        · rintro ⟨⟩
          exact ⟨rfl, finished⟩
        · rintro ⟨rfl, -⟩
          rfl

/-- The result of a task whose run left a report. -/
def Report.taskResult (report : Report) (a b : Int) (tape : List Char) : BatchResult :=
  { a, b
    steps := report.steps
    status := report.status
    tape := String.ofList tape
    product := if report.status = .halted then extractProduct tape else 0 }

theorem resultOfReport_eq_ok {a b : Int} {report : Report} {result : BatchResult} :
    resultOfReport a b report = .ok result ↔
      ∃ tape, decodeCells report.window = .ok tape ∧ result = report.taskResult a b tape := by
  rw [resultOfReport]
  cases decodeCells report.window with
  | error error => simp
  | ok tape => simp [Report.taskResult, eq_comm]

/-- A prepared task has a result if the kernel has a report and its window is a tape. -/
theorem runTask_eq_ok {dense : Dense} {patience : Nat} {maxSteps : Int} {task : PreparedTask}
    {result : BatchResult} :
    runTask dense patience maxSteps task = .ok result ↔
      ∃ report, Kernel.simulate dense patience maxSteps task.cells task.lo task.hi task.head =
        .ok report ∧ resultOfReport task.a task.b report = .ok result := by
  rw [runTask]
  cases Kernel.simulate dense patience maxSteps task.cells task.lo task.hi task.head with
  | error error => cases error <;> simp
  | ok report => simp

/-- A task on a board has a result if the kernel's run on the board ends within the patience. -/
theorem runTask_board_eq_ok {dense : Dense} {patience : Nat} {maxSteps a b : Int} {board : Board}
    {result : BatchResult} :
    runTask dense patience maxSteps (board.task a b) = .ok result ↔
      ∃ report tape,
        (board.kernel 0 0).run dense ((kernelLimit maxSteps).budget patience) = .ok report ∧
        ¬(kernelLimit maxSteps = .unlimited ∧ report.status = .stepLimit) ∧
        decodeCells report.window = .ok tape ∧ result = report.taskResult a b tape := by
  simp only [runTask_eq_ok, Kernel.simulate_eq_ok, resultOfReport_eq_ok, exists_and_left, and_assoc]
  rfl

/-- The kernel has a report on every board, and its window is a tape. -/
theorem Board.exists_report (table : Table) (board : Board) (budget : Nat) :
    ∃ report tape, (board.kernel 0 0).run table.dense budget = .ok report ∧
      decodeCells report.window = .ok tape ∧
      report.Describes table (board.machine Table.startState 0) budget := by
  obtain ⟨report, ends, described⟩ := board.run_kernel table.states_zero 0 budget
  suffices shown : ∃ tape, decodeCells report.window = .ok tape by
    obtain ⟨tape, decoded⟩ := shown
    exact ⟨report, tape, ends, decoded, described⟩
  by_cases overflown : report.status = .tapeOverflow
  · obtain ⟨applied, -, exceeded⟩ := described.exceeded overflown
    obtain ⟨live, decoded, -⟩ := exceeded.blank
    exact ⟨live, decoded⟩
  · exact ⟨_, (described.matched overflown).cells⟩

/-- Running a prepared task fails only for want of patience. -/
theorem runTask_eq_error {table : Table} {patience : Nat} {maxSteps a b : Int} {board : Board}
    {error : BatchError} (failed : runTask table.dense patience maxSteps (board.task a b) = .error error) :
    error = .unfinished := by
  obtain ⟨report, tape, ends, decoded, -⟩ :=
    board.exists_report table ((kernelLimit maxSteps).budget patience)
  rw [Board.kernel] at ends
  simp only [runTask, Kernel.simulate, Board.task, ends] at failed
  split at failed
  · next fault faulty =>
    split at faulty <;> cases faulty
  · exact (Except.error.inj failed).symm
  · next simulated =>
    split at simulated
    · cases simulated
    · cases simulated
      rw [resultOfReport, decoded] at failed
      cases failed

/-! ### A batch, task by task -/

/-- Prepare one task and run it. -/
def evaluateTask (dense : Dense) (patience : Nat) (maxSteps tapeSize : Int) (task : Int × Int) :
    Except BatchError BatchResult :=
  prepareTask tapeSize task >>= runTask dense patience maxSteps

/-- A task that has a result fitted its buffer, and the result is that of the kernel on its board. -/
theorem evaluateTask_eq_ok {dense : Dense} {patience size : Nat} {maxSteps : Int} {task : Int × Int}
    {result : BatchResult} (evaluated : evaluateTask dense patience maxSteps size task = .ok result) :
    ∃ a b : Nat, 0 < b ∧ task = (((a + 1 : Nat) : Int), (b : Int)) ∧
      size / 2 + (a + 1 + b + 3) ≤ size ∧
      runTask dense patience maxSteps
        ((taskBoard (size / 2) (marginBehind size a b) a b).task (a + 1 : Nat) b) = .ok result := by
  obtain ⟨prepared, ready, ran⟩ := Except.bind_eq_ok.mp evaluated
  obtain ⟨a, b, positive, rfl, room, rfl⟩ := prepareTask_eq_ok ready
  exact ⟨a, b, positive, rfl, room, ran⟩

/-- A batch has results if its buffers can be made and each of its tasks has a result. -/
theorem evaluateBatch_eq_ok {dense : Dense} {patience : Nat} {tasks : List (Int × Int)}
    {maxSteps tapeSize : Int} {results : List BatchResult} :
    evaluateBatch dense patience tasks maxSteps tapeSize = .ok results ↔
      0 ≤ tapeSize ∧ List.Forall₂
        (fun task result => evaluateTask dense patience maxSteps tapeSize task = .ok result)
        tasks results := by
  simp only [evaluateTask, ← Except.mapM_mapM_eq_ok]
  by_cases negative : tapeSize < 0
  · refine iff_of_false ?_ (by omega)
    simp [evaluateBatch, negative, throw, throwThe, MonadExceptOf.throw, bind, Except.bind]
  · rw [evaluateBatch, if_neg negative]
    exact (and_iff_right (Int.not_lt.mp negative)).symm

/-- The error of a batch whose buffers can be made is that of one of its tasks. -/
theorem evaluateBatch_eq_error {dense : Dense} {patience : Nat} {tasks : List (Int × Int)}
    {maxSteps tapeSize : Int} {error : BatchError} (possible : 0 ≤ tapeSize)
    (failed : evaluateBatch dense patience tasks maxSteps tapeSize = .error error) :
    ∃ task ∈ tasks, evaluateTask dense patience maxSteps tapeSize task = .error error := by
  rw [evaluateBatch, if_neg (Int.not_lt.mpr possible)] at failed
  cases ready : tasks.mapM (prepareTask tapeSize) with
  | error cause =>
      obtain ⟨task, member, refused⟩ := Except.mapM_eq_error ready
      rw [ready] at failed
      cases failed
      refine ⟨task, member, ?_⟩
      rw [evaluateTask, refused]
      rfl
  | ok prepared =>
      rw [ready] at failed
      obtain ⟨one, isPrepared, stopped⟩ := Except.mapM_eq_error failed
      have each := (List.forall₂_and_left tasks prepared).mpr
        ⟨fun task member => member, Except.mapM_eq_ok.mp ready⟩
      obtain ⟨task, member, prepares⟩ := exists_forall₂.mp ⟨tasks, each.flip⟩ one isPrepared
      refine ⟨task, member, ?_⟩
      rw [evaluateTask, prepares]
      exact stopped

/-- A task that has a result within some patience has one within any other, unless that is too little. -/
theorem evaluateTask_eq_error {table : Table} {patience larger : Nat} {maxSteps tapeSize : Int}
    (possible : 0 ≤ tapeSize) {task : Int × Int} {result : BatchResult} {error : BatchError}
    (evaluated : evaluateTask table.dense larger maxSteps tapeSize task = .ok result)
    (failed : evaluateTask table.dense patience maxSteps tapeSize task = .error error) :
    error = .unfinished := by
  obtain ⟨size, rfl⟩ := Int.eq_ofNat_of_zero_le possible
  obtain ⟨prepared, ready, -⟩ := Except.bind_eq_ok.mp evaluated
  obtain ⟨a, b, -, -, -, rfl⟩ := prepareTask_eq_ok ready
  rw [evaluateTask, ready] at failed
  exact runTask_eq_error failed

/-- A batch of one task has the result of the task, or its error. -/
theorem evaluateBatch_singleton (dense : Dense) (patience size : Nat) (maxSteps : Int)
    (task : Int × Int) :
    evaluateBatch dense patience [task] maxSteps size =
      (evaluateTask dense patience maxSteps size task).map fun result => [result] := by
  have possible : ¬(size : Int) < 0 := by omega
  rw [evaluateBatch, if_neg possible, evaluateTask]
  simp only [List.mapM_cons, List.mapM_nil]
  cases prepareTask size task with
  | error error => rfl
  | ok prepared =>
      simp only [bind, Except.bind, pure, Except.pure, List.mapM_cons, List.mapM_nil]
      cases runTask dense patience maxSteps prepared with
      | error error => rfl
      | ok result => rfl

end TapeMultiplier
