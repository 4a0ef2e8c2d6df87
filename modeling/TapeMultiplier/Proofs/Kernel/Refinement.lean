/-
Module: TapeMultiplier.Proofs.Kernel.Refinement
Layer: Proofs
Purpose: The integer kernel refines the step-by-step machine.  On a common board both take the same steps,
  so a kernel's report tells how the machine's run ends, and where the kernel runs out of buffer, the
  machine stands on the blank for which there was no cell.
Main exports: Report.Matches, Report.Exceeded, Board.run_kernel, Board.exists_board, simulate_refines
-/
import TapeMultiplier.Proofs.Kernel.Board
import TapeMultiplier.Proofs.Machine.Run
import TapeMultiplier.Proofs.Tape

namespace TapeMultiplier

/-! ### Cells and letters -/

/-- The column of a letter names the letter. -/
theorem symbolOfCell?_index (symbol : Symbol) :
    symbolOfCell? (symbol.index : Int) = some symbol := by
  cases symbol <;> rfl

/-- The columns of letters are decoded to the characters of the letters. -/
theorem decodeCells_columns (symbols : List Symbol) :
    decodeCells (columns symbols) = .ok (symbols.map Symbol.char) := by
  induction symbols with
  | nil => rfl
  | cons symbol rest ih =>
      simp only [decodeCells, columns] at ih
      simp only [decodeCells, columns, List.map_cons, List.mapM_cons, symbolOfCell?_index, ih]
      rfl

/-- Numbers from 0 to 5 are columns of letters. -/
theorem exists_columns {values : List Int} (letters : ∀ value ∈ values, 0 ≤ value ∧ value ≤ 5) :
    ∃ symbols, columns symbols = values := by
  induction values with
  | nil => exact ⟨[], rfl⟩
  | cons value rest ih =>
      obtain ⟨lower, upper⟩ := letters value List.mem_cons_self
      obtain ⟨symbols, equal⟩ := ih fun other member => letters other (List.mem_cons_of_mem value member)
      obtain ⟨symbol, column⟩ : ∃ symbol : Symbol, (symbol.index : Int) = value := by
        have listed : value = 0 ∨ value = 1 ∨ value = 2 ∨ value = 3 ∨ value = 4 ∨ value = 5 := by omega
        rcases listed with rfl | rfl | rfl | rfl | rfl | rfl
        · exact ⟨.number, rfl⟩
        · exact ⟨.split, rfl⟩
        · exact ⟨.replacedZero, rfl⟩
        · exact ⟨.replacedOne, rfl⟩
        · exact ⟨.blank, rfl⟩
        · exact ⟨.calculation, rfl⟩
      exact ⟨symbol :: symbols, by rw [← column, ← equal]; rfl⟩

/-! ### What a report says of a machine -/

namespace Report

/-- The report describes a machine: steps, tape and head agree, and the machine has halted if and only if
the report says so. -/
structure Matches (report : Report) (m : Machine) : Prop where
  steps : m.steps = report.steps
  halted : m.halted = true ↔ report.status = .halted
  cells : decodeCells report.window = .ok m.tape.cells
  head : (m.tape.head : Int) = report.head - report.lo

/-- The report describes a machine up to one cell that the buffer did not have: the machine's tape is the
window with a blank added on the side where the head left it, and the head is on that blank. -/
structure Exceeded (report : Report) (m : Machine) : Prop where
  steps : m.steps = report.steps
  running : m.halted = false
  blank : ∃ live, decodeCells report.window = .ok live ∧
    ((report.hi : Int) ≤ report.head ∧ m.tape.cells = live ++ [Symbol.blank.char] ∧
        m.tape.head = live.length ∨
      report.head < report.lo ∧ m.tape.cells = Symbol.blank.char :: live ∧ m.tape.head = 0)

/-- The report tells how a run of the machine with a budget ends. -/
def Describes (report : Report) (table : Table) (m : Machine) (budget : Nat) : Prop :=
  match report.status with
  | .tapeOverflow =>
      ∃ applied, report.steps = m.steps + applied ∧ report.Exceeded (m.run table applied)
  | _ => report.Matches (m.run table budget)

/-- Unless the buffer was used up, the end of the run matches. -/
theorem Describes.matched {report : Report} {table : Table} {m : Machine} {budget : Nat}
    (described : report.Describes table m budget) (contained : report.status ≠ .tapeOverflow) :
    report.Matches (m.run table budget) := by
  unfold Describes at described
  split at described
  · contradiction
  · exact described

/-- If the buffer was used up, the machine has exceeded it with the last step that was counted. -/
theorem Describes.exceeded {report : Report} {table : Table} {m : Machine} {budget : Nat}
    (described : report.Describes table m budget) (overflown : report.status = .tapeOverflow) :
    ∃ applied, report.steps = m.steps + applied ∧ report.Exceeded (m.run table applied) := by
  simpa only [Describes, overflown] using described

/-- What describes the run after a transition describes the run that starts with it. -/
theorem describes_of_apply {report : Report} {table : Table} {m : Machine} {t : Transition}
    {budget : Nat} (running : m.halted = false) (found : table.lookup m.state m.read = some t)
    (described : report.Describes table (m.apply t) budget) :
    report.Describes table m (budget + 1) := by
  unfold Describes at described ⊢
  cases status : report.status with
  | tapeOverflow =>
      simp only [status] at described ⊢
      obtain ⟨count, counted, exceeded⟩ := described
      refine ⟨count + 1, ?_, ?_⟩
      · rw [counted, Machine.apply, Nat.add_assoc, Nat.add_comm 1]
      · rw [Machine.run_succ_of_lookup running found]
        exact exceeded
  | halted =>
      simp only [status] at described ⊢
      rw [Machine.run_succ_of_lookup running found]
      exact described
  | stepLimit =>
      simp only [status] at described ⊢
      rw [Machine.run_succ_of_lookup running found]
      exact described

end Report

namespace Board

/-- The machine at work on the board. -/
def machine (board : Board) (state : String) (steps : Nat) : Machine :=
  { state, tape := board.tape, steps, halted := false }

/-- The characters of the tape are those of the letters. -/
theorem cells_tape (board : Board) : board.tape.cells = board.symbols.map Symbol.char := by
  simp [tape, Tape.cells, symbols]

/-- A move on the board is a move on the tape. -/
theorem tape_move {board moved : Board} {direction : Direction}
    (moves : board.move direction = some moved) : board.tape.move direction = moved.tape := by
  cases moves_of_move moves with
  | left | widerLeft | right | widerRight => rfl

/-- A report of the kernel on a board shows the tape of the machine on it. -/
theorem decode_window (board : Board) (state steps : Nat) (status : Status) :
    decodeCells ((board.kernel state steps).report status).window = .ok board.tape.cells := by
  have window := board.window_eq
  rw [cells_tape, ← decodeCells_columns, ← window]
  rfl

/-- A report of the kernel on a board describes a machine with the tape of the board. -/
theorem matches_report {board : Board} {steps : Nat} {status : Status} {m : Machine} (row : Nat)
    (shown : m.tape = board.tape) (counted : m.steps = steps)
    (halted : m.halted = true ↔ status = .halted) :
    ((board.kernel row steps).report status).Matches m where
  steps := counted
  halted := halted
  cells := by rw [shown, decode_window]
  head := by
    rw [shown]
    simp only [tape, Tape.head, Kernel.report, kernel, head, List.length_map]
    omega

/-- Where the board has no cell left, the tape grows by the blank that is missing. -/
theorem exceeded_of_overflow {board : Board} {direction : Direction} {m : Machine} {steps : Nat}
    (full : board.move direction = none) (moved : m.tape = board.tape.move direction)
    (counted : m.steps = steps) (running : m.halted = false) :
    (board.overflow direction steps).Exceeded m := by
  have shown : decodeCells (board.overflow direction steps).window = .ok board.tape.cells :=
    board.decode_window 0 steps .tapeOverflow
  refine ⟨counted, running, board.tape.cells, shown, ?_⟩
  rw [moved]
  cases direction with
  | left =>
      obtain ⟨first, used⟩ := full_of_move full
      refine Or.inr ⟨?_, Tape.cells_move_left (by rw [tape, first]; rfl)⟩
      simp [overflow, leaving, Kernel.report, Direction.offset, head, first, used]
  | right =>
      obtain ⟨last, -⟩ := full_of_move full
      refine Or.inl ⟨?_, Tape.cells_move_right (by rw [tape, last]; rfl)⟩
      simp [overflow, leaving, Kernel.report, Direction.offset, hi, last]

/-- Kernel and machine on one board: the kernel meets no fault, and its report describes the run of the
machine. -/
theorem run_kernel {table : Table} (board : Board) {row : Nat} {state : String}
    (numbered : table.states[row]? = some state) (steps budget : Nat) :
    ∃ report, (board.kernel row steps).run table.dense budget = .ok report ∧
      report.Describes table (board.machine state steps) budget := by
  induction budget generalizing board row state steps with
  | zero =>
      refine ⟨(board.kernel row steps).report .stepLimit, rfl, ?_⟩
      exact matches_report row rfl rfl (by simp [machine, Machine.run])
  | succ budget ih =>
      obtain ⟨progress, stepped, made⟩ := exists_steps board steps numbered
      rw [Kernel.run, stepped]
      cases made with
      | halts stuck =>
          refine ⟨(board.kernel row steps).report .halted, rfl, ?_⟩
          show Report.Matches _ ((board.machine state steps).run table (budget + 1))
          rw [Machine.run_succ_of_stuck rfl stuck]
          exact matches_report row rfl rfl (by simp)
      | @overflows t found full =>
          -- The buffer is used up: the machine takes this one step more.
          refine ⟨(board.write t.write).overflow t.move (steps + 1), rfl, 1, rfl, ?_⟩
          rw [Machine.run_succ_of_lookup rfl found]
          exact exceeded_of_overflow full rfl rfl rfl
      | @goesOn t moved found moves =>
          have same : (board.machine state steps).apply t = moved.machine t.target (steps + 1) := by
            simp only [Machine.apply, machine, ← tape_move moves]
            rfl
          obtain ⟨report, ends, described⟩ := ih moved (Table.states_idxOf_target found) (steps + 1)
          rw [← same] at described
          exact ⟨report, ends, Report.describes_of_apply rfl found described⟩

/-- Every window of letters with a head on it is a board. -/
theorem exists_board {cells : Cells} {lo hi head : Nat} (lower : lo ≤ head) (upper : head < hi)
    (inside : hi ≤ cells.size)
    (letters : ∀ value ∈ (cells.extract lo hi).toList, 0 ≤ value ∧ value ≤ 5) :
    ∃ board : Board, board.buffer.toArray = cells ∧ board.below.length = lo ∧ board.hi = hi ∧
      board.head = head := by
  obtain ⟨symbols, window⟩ := exists_columns letters
  have width : symbols.length = hi - lo := by
    have same := congrArg List.length window
    simp only [columns, List.length_map, Array.toList_extract, List.extract_eq_take_drop,
      List.length_take, List.length_drop, Array.length_toList] at same
    omega
  have onWindow : head - lo < symbols.length := by omega
  have around : symbols = symbols.take (head - lo) ++
      symbols[head - lo] :: symbols.drop (head - lo + 1) := by
    rw [← List.drop_eq_getElem_cons onWindow, List.take_append_drop]
  have split : cells.toList = cells.toList.take lo ++ (cells.extract lo hi).toList ++
      cells.toList.drop hi := by
    have rest : cells.toList.drop hi = (cells.toList.drop lo).drop (hi - lo) := by
      rw [List.drop_drop, Nat.add_sub_cancel' (by omega)]
    rw [Array.toList_extract, List.extract_eq_take_drop, List.append_assoc, rest,
      List.take_append_drop, List.take_append_drop]
  refine ⟨⟨(cells.toList.take lo).reverse, (symbols.take (head - lo)).reverse, symbols[head - lo],
    symbols.drop (head - lo + 1), cells.toList.drop hi⟩, ?_, ?_, ?_, ?_⟩
  · rw [buffer, Board.symbols]
    simp only [List.reverse_reverse]
    rw [← around, window, ← split]
  · simp
    omega
  · simp [Board.hi, Board.head]
    omega
  · simp [Board.head]
    omega

end Board

/-- The kernel refines the machine.  Let the live cells of a buffer be columns of letters and the head be
on one of them.  Then the kernel meets no fault.  If it halts or comes to its limit, so does the machine on
the decoded window, with the same steps, tape and head.  If it runs out of buffer after some steps, the
machine after exactly these steps stands on the blank for which there was no cell. -/
theorem simulate_refines (table : Table) (patience : Nat) (maxSteps : Int) (cells : Cells)
    (lo hi head : Nat) (lower : lo ≤ head) (upper : head < hi) (inside : hi ≤ cells.size)
    (letters : ∀ value ∈ (cells.extract lo hi).toList, 0 ≤ value ∧ value ≤ 5) :
    ∃ live m, decodeCells (cells.extract lo hi).toList = .ok live ∧
      Machine.start live ((head : Int) - lo) Table.startState = .ok m ∧
      (∀ fault, Kernel.simulate table.dense patience maxSteps cells lo hi head ≠
        .error (.fault fault)) ∧
      ∀ report, Kernel.simulate table.dense patience maxSteps cells lo hi head = .ok report →
        (report.status = .tapeOverflow → report.Exceeded (m.run table report.steps)) ∧
        (report.status ≠ .tapeOverflow →
          ∃ final, m.runLimited table patience (kernelLimit maxSteps) = some final ∧
            report.Matches final) := by
  obtain ⟨board, rfl, rfl, rfl, rfl⟩ := Board.exists_board lower upper inside letters
  have distance : (board.head : Int) - (board.below.length : Int) = board.tape.head := by
    simp only [Board.head, Board.tape, Tape.head, List.length_map]
    omega
  have started : Machine.start board.tape.cells ((board.head : Int) - (board.below.length : Int))
      Table.startState = .ok (board.machine Table.startState 0) := by
    rw [distance, Machine.start, Tape.ofCells?_cells]
    rfl
  have decoded : decodeCells (board.buffer.toArray.extract board.below.length board.hi).toList =
      .ok board.tape.cells := by
    rw [Board.window_eq, decodeCells_columns, Board.cells_tape]
  obtain ⟨found, ends, described⟩ :=
    board.run_kernel table.states_zero 0 ((kernelLimit maxSteps).budget patience)
  have answer : Kernel.simulate table.dense patience maxSteps board.buffer.toArray
      board.below.length board.hi board.head =
        if kernelLimit maxSteps = .unlimited ∧ found.status = .stepLimit then .error .unfinished
        else .ok found := by
    rw [Board.kernel] at ends
    simp only [Kernel.simulate, ends]
  refine ⟨_, _, decoded, started, ?_, ?_⟩
  · intro fault
    rw [answer]
    split <;> simp
  · intro report simulated
    rw [answer] at simulated
    split at simulated
    · cases simulated
    · next finished =>
      cases simulated
      constructor
      · intro overflown
        simp only [Report.Describes, overflown] at described
        obtain ⟨applied, counted, exceeded⟩ := described
        simpa [counted, Board.machine] using exceeded
      · intro contained
        have matched : found.Matches ((board.machine Table.startState 0).run table
            ((kernelLimit maxSteps).budget patience)) := by
          unfold Report.Describes at described
          split at described
          · contradiction
          · exact described
        refine ⟨_, Machine.runLimited_of_ends rfl ?_, matched⟩
        intro unlimited
        rw [matched.halted]
        cases status : found.status with
        | halted => rfl
        | stepLimit => exact absurd ⟨unlimited, status⟩ finished
        | tapeOverflow => exact absurd status contained

/-- A program that walks to the right over zeros. -/
def rightWalk : Table :=
  ⟨[{ source := "q0", read := .number, target := "q0", write := .number, move := .right }]⟩

/-- On one live cell at the end of a buffer the walk leaves the buffer with its first step. -/
theorem simulate_refines_rightWalk :
    ∃ m report, Machine.start ['0'] 0 Table.startState = .ok m ∧
      Kernel.simulate rightWalk.dense 0 10 #[9, 0] 1 2 1 = .ok report ∧
      report.status = .tapeOverflow ∧ report.steps = 1 ∧ report.Exceeded (m.run rightWalk 1) := by
  obtain ⟨live, m, decoded, started, -, described⟩ :=
    simulate_refines rightWalk 0 10 #[9, 0] 1 2 1 (by decide) (by decide) (by decide) (by decide)
  have cells : live = ['0'] := by
    cases decoded
    rfl
  subst cells
  have ends : Kernel.simulate rightWalk.dense 0 10 #[9, 0] 1 2 1 =
      .ok { steps := 1, lo := 1, hi := 2, head := 2, status := .tapeOverflow, cells := #[9, 0] } := by
    rfl
  obtain ⟨exceeded, -⟩ := described _ ends
  exact ⟨m, _, started, ends, rfl, rfl, exceeded rfl⟩

end TapeMultiplier
