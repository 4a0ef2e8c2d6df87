/-
Module: TapeMultiplier.Proofs.Kernel.Bounds
Layer: Proofs
Purpose: The kernel accesses no cell, row or column that is not there, and it changes nothing outside the
  window that it leaves behind.  Every kernel at which a run arrives is at work on a board, and the boards
  of a run only use up cells of the first one.
Main exports: Kernel.ComesTo, Kernel.InBounds, Report.Frames, Board.LeadsTo, Board.exists_board_of_comesTo,
  simulate_inBounds
-/
import TapeMultiplier.Proofs.Batch.Task

namespace TapeMultiplier

/-!
A kernel is given by numbers that could be anything; a board cannot have its head outside its window or
its window outside its buffer.  So it is enough to show that a run that begins on a board stays on boards,
and to compare the unused cells of two boards: they are taken from the near end, one by one.
-/

namespace Kernel

/-- The kernels at which the loop of a run arrives: the one it begins with, and from each of them the one
after a step that does not end the run. -/
inductive ComesTo (dense : Dense) (first : Kernel) : Kernel → Prop where
  | begin : ComesTo dense first first
  | goOn {k next : Kernel} (earlier : ComesTo dense first k) (stepped : k.step dense = .ok (.next next)) :
      ComesTo dense first next

/-- What a step of the kernel accesses is there: the head is on the window and the window in the buffer,
the state has a row, and the cell under the head names a column. -/
structure InBounds (table : Table) (k : Kernel) : Prop where
  above : (k.lo : Int) ≤ k.head
  under : k.head < (k.hi : Int)
  inside : k.hi ≤ k.cells.size
  row : k.state < table.states.length
  column : ∃ value, k.cells[k.head.toNat]? = some value ∧ 0 ≤ value ∧ value ≤ 5

end Kernel

/-- What a report says of the window from `lo` up to `hi` with which its run began. -/
structure Report.Frames (report : Report) (cells : Cells) (lo hi : Nat) : Prop where
  /-- The buffer keeps its size, and the window is only ever widened within it. -/
  size : report.cells.size = cells.size
  lower : report.lo ≤ lo
  upper : hi ≤ report.hi
  inside : report.hi ≤ cells.size
  /-- A step widens the window by one cell at most. -/
  width : report.hi - report.lo ≤ hi - lo + report.steps
  letters : ∀ value ∈ report.window, 0 ≤ value ∧ value ≤ 5
  outside : ∀ place, place < report.lo ∨ report.hi ≤ place → report.cells[place]? = cells[place]?
  /-- The head is on the window unless it has left the buffer. -/
  head : report.status ≠ .tapeOverflow → (report.lo : Int) ≤ report.head ∧ report.head < (report.hi : Int)
  overflow : report.status = .tapeOverflow →
    (report.head = (cells.size : Int) ∧ report.hi = cells.size) ∨ (report.head = -1 ∧ report.lo = 0)

/-! ### The dense program -/

theorem Symbol.index_le (symbol : Symbol) : symbol.index ≤ 5 := by
  cases symbol <;> decide

/-- The columns of letters are the numbers from 0 to 5. -/
theorem bounds_of_mem_columns {symbols : List Symbol} :
    ∀ value ∈ columns symbols, 0 ≤ value ∧ value ≤ 5 := by
  intro value member
  obtain ⟨symbol, -, rfl⟩ := List.mem_map.mp member
  have small := symbol.index_le
  omega

/-! ### The end of a run -/

/-- A run ends at a kernel at which it arrives, because its steps are used up or with the report of the
last step. -/
theorem Kernel.exists_last_of_run {dense : Dense} {budget : Nat} {first k : Kernel} {report : Report}
    (arrived : ComesTo dense first k) (ran : run dense budget k = .ok report) :
    ∃ last, ComesTo dense first last ∧
      (report = last.report .stepLimit ∨ last.step dense = .ok (.done report)) := by
  induction budget generalizing k with
  | zero => exact ⟨k, arrived, Or.inl (Except.ok.inj ran).symm⟩
  | succ budget ih =>
      rw [run] at ran
      cases stepped : k.step dense with
      | error fault =>
          rw [stepped] at ran
          cases ran
      | ok progress =>
          rw [stepped] at ran
          cases progress with
          | done last =>
              obtain rfl := Except.ok.inj ran
              exact ⟨k, arrived, Or.inr stepped⟩
          | next next => exact ih (.goOn arrived stepped) ran

namespace Board

/-! ### The boards of a run -/

/-- A board that a kernel comes to from another one with a number of steps: it has the same buffer size,
and of the unused cells on either side the nearest ones may be gone, one for each step at most. -/
structure LeadsTo (board later : Board) (steps : Nat) : Prop where
  below : later.below <:+ board.below
  beyond : later.beyond <:+ board.beyond
  size : later.buffer.length = board.buffer.length
  used : board.below.length + board.beyond.length ≤
    later.below.length + later.beyond.length + steps

theorem LeadsTo.refl (board : Board) : board.LeadsTo board 0 :=
  ⟨List.suffix_rfl, List.suffix_rfl, rfl, Nat.le_refl _⟩

theorem LeadsTo.trans {first second third : Board} {steps more : Nat}
    (one : first.LeadsTo second steps) (two : second.LeadsTo third more) :
    first.LeadsTo third (steps + more) where
  below := two.below.trans one.below
  beyond := two.beyond.trans one.beyond
  size := two.size.trans one.size
  used := by
    have usedOne := one.used
    have usedTwo := two.used
    omega

/-- Writing uses no cell. -/
theorem leadsTo_write (board : Board) (symbol : Symbol) : board.LeadsTo (board.write symbol) 0 where
  below := List.suffix_rfl
  beyond := List.suffix_rfl
  size := by simp [buffer, symbols, write, columns]
  used := Nat.le_refl _

/-- A move uses one cell at most, the nearest one. -/
theorem leadsTo_of_move {board moved : Board} {direction : Direction}
    (moves : board.move direction = some moved) : board.LeadsTo moved 1 := by
  cases moves_of_move moves with
  | left | right =>
      refine ⟨List.suffix_rfl, List.suffix_rfl, ?_, by simp⟩
      simp [length_buffer, hi, head]
      omega
  | widerLeft =>
      refine ⟨List.suffix_cons _ _, List.suffix_rfl, ?_, by simp; omega⟩
      simp [length_buffer, hi, head]
      omega
  | widerRight =>
      refine ⟨List.suffix_rfl, List.suffix_cons _ _, ?_, by simp; omega⟩
      simp [length_buffer, hi, head]
      omega

/-- A kernel at which a run on a board arrives is at work on a board that the first one leads to. -/
theorem exists_board_of_comesTo {table : Table} (board : Board) {row steps : Nat} {state : String}
    (numbered : table.states[row]? = some state) {k : Kernel}
    (arrives : Kernel.ComesTo table.dense (board.kernel row steps) k) :
    ∃ (later : Board) (laterRow : Nat) (laterState : String) (taken : Nat),
      k = later.kernel laterRow (steps + taken) ∧ table.states[laterRow]? = some laterState ∧
      board.LeadsTo later taken := by
  induction arrives with
  | begin => exact ⟨board, row, state, 0, rfl, numbered, LeadsTo.refl board⟩
  | goOn earlier stepped ih =>
      obtain ⟨later, laterRow, laterState, taken, rfl, numberedLater, leads⟩ := ih
      cases steps_of_step later (steps + taken) numberedLater stepped with
      | @goesOn t moved found moves =>
          refine ⟨moved, _, t.target, taken + 1, rfl, Table.states_idxOf_target found, ?_⟩
          exact leads.trans ((leadsTo_write later t.write).trans (leadsTo_of_move moves))

/-! ### What boards have -/

/-- A kernel at work on a board accesses what is there. -/
theorem inBounds_kernel {table : Table} (board : Board) {row : Nat} {state : String} (steps : Nat)
    (numbered : table.states[row]? = some state) : (board.kernel row steps).InBounds table where
  above := by
    simp only [kernel, head]
    omega
  under := by
    simp only [kernel, hi]
    omega
  inside := by
    simp only [kernel, List.size_toArray, length_buffer]
    omega
  row := (List.getElem?_eq_some_iff.mp numbered).1
  column := by
    refine ⟨(board.current.index : Int), ?_, ?_⟩
    · simp only [kernel, Int.toNat_natCast, List.getElem?_toArray, getElem?_head]
    · have small := board.current.index_le
      omega

/-- A kernel at work on a board makes its step. -/
theorem exists_progress {table : Table} (board : Board) {row : Nat} {state : String} (steps : Nat)
    (numbered : table.states[row]? = some state) :
    ∃ progress, (board.kernel row steps).step table.dense = .ok progress := by
  obtain ⟨progress, stepped, -⟩ := exists_steps board steps numbered
  exact ⟨progress, stepped⟩

/-- The cells outside the later window are those of the earlier buffer. -/
theorem LeadsTo.outside {board later : Board} {steps : Nat} (leads : board.LeadsTo later steps)
    {place : Nat} (apart : place < later.below.length ∨ later.hi ≤ place) :
    later.buffer[place]? = board.buffer[place]? := by
  obtain ⟨usedBelow, below⟩ := leads.below
  obtain ⟨usedBeyond, beyond⟩ := leads.beyond
  rcases apart with before | behind
  · rw [buffer, buffer, ← below, List.reverse_append]
    simp only [List.append_assoc]
    rw [List.getElem?_append_left (by simpa using before),
      List.getElem?_append_left (by simpa using before)]
  · -- Both buffers end with the cells that are still unused, and they are of one length.
    have front : (board.below.reverse ++ columns board.symbols ++ usedBeyond).length = later.hi := by
      have same := leads.size
      rw [length_buffer, length_buffer, ← beyond, List.length_append] at same
      rw [List.length_append, length_front]
      omega
    rw [buffer, buffer, ← beyond, ← List.append_assoc,
      List.getElem?_append_right (by rwa [length_front]),
      List.getElem?_append_right (by rwa [front]), front, length_front]

/-- A report with the buffer and the window of a later board frames the window of the first. -/
theorem LeadsTo.frames {board later : Board} {steps : Nat} (leads : board.LeadsTo later steps)
    {report : Report} (cells : report.cells = later.buffer.toArray)
    (lo : report.lo = later.below.length) (hi : report.hi = later.hi) (counted : steps ≤ report.steps)
    (head : report.status ≠ .tapeOverflow →
      (report.lo : Int) ≤ report.head ∧ report.head < (report.hi : Int))
    (overflow : report.status = .tapeOverflow →
      (report.head = (later.buffer.length : Int) ∧ report.hi = later.buffer.length) ∨
        (report.head = -1 ∧ report.lo = 0)) :
    report.Frames board.buffer.toArray board.below.length board.hi := by
  have same := leads.size
  have whole := board.length_buffer
  have wholeLater := later.length_buffer
  have used := leads.used
  have fewerBelow := leads.below.length_le
  have fewerBeyond := leads.beyond.length_le
  constructor
  · rw [cells]
    simpa using same
  · rw [lo]
    exact fewerBelow
  · rw [hi]
    omega
  · rw [hi]
    simp only [List.size_toArray]
    omega
  · rw [hi, lo]
    omega
  · rw [Report.window, cells, lo, hi, window_eq]
    exact bounds_of_mem_columns
  · intro place apart
    rw [lo, hi] at apart
    rw [cells, List.getElem?_toArray, List.getElem?_toArray]
    exact leads.outside apart
  · exact head
  · rw [List.size_toArray, ← same]
    exact overflow

/-- The report of a kernel that leaves its buffer says where. -/
theorem head_overflow {board : Board} {direction : Direction} (full : board.move direction = none)
    (steps : Nat) :
    ((board.overflow direction steps).head = (board.buffer.length : Int) ∧
        board.hi = board.buffer.length) ∨
      ((board.overflow direction steps).head = -1 ∧ board.below.length = 0) := by
  cases direction with
  | left =>
      obtain ⟨first, used⟩ := full_of_move full
      refine Or.inr ⟨?_, List.length_eq_zero_iff.mpr used⟩
      simp [overflow, leaving, Kernel.report, Direction.offset, head, first, used]
  | right =>
      obtain ⟨last, used⟩ := full_of_move full
      have whole : board.buffer.length = board.hi := by rw [length_buffer, used, List.length_nil, Nat.add_zero]
      refine Or.inl ⟨?_, whole.symm⟩
      rw [whole, hi, last]
      rfl

/-- What a run on a board reports frames the window of the board. -/
theorem frames_of_run {table : Table} (board : Board) {row steps budget : Nat} {state : String}
    (numbered : table.states[row]? = some state) {report : Report}
    (ran : (board.kernel row steps).run table.dense budget = .ok report) :
    report.Frames board.buffer.toArray board.below.length board.hi := by
  obtain ⟨last, arrives, ends⟩ := Kernel.exists_last_of_run .begin ran
  obtain ⟨later, laterRow, laterState, taken, rfl, numberedLater, leads⟩ :=
    board.exists_board_of_comesTo numbered arrives
  have within := later.inBounds_kernel (steps + taken) numberedLater
  rcases ends with rfl | ended
  · exact leads.frames rfl rfl rfl (Nat.le_add_left _ _) (fun _ => ⟨within.above, within.under⟩)
      Status.noConfusion
  · cases steps_of_step later (steps + taken) numberedLater ended with
    | halts stuck =>
        exact leads.frames rfl rfl rfl (Nat.le_add_left _ _)
          (fun _ => ⟨within.above, within.under⟩) Status.noConfusion
    | @overflows t found full =>
        have written := leads.trans (leadsTo_write later t.write)
        refine written.frames rfl rfl rfl ?_ (fun contained => absurd rfl contained) fun _ => ?_
        · show taken + 0 ≤ steps + taken + 1
          omega
        · exact head_overflow full (steps + taken + 1)

end Board

/-- The kernel needs no bounds checks.  Let the live cells of a buffer be columns of letters and the head
be on one of them.  Whatever the program, every kernel at which the loop arrives accesses what is there
and makes its step; a run with a limit returns.  Whenever it returns, the window has been widened within
the buffer by one cell for each step at most, it holds columns of letters, the cells outside it are as they
were, and the head is on it or, where the buffer was used up, next to the buffer. -/
theorem simulate_inBounds (table : Table) (maxSteps : Int) (cells : Cells) (lo hi head : Nat)
    (lower : lo ≤ head) (upper : head < hi) (inside : hi ≤ cells.size)
    (letters : ∀ value ∈ (cells.extract lo hi).toList, 0 ≤ value ∧ value ≤ 5) :
    (∀ k, Kernel.ComesTo table.dense { cells, lo, hi, head, state := 0, steps := 0 } k →
      k.InBounds table ∧ ∃ progress, k.step table.dense = .ok progress) ∧
    (0 ≤ maxSteps → ∀ patience, ∃ report,
      Kernel.simulate table.dense patience maxSteps cells lo hi head = .ok report) ∧
    ∀ patience report, Kernel.simulate table.dense patience maxSteps cells lo hi head = .ok report →
      report.Frames cells lo hi := by
  obtain ⟨board, rfl, rfl, rfl, rfl⟩ := Board.exists_board lower upper inside letters
  refine ⟨?_, ?_, ?_⟩
  · intro k arrives
    obtain ⟨later, row, state, taken, rfl, numbered, -⟩ :=
      board.exists_board_of_comesTo table.states_zero arrives
    exact ⟨later.inBounds_kernel _ numbered, later.exists_progress _ numbered⟩
  · intro limited patience
    obtain ⟨report, ran, -⟩ :=
      board.run_kernel table.states_zero 0 ((kernelLimit maxSteps).budget patience)
    refine ⟨report, Kernel.simulate_eq_ok.mpr ⟨ran, ?_⟩⟩
    rw [kernelLimit, if_neg (by omega)]
    rintro ⟨⟨⟩, -⟩
  · intro patience report simulated
    exact board.frames_of_run table.states_zero (Kernel.simulate_eq_ok.mp simulated).1

/-- The walk over a single zero takes the cell behind it into the window; what stood there, no letter at
all, is gone, and what stands before the window is not. -/
theorem simulate_inBounds_rightWalk :
    ∃ report, Kernel.simulate rightWalk.dense 0 10 #[9, 0, 9] 1 2 1 = .ok report ∧
      report.status = .halted ∧ report.steps = 1 ∧ report.hi = 3 ∧ report.Frames #[9, 0, 9] 1 2 := by
  obtain ⟨-, returns, framed⟩ :=
    simulate_inBounds rightWalk 10 #[9, 0, 9] 1 2 1 (by decide) (by decide) (by decide) (by decide)
  obtain ⟨report, simulated⟩ := returns (by decide) 0
  have same : Kernel.simulate rightWalk.dense 0 10 #[9, 0, 9] 1 2 1 =
      .ok { steps := 1, lo := 1, hi := 3, head := 2, status := .halted, cells := #[9, 0, 4] } := by
    rfl
  have frames := framed 0 report simulated
  obtain rfl := Except.ok.inj (simulated.symm.trans same)
  exact ⟨_, simulated, rfl, rfl, rfl, frames⟩

end TapeMultiplier
