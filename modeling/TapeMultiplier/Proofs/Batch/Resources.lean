/-
Module: TapeMultiplier.Proofs.Batch.Resources
Layer: Proofs
Purpose: More room and more steps change no answer.  A larger buffer moves the starting tape and both ends of
  the buffer, but a task that stays within its buffer comes to the same result in every larger one; and a
  task that is done before its limit comes to the same result under every larger limit and without one.
Main exports: Board.contained_of_room, evaluateTask_of_room, evaluateTask_of_budget,
  evaluateBatch_stable
-/
import TapeMultiplier.Proofs.Batch.Patience
import TapeMultiplier.Proofs.Kernel.Room

namespace TapeMultiplier

/-! ### One task on its board -/

/-- A task with positive factors whose starting tape fits is evaluated on its board. -/
theorem evaluateTask_eq_runTask (dense : Dense) (patience : Nat) (maxSteps : Int) {size a b : Nat}
    (positive : 0 < b) (room : size / 2 + (a + 1 + b + 3) ≤ size) :
    evaluateTask dense patience maxSteps size ((a + 1 : Nat), b) =
      runTask dense patience maxSteps
        ((taskBoard (size / 2) (marginBehind size a b) a b).task (a + 1 : Nat) b) := by
  rw [evaluateTask, prepareTask_eq size a b positive, if_neg (Nat.not_lt.mpr room)]
  rfl

/-- A batch of one task has the one result of the task. -/
theorem evaluateBatch_singleton_eq_ok {dense : Dense} {patience : Nat} {task : Int × Int}
    {maxSteps tapeSize : Int} {result : BatchResult} :
    evaluateBatch dense patience [task] maxSteps tapeSize = .ok [result] ↔
      0 ≤ tapeSize ∧ evaluateTask dense patience maxSteps tapeSize task = .ok result := by
  simp [evaluateBatch_eq_ok]

/-! ### More room -/

/-- A larger buffer has more room on both sides of the starting tape. -/
theorem room_taskBoard_le {size larger : Nat} (roomier : size ≤ larger) (a b : Nat)
    (fits : size / 2 + (a + 1 + b + 3) ≤ size) (side : Direction) :
    (taskBoard (size / 2) (marginBehind size a b) a b).room side ≤
      (taskBoard (larger / 2) (marginBehind larger a b) a b).room side := by
  cases side with
  | left =>
      simp only [Board.room, taskBoard, List.length_replicate]
      omega
  | right =>
      simp only [Board.room, taskBoard, List.length_replicate, marginBehind]
      omega

/-- A kernel that has room for the cells that the machine adds does not run out of buffer. -/
theorem Board.contained_of_room {table : Table} {board : Board} {row : Nat} {state : String}
    (numbered : table.states[row]? = some state) {steps budget : Nat} {report : Report}
    (ran : (board.kernel row steps).run table.dense budget = .ok report)
    (fits : ∀ side, (board.machine state steps).growth table side budget ≤ board.room side) :
    report.status ≠ .tapeOverflow := by
  rcases board.run_room numbered steps budget ran with
    ⟨-, side, applied, within, -, beyond⟩ | ⟨contained, -⟩
  · -- The growth so far is at most the growth of the whole run, for which there is room.
    have soFar := Machine.growth_mono table side (board.machine state steps) within
    have whole := fits side
    simp only [beyond] at soFar
    omega
  · exact contained

/-- Reports that match one machine, neither of which is an overflow, have the same status. -/
theorem Report.Matches.status_eq {report other : Report} {m : Machine} (matched : report.Matches m)
    (otherMatched : other.Matches m) (contained : report.status ≠ .tapeOverflow)
    (otherContained : other.status ≠ .tapeOverflow) : other.status = report.status := by
  have halted := matched.halted
  rw [otherMatched.halted] at halted
  cases status : report.status <;> cases otherStatus : other.status <;> simp_all

/-- A task that stays within its buffer has the same result in a larger one. -/
theorem evaluateTask_of_room {table : Table} {patience size larger : Nat} {maxSteps : Int}
    {task : Int × Int} {result : BatchResult} (roomier : size ≤ larger)
    (evaluated : evaluateTask table.dense patience maxSteps size task = .ok result)
    (contained : result.status ≠ .tapeOverflow) :
    evaluateTask table.dense patience maxSteps larger task = .ok result := by
  obtain ⟨a, b, positive, rfl, fits, ran⟩ := evaluateTask_eq_ok evaluated
  obtain ⟨report, tape, ends, finished, decoded, rfl⟩ := runTask_board_eq_ok.mp ran
  have fitsLarger : larger / 2 + (a + 1 + b + 3) ≤ larger := by omega
  rw [evaluateTask_eq_runTask _ _ _ positive fitsLarger, runTask_board_eq_ok]
  -- The machine on both boards is the same one, so what it adds in the one it adds in the other.
  obtain ⟨final, answered, matched⟩ := Board.exists_runLimited ends finished contained
  obtain ⟨stops, -⟩ := Machine.ends_of_runLimited answered
  obtain ⟨wide, wideTape, wideEnds, wideDecoded, described⟩ :=
    (taskBoard (larger / 2) (marginBehind larger a b) a b).exists_report table
      ((kernelLimit maxSteps).budget patience)
  have wideContained : wide.status ≠ .tapeOverflow := by
    refine Board.contained_of_room table.states_zero wideEnds fun side => ?_
    rcases Board.run_room _ table.states_zero 0 _ ends with ⟨overflown, -⟩ | ⟨-, grown⟩
    · exact absurd overflown contained
    · exact (grown side).trans (room_taskBoard_le roomier a b fits side)
  have wideMatched : wide.Matches final := by
    rw [← stops]
    exact described.matched wideContained
  have sameStatus := matched.status_eq wideMatched contained wideContained
  refine ⟨wide, wideTape, wideEnds, ?_, wideDecoded, ?_⟩
  · rw [sameStatus]
    exact finished
  · rw [matched.taskResult_eq contained decoded, wideMatched.taskResult_eq wideContained wideDecoded]

/-! ### More steps -/

/-- A task that is done before its budget is used up has the same result with a larger budget. -/
theorem evaluateTask_of_budget {dense : Dense} {patience waits : Nat} {maxSteps longer tapeSize : Int}
    {task : Int × Int} {result : BatchResult}
    (enough : (kernelLimit maxSteps).budget patience ≤ (kernelLimit longer).budget waits)
    (evaluated : evaluateTask dense patience maxSteps tapeSize task = .ok result)
    (done : result.status ≠ .stepLimit) :
    evaluateTask dense waits longer tapeSize task = .ok result := by
  obtain ⟨prepared, ready, ran⟩ := Except.bind_eq_ok.mp evaluated
  obtain ⟨report, simulated, resulted⟩ := runTask_eq_ok.mp ran
  have doneReport : report.status ≠ .stepLimit := by
    obtain ⟨tape, -, rfl⟩ := resultOfReport_eq_ok.mp resulted
    exact done
  obtain ⟨ends, -⟩ := Kernel.simulate_eq_ok.mp simulated
  have again : Kernel.simulate dense waits longer prepared.cells prepared.lo prepared.hi prepared.head =
      .ok report :=
    Kernel.simulate_eq_ok.mpr
      ⟨Kernel.run_of_le enough ends doneReport, fun unfinished => doneReport unfinished.2⟩
  exact Except.bind_eq_ok.mpr ⟨prepared, ready, runTask_eq_ok.mpr ⟨report, again, resulted⟩⟩

/-- A limit that is no smaller leaves no fewer steps. -/
theorem budget_kernelLimit_le {maxSteps longer : Int} (limited : 0 ≤ maxSteps) (more : maxSteps ≤ longer)
    (patience waits : Nat) :
    (kernelLimit maxSteps).budget patience ≤ (kernelLimit longer).budget waits := by
  rw [kernelLimit, if_neg (by omega), kernelLimit, if_neg (by omega)]
  exact Int.toNat_le_toNat more

/-- Without a limit, who waits for as many steps as a limit allows leaves no fewer. -/
theorem budget_kernelLimit_le_of_neg {maxSteps unlimited : Int} (limited : 0 ≤ maxSteps)
    (negative : unlimited < 0) (patience : Nat) {waits : Nat} (waited : maxSteps.toNat ≤ waits) :
    (kernelLimit maxSteps).budget patience ≤ (kernelLimit unlimited).budget waits := by
  rw [kernelLimit, if_neg (by omega), kernelLimit, if_pos negative]
  exact waited

/-! ### Both -/

/-- More room and more steps change no result.  If a task halts or comes to its limit within its buffer, it
has the very same result in every larger buffer.  If a task with a limit halts or runs out of buffer, it has
the very same result under every larger limit, and also without a limit, for everyone who waits for as many
steps as the limit allowed. -/
theorem evaluateBatch_stable (table : Table) (patience : Nat) (a b maxSteps tapeSize : Int)
    (result : BatchResult)
    (evaluated : evaluateBatch table.dense patience [(a, b)] maxSteps tapeSize = .ok [result]) :
    (result.status = .halted ∨ result.status = .stepLimit → ∀ largerSize, tapeSize ≤ largerSize →
      evaluateBatch table.dense patience [(a, b)] maxSteps largerSize = .ok [result]) ∧
    (0 ≤ maxSteps → result.status = .halted ∨ result.status = .tapeOverflow →
      (∀ longer, maxSteps ≤ longer → ∀ waits,
        evaluateBatch table.dense waits [(a, b)] longer tapeSize = .ok [result]) ∧
      ∀ unlimited, unlimited < 0 → ∀ waits, maxSteps.toNat ≤ waits →
        evaluateBatch table.dense waits [(a, b)] unlimited tapeSize = .ok [result]) := by
  simp only [evaluateBatch_singleton_eq_ok] at evaluated ⊢
  obtain ⟨possible, single⟩ := evaluated
  constructor
  · intro status largerSize larger
    have contained : result.status ≠ .tapeOverflow := by
      rcases status with status | status <;> simp [status]
    obtain ⟨size, rfl⟩ := Int.eq_ofNat_of_zero_le possible
    obtain ⟨width, rfl⟩ := Int.eq_ofNat_of_zero_le (possible.trans larger)
    exact ⟨possible.trans larger, evaluateTask_of_room (Int.ofNat_le.mp larger) single contained⟩
  · intro limited status
    have done : result.status ≠ .stepLimit := by
      rcases status with status | status <;> simp [status]
    constructor
    · intro longer more waits
      have enough := budget_kernelLimit_le limited more patience waits
      exact ⟨possible, evaluateTask_of_budget enough single done⟩
    · intro unlimited negative waits waited
      have enough := budget_kernelLimit_le_of_neg limited negative patience waited
      exact ⟨possible, evaluateTask_of_budget enough single done⟩

/-- What the walk to the right comes to on the tape for one times one: it stops at the mark. -/
def walkedResult : BatchResult :=
  { a := 1, b := 1, steps := 1, status := .halted, tape := "_0C0_", product := 3 }

/-- The walk in the smallest buffer that takes it and with a limit, in a wider one, and without a limit. -/
theorem evaluateBatch_stable_rightWalk :
    evaluateBatch rightWalk.dense 0 [(1, 1)] 5 9 = .ok [walkedResult] ∧
      evaluateBatch rightWalk.dense 0 [(1, 1)] 5 1000 = .ok [walkedResult] ∧
      evaluateBatch rightWalk.dense 5 [(1, 1)] (-1) 9 = .ok [walkedResult] := by
  have evaluated : evaluateBatch rightWalk.dense 0 [(1, 1)] 5 9 = .ok [walkedResult] := by
    decide +kernel
  obtain ⟨wider, longer⟩ := evaluateBatch_stable rightWalk 0 1 1 5 9 walkedResult evaluated
  obtain ⟨-, unlimited⟩ := longer (by decide) (Or.inl rfl)
  exact ⟨evaluated, wider (Or.inl rfl) 1000 (by decide), unlimited (-1) (by decide) 5 (by decide)⟩

end TapeMultiplier
