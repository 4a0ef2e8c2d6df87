/-
Module: TapeMultiplier.Proofs.Batch.Reference
Layer: Proofs
Purpose: The two ways to evaluate a batch.  Where the kernel does not run out of buffer, the step-by-step
  machine has the same results, as long as both mean the same by their step limit; zero is no limit for
  the one and the end of the run for the other.
Main exports: Machine.taskResult, Report.Matches.taskResult_eq, referenceTask_eq_ok,
  referenceTask_of_evaluateTask, evaluateReference_eq_ok_iff
-/
import TapeMultiplier.Proofs.Batch.Task
import TapeMultiplier.Proofs.Machine.Growth
import TapeMultiplier.Proofs.Multiplication.Program

namespace TapeMultiplier

/-! ### Results of a machine -/

/-- The result of a task whose run ended in a machine. -/
def Machine.taskResult (m : Machine) (a b : Int) : BatchResult :=
  { a, b
    steps := m.steps
    status := if m.halted then .halted else .stepLimit
    tape := m.tape.text
    product := if m.halted then m.product else 0 }

/-- A task has a result if a machine can be started on it and comes to an end. -/
theorem referenceTask_eq_ok {table : Table} {patience : Nat} {maxSteps a b : Int}
    {result : BatchResult} :
    referenceTask table patience maxSteps (a, b) = .ok result ↔
      ∃ m final, multiplier a b = .ok m ∧
        m.runLimited table patience (referenceLimit maxSteps) = some final ∧
        result = final.taskResult a b := by
  cases started : multiplier a b with
  | error error => cases error <;> simp [referenceTask, multiply, started, bind, Except.bind]
  | ok m =>
      cases answered : m.runLimited table patience (referenceLimit maxSteps) with
      | none =>
          refine iff_of_false (by simp [referenceTask, multiply, started, answered, bind, Except.bind]) ?_
          rintro ⟨_, final, ⟨⟩, found, -⟩
          rw [answered] at found
          cases found
      | some final =>
          have same : referenceTask table patience maxSteps (a, b) = .ok (final.taskResult a b) := by
            simp only [referenceTask, multiply, started, answered, bind, Except.bind]
            rfl
          rw [same]
          constructor
          · rintro ⟨⟩
            exact ⟨m, final, rfl, answered, rfl⟩
          · rintro ⟨_, _, ⟨⟩, found, rfl⟩
            rw [answered] at found
            cases found
            rfl

/-- A report that matches a machine has the machine's result. -/
theorem Report.Matches.taskResult_eq {report : Report} {m : Machine} (matched : report.Matches m)
    (contained : report.status ≠ .tapeOverflow) {tape : List Char}
    (decoded : decodeCells report.window = .ok tape) (a b : Int) :
    report.taskResult a b tape = m.taskResult a b := by
  obtain rfl : tape = m.tape.cells := Except.ok.inj (decoded.symm.trans matched.cells)
  have halted := matched.halted
  simp only [Report.taskResult, Machine.taskResult, matched.steps, Tape.text, Machine.product]
  cases status : report.status with
  | halted => simp [halted.mpr status]
  | stepLimit =>
      have running : m.halted = false := by
        rw [← Bool.not_eq_true, halted, status]
        exact Status.noConfusion
      simp [running]
  | tapeOverflow => exact absurd status contained

/-! ### The kernel and the machine on one task -/

/-- A report that is an answer tells the answer of the machine, unless the buffer was used up. -/
theorem Board.exists_runLimited {table : Table} {patience : Nat} {maxSteps : Int} {board : Board}
    {report : Report}
    (ran : (board.kernel 0 0).run table.dense ((kernelLimit maxSteps).budget patience) = .ok report)
    (finished : ¬(kernelLimit maxSteps = .unlimited ∧ report.status = .stepLimit))
    (contained : report.status ≠ .tapeOverflow) :
    ∃ final, (board.machine Table.startState 0).runLimited table patience (kernelLimit maxSteps) =
      some final ∧ report.Matches final := by
  obtain ⟨found, ends, described⟩ :=
    board.run_kernel table.states_zero 0 ((kernelLimit maxSteps).budget patience)
  obtain rfl : report = found := Except.ok.inj (ran.symm.trans ends)
  have matched := described.matched contained
  refine ⟨_, Machine.runLimited_of_ends rfl ?_, matched⟩
  intro unlimited
  rw [matched.halted]
  cases status : report.status with
  | halted => rfl
  | stepLimit => exact absurd ⟨unlimited, status⟩ finished
  | tapeOverflow => exact absurd status contained

/-- A task that stays within its buffer has the result of a machine on its starting tape. -/
theorem exists_taskResult {table : Table} {patience size : Nat} {maxSteps : Int} {task : Int × Int}
    {result : BatchResult}
    (evaluated : evaluateTask table.dense patience maxSteps size task = .ok result)
    (contained : result.status ≠ .tapeOverflow) :
    ∃ m final, multiplier task.1 task.2 = .ok m ∧
      m.runLimited table patience (kernelLimit maxSteps) = some final ∧
      result = final.taskResult task.1 task.2 := by
  obtain ⟨a, b, positive, rfl, -, ran⟩ := evaluateTask_eq_ok evaluated
  obtain ⟨report, tape, ends, finished, decoded, rfl⟩ := runTask_board_eq_ok.mp ran
  obtain ⟨final, answered, matched⟩ := Board.exists_runLimited ends finished contained
  exact ⟨_, final, multiplier_eq_machine _ _ a b positive, answered,
    matched.taskResult_eq contained decoded _ _⟩

/-! ### The two step limits -/

/-- Both evaluations have the same limit unless the number is zero. -/
theorem referenceLimit_eq_kernelLimit {maxSteps : Int} (nonzero : maxSteps ≠ 0) :
    referenceLimit maxSteps = kernelLimit maxSteps := by
  rw [referenceLimit, kernelLimit]
  split
  · rw [if_neg (by omega)]
  · rw [if_pos (by omega)]

/-- A result of the kernel is one of the machine, if both have the same limit. -/
theorem referenceTask_of_evaluateTask {table : Table} {patience waits size : Nat} {maxSteps : Int}
    {task : Int × Int} {result : BatchResult} (enough : patience ≤ waits) (nonzero : maxSteps ≠ 0)
    (evaluated : evaluateTask table.dense patience maxSteps size task = .ok result)
    (contained : result.status ≠ .tapeOverflow) :
    referenceTask table waits maxSteps task = .ok result := by
  obtain ⟨m, final, started, answered, rfl⟩ := exists_taskResult evaluated contained
  rw [← referenceLimit_eq_kernelLimit nonzero] at answered
  exact referenceTask_eq_ok.mpr ⟨m, final, started, Machine.runLimited_of_le enough answered, rfl⟩

/-- With the limit zero the kernel stops before its first step. -/
theorem status_of_evaluateTask_zero {table : Table} {patience size : Nat} {task : Int × Int}
    {result : BatchResult} (evaluated : evaluateTask table.dense patience 0 size task = .ok result) :
    result.status = .stepLimit := by
  obtain ⟨a, b, -, -, -, ran⟩ := evaluateTask_eq_ok evaluated
  obtain ⟨report, tape, ends, -, -, rfl⟩ := runTask_board_eq_ok.mp ran
  obtain rfl := Except.ok.inj ends
  rfl

/-- With the limit zero the machine runs until it halts. -/
theorem status_of_referenceTask_zero {table : Table} {patience : Nat} {task : Int × Int}
    {result : BatchResult} (evaluated : referenceTask table patience 0 task = .ok result) :
    result.status = .halted := by
  obtain ⟨m, final, -, answered, rfl⟩ := referenceTask_eq_ok.mp evaluated
  obtain ⟨-, halts⟩ := Machine.ends_of_runLimited answered
  simp [Machine.taskResult, halts rfl]

/-- Let the kernel evaluate a batch without running out of buffer.  The step-by-step machine has the very
same results, all their fields included, for every step limit but zero, which the kernel takes for the end
of the run and the machine for no limit: then it agrees on the empty batch only. -/
theorem evaluateReference_eq_ok_iff (table : Table) (patience waits : Nat) (tasks : List (Int × Int))
    (maxSteps tapeSize : Int) (results : List BatchResult) (enough : patience ≤ waits)
    (evaluated : evaluateBatch table.dense patience tasks maxSteps tapeSize = .ok results)
    (contained : ∀ result ∈ results, result.status ≠ .tapeOverflow) :
    evaluateReference table waits tasks maxSteps = .ok results ↔ maxSteps ≠ 0 ∨ tasks = [] := by
  obtain ⟨lower, each⟩ := evaluateBatch_eq_ok.mp evaluated
  obtain ⟨size, rfl⟩ := Int.eq_ofNat_of_zero_le lower
  rw [evaluateReference, Except.mapM_eq_ok]
  constructor
  · intro same
    rw [or_iff_not_imp_left, Decidable.not_not]
    rintro rfl
    cases each with
    | nil => rfl
    | cons byKernel _ =>
        cases same with
        | cons byMachine _ =>
            have stopped := status_of_evaluateTask_zero byKernel
            rw [status_of_referenceTask_zero byMachine] at stopped
            cases stopped
  · rintro (nonzero | rfl)
    · clear evaluated
      induction each with
      | nil => exact .nil
      | cons byKernel _ ih =>
          have first := contained _ List.mem_cons_self
          have others := fun result member => contained result (List.mem_cons_of_mem _ member)
          exact .cons (referenceTask_of_evaluateTask enough nonzero byKernel first) (ih others)
    · cases each
      exact .nil

/-- The kernel's answer to one times one when it may not take a step. -/
def unmovedResult : BatchResult :=
  { a := 1, b := 1, steps := 0, status := .stepLimit, tape := "_0C0_", product := 0 }

/-- One times one with the limit zero: the kernel stops on the starting tape, the machine goes on. -/
theorem evaluateReference_ne_unmoved :
    evaluateBatch multiplicationTable.dense 0 [(1, 1)] 0 12 = .ok [unmovedResult] ∧
      evaluateReference multiplicationTable 20 [(1, 1)] 0 ≠ .ok [unmovedResult] := by
  have evaluated : evaluateBatch multiplicationTable.dense 0 [(1, 1)] 0 12 =
      .ok [unmovedResult] := by
    decide +kernel
  refine ⟨evaluated, fun same => ?_⟩
  have agree := (evaluateReference_eq_ok_iff multiplicationTable 0 20 [(1, 1)] 0 12 [unmovedResult]
    (by decide) evaluated (by decide)).mp same
  revert agree
  decide

end TapeMultiplier
