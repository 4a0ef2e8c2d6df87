/-
Module: TapeMultiplier.Proofs.Batch.Patience
Layer: Proofs
Purpose: More patience changes no result.  What a task comes to within some patience, it comes to within
  every larger one, for the kernel and for the step-by-step machine.
Main exports: Kernel.run_of_le, Kernel.unlimited_of_unfinished, evaluateTask_of_le, referenceTask_of_le
-/
import TapeMultiplier.Proofs.Batch.Reference

namespace TapeMultiplier

/-- A kernel that is done has the same report with a larger budget. -/
theorem Kernel.run_of_le {dense : Dense} {k : Kernel} {budget larger : Nat} {report : Report}
    (enough : budget ≤ larger) (ran : run dense budget k = .ok report)
    (done : report.status ≠ .stepLimit) : run dense larger k = .ok report := by
  induction budget generalizing k larger with
  | zero =>
      obtain rfl := Except.ok.inj ran
      exact absurd rfl done
  | succ budget ih =>
      obtain ⟨larger, rfl⟩ : ∃ n, larger = n + 1 := ⟨larger - 1, by omega⟩
      rw [run] at ran ⊢
      cases stepped : k.step dense with
      | error fault =>
          rw [stepped] at ran
          cases ran
      | ok progress =>
          rw [stepped] at ran
          cases progress with
          | done last => exact ran
          | next next => exact ih (Nat.le_of_succ_le_succ enough) ran

variable {patience larger : Nat} {maxSteps : Int}

theorem Kernel.simulate_of_le (enough : patience ≤ larger) {dense : Dense} {cells : Cells}
    {lo hi : Nat} {head : Int} {report : Report}
    (simulated : Kernel.simulate dense patience maxSteps cells lo hi head = .ok report) :
    Kernel.simulate dense larger maxSteps cells lo hi head = .ok report := by
  rw [Kernel.simulate_eq_ok] at simulated ⊢
  obtain ⟨ran, finished⟩ := simulated
  refine ⟨?_, finished⟩
  cases limit : kernelLimit maxSteps with
  | atMost steps =>
      rw [limit] at ran
      exact ran
  | unlimited =>
      rw [limit] at ran
      exact Kernel.run_of_le enough ran fun stopped => finished ⟨limit, stopped⟩

/-- Only a run without a limit can ask for more patience. -/
theorem Kernel.unlimited_of_unfinished {dense : Dense} {cells : Cells} {lo hi : Nat} {head : Int}
    (unfinished : Kernel.simulate dense patience maxSteps cells lo hi head = .error .unfinished) :
    kernelLimit maxSteps = .unlimited := by
  rw [Kernel.simulate] at unfinished
  cases ran : Kernel.run dense ((kernelLimit maxSteps).budget patience)
      { cells, lo, hi, head, state := 0, steps := 0 } with
  | error fault =>
      rw [ran] at unfinished
      cases unfinished
  | ok report =>
      simp only [ran] at unfinished
      by_contra limited
      rw [if_neg fun stopped => limited stopped.1] at unfinished
      cases unfinished

/-- A result of the kernel is its result with more patience. -/
theorem evaluateTask_of_le (enough : patience ≤ larger) {dense : Dense} {tapeSize : Int}
    {task : Int × Int} {result : BatchResult}
    (evaluated : evaluateTask dense patience maxSteps tapeSize task = .ok result) :
    evaluateTask dense larger maxSteps tapeSize task = .ok result := by
  obtain ⟨prepared, ready, ran⟩ := Except.bind_eq_ok.mp evaluated
  obtain ⟨report, simulated, resulted⟩ := runTask_eq_ok.mp ran
  exact Except.bind_eq_ok.mpr ⟨prepared, ready,
    runTask_eq_ok.mpr ⟨report, Kernel.simulate_of_le enough simulated, resulted⟩⟩

/-- A result of the step-by-step machine is its result with more patience. -/
theorem referenceTask_of_le (enough : patience ≤ larger) {table : Table} {task : Int × Int}
    {result : BatchResult} (evaluated : referenceTask table patience maxSteps task = .ok result) :
    referenceTask table larger maxSteps task = .ok result := by
  obtain ⟨m, final, started, answered, rfl⟩ := referenceTask_eq_ok.mp evaluated
  exact referenceTask_eq_ok.mpr ⟨m, final, started, Machine.runLimited_of_le enough answered, rfl⟩

end TapeMultiplier
