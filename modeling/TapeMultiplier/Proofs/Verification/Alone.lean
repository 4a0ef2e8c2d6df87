/-
Module: TapeMultiplier.Proofs.Verification.Alone
Layer: Proofs
Purpose: The results of a batch pair by pair.  What a batch says of a pair, the pair alone comes to, with
  the same patience and with more: neither the other pairs nor the room that they take play a part.
Main exports: GridTask.evaluate_alone
-/
import TapeMultiplier.Proofs.Batch.Patience
import TapeMultiplier.Proofs.Verification.Pairs

namespace TapeMultiplier

/-! ### Tasks that have results -/

theorem positive_of_multiplier {a b : Int} {m : Machine} (started : multiplier a b = .ok m) :
    0 < a ∧ 0 < b := by
  rw [multiplier, checkOperands] at started
  split at started
  · cases started
  · next accepted =>
    split at accepted
    · cases accepted
    · omega

theorem admitted_of_referenceTask {table : Table} {patience : Nat} {maxSteps : Int} {task : Int × Int}
    {result : BatchResult} (evaluated : referenceTask table patience maxSteps task = .ok result) :
    Admitted none task := by
  obtain ⟨m, final, started, -⟩ := referenceTask_eq_ok.mp evaluated
  obtain ⟨first, second⟩ := positive_of_multiplier started
  exact ⟨first, second, by rintro _ ⟨⟩⟩

theorem admitted_of_evaluateTask {dense : Dense} {patience : Nat} {maxSteps tapeSize : Int}
    (lower : 0 ≤ tapeSize) {task : Int × Int} {result : BatchResult}
    (evaluated : evaluateTask dense patience maxSteps tapeSize task = .ok result) :
    Admitted (some tapeSize) task := by
  obtain ⟨size, rfl⟩ := Int.eq_ofNat_of_zero_le lower
  obtain ⟨a, b, positive, rfl, room, -⟩ := evaluateTask_eq_ok evaluated
  refine ⟨by omega, by omega, ?_⟩
  rintro _ ⟨⟩
  rw [Int.fdiv_eq_ediv_of_nonneg _ (by decide)]
  omega

/-! ### Batches and their pairs -/

theorem boundedReference_alone {table : Table} {patience : Nat} {maxSteps : Int}
    {batch : List (Int × Int)} {results : List BatchResult}
    (evaluated : boundedReference table patience batch maxSteps = .ok results) :
    List.Forall₂ (fun pair result => ∀ larger, patience ≤ larger →
      boundedReference table larger [pair] maxSteps = .ok [result]) batch results := by
  obtain ⟨room, done⟩ := boundedReference_eq_ok.mp evaluated
  have each := Except.mapM_eq_ok.mp done
  have admitted : ∀ pair ∈ batch, Admitted none pair := by
    intro pair member
    obtain ⟨result, single⟩ := exists_forall₂.mp ⟨results, each⟩ pair member
    exact admitted_of_referenceTask single
  have rooms := checkTasks_singleton admitted room
  refine List.Forall₂.imp ?_ ((List.forall₂_and_left batch results).mpr ⟨rooms, each⟩)
  rintro pair result ⟨checked, single⟩ larger enough
  have alone : evaluateReference table larger [pair] maxSteps = .ok [result] :=
    Except.mapM_eq_ok.mpr (.cons (referenceTask_of_le enough single) .nil)
  exact boundedReference_eq_ok.mpr ⟨checked, alone⟩

theorem boundedBatch_alone {dense : Dense} {patience : Nat} {maxSteps tapeSize : Int}
    {batch : List (Int × Int)} {results : List BatchResult}
    (evaluated : boundedBatch dense patience batch maxSteps tapeSize = .ok results) :
    List.Forall₂ (fun pair result => ∀ larger, patience ≤ larger →
      boundedBatch dense larger [pair] maxSteps tapeSize = .ok [result]) batch results := by
  obtain ⟨room, done⟩ := boundedBatch_eq_ok.mp evaluated
  obtain ⟨lower, each⟩ := evaluateBatch_eq_ok.mp done
  obtain ⟨buffers, tapes⟩ := (checkBatch_eq_ok lower).mp room
  have admitted : ∀ pair ∈ batch, Admitted (some tapeSize) pair := by
    intro pair member
    obtain ⟨result, single⟩ := exists_forall₂.mp ⟨results, each⟩ pair member
    exact admitted_of_evaluateTask lower single
  have rooms := checkTasks_singleton admitted tapes
  have batches : ∀ pair ∈ batch, checkBatch [pair] tapeSize = .ok () := by
    intro pair member
    have buffer := checkBuffers_one (List.length_pos_of_mem member) buffers
    exact (checkBatch_eq_ok lower).mpr ⟨buffer, rooms pair member⟩
  refine List.Forall₂.imp ?_ ((List.forall₂_and_left batch results).mpr ⟨batches, each⟩)
  rintro pair result ⟨checked, single⟩ larger enough
  have alone : evaluateBatch dense larger [pair] maxSteps tapeSize = .ok [result] :=
    evaluateBatch_eq_ok.mpr ⟨lower, .cons (evaluateTask_of_le enough single) .nil⟩
  exact boundedBatch_eq_ok.mpr ⟨checked, alone⟩

/-- Each result of a batch is the result of its pair alone, with as much patience or more. -/
theorem GridTask.evaluate_alone {task : GridTask} {table : Table} {dense : Dense} {patience : Nat}
    {batch : List (Int × Int)} {results : List BatchResult}
    (evaluated : task.evaluate table dense patience batch = .ok results) :
    List.Forall₂ (fun pair result => ∀ larger, patience ≤ larger →
      task.evaluate table dense larger [pair] = .ok [result]) batch results := by
  simp only [evaluate] at evaluated ⊢
  cases engine : task.useEngine with
  | true =>
      rw [engine, if_pos rfl] at evaluated
      simp only [if_pos]
      exact boundedReference_alone evaluated
  | false =>
      rw [engine, if_neg Bool.false_ne_true] at evaluated
      simp only [if_neg Bool.false_ne_true]
      exact boundedBatch_alone evaluated

end TapeMultiplier
