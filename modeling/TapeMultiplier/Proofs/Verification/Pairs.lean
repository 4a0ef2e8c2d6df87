/-
Module: TapeMultiplier.Proofs.Verification.Pairs
Layer: Proofs
Purpose: The pairs of a verification.  Keys tell pairs apart, a grid has no pair twice, batches hold the
  pending pairs in their order, and the results of a batch are those of its pairs.
Main exports: pairKey_inj, nodup_operandGrid, batchesOf_eq_ok, GridTask.evaluate_pairs
-/
import Mathlib.Data.List.Nodup
import Mathlib.Data.List.ProdSigma
import TapeMultiplier.Proofs.Capacity
import TapeMultiplier.Proofs.Text.Decimal
import TapeMultiplier.Verification

namespace TapeMultiplier

/-! ### Keys -/

theorem Text.decimalInt_inj {left right : Int} (same : decimalInt left = decimalInt right) :
    left = right := by
  have texts := congrArg String.toList same
  have noSign : ∀ {value size : Nat}, decimalDigits value ≠ '-' :: decimalDigits size := by
    intro value size signed
    have digit := isDigit_of_mem_decimalDigits (signed ▸ List.mem_cons_self : _ ∈ decimalDigits value)
    exact absurd digit (by decide)
  by_cases leftNegative : left < 0
  · rw [toList_decimalInt_of_neg leftNegative] at texts
    by_cases rightNegative : right < 0
    · rw [toList_decimalInt_of_neg rightNegative] at texts
      have sizes := decimalDigits_inj (List.cons.inj texts).2
      omega
    · rw [toList_decimalInt_of_nonneg (Int.not_lt.mp rightNegative)] at texts
      exact absurd texts.symm noSign
  · rw [toList_decimalInt_of_nonneg (Int.not_lt.mp leftNegative)] at texts
    by_cases rightNegative : right < 0
    · rw [toList_decimalInt_of_neg rightNegative] at texts
      exact absurd texts noSign
    · rw [toList_decimalInt_of_nonneg (Int.not_lt.mp rightNegative)] at texts
      have sizes := decimalDigits_inj texts
      omega

theorem not_mem_decimalInt (value : Int) : 'x' ∉ (Text.decimalInt value).toList := by
  have notDigit : ∀ size : Nat, 'x' ∉ Text.decimalDigits size := by
    intro size member
    exact absurd (Text.isDigit_of_mem_decimalDigits member) (by decide)
  by_cases negative : value < 0
  · rw [Text.toList_decimalInt_of_neg negative, List.mem_cons, not_or]
    exact ⟨by decide, notDigit _⟩
  · rw [Text.toList_decimalInt_of_nonneg (Int.not_lt.mp negative)]
    exact notDigit _

/-- Different pairs have different keys. -/
theorem pairKey_inj {a b c d : Int} (same : pairKey a b = pairKey c d) : a = c ∧ b = d := by
  have texts := congrArg String.toList same
  have marked : "x".toList = ['x'] := rfl
  simp only [pairKey, String.toList_append, List.append_assoc, marked, List.singleton_append] at texts
  obtain ⟨rows, -, columns⟩ := (List.append_cons_inj_of_notMem (not_mem_decimalInt a)
    (not_mem_decimalInt b)).mp texts
  exact ⟨Text.decimalInt_inj (String.toList_inj.mp rows),
    Text.decimalInt_inj (String.toList_inj.mp columns)⟩

theorem pairKey_injective : Function.Injective fun pair : Int × Int => pairKey pair.1 pair.2 := by
  rintro ⟨a, b⟩ ⟨c, d⟩ same
  obtain ⟨rows, columns⟩ := pairKey_inj same
  exact Prod.ext rows columns

theorem nodup_operandGrid (largest : Int) : (operandGrid largest).Nodup := by
  have factors : ((List.range largest.toNat).map fun (i : Nat) => (i : Int) + 1).Nodup := by
    refine List.Nodup.map ?_ List.nodup_range
    intro left right same
    exact Int.ofNat_inj.mp ((Int.add_left_inj 1).mp same)
  exact factors.product factors

/-! ### Batches -/

theorem flatten_piecesOf {α : Type} {size : Nat} (positive : 1 ≤ size) {count : Nat} {items : List α}
    (enough : items.length ≤ count) : (piecesOf size count items).flatten = items := by
  induction count generalizing items with
  | zero =>
      rw [List.length_eq_zero_iff.mp (Nat.le_zero.mp enough)]
      rfl
  | succ count ih =>
      cases items with
      | nil => rfl
      | cons item rest =>
          have fewer : ((item :: rest).drop size).length ≤ count := by
            rw [List.length_drop, List.length_cons]
            rw [List.length_cons] at enough
            omega
          rw [piecesOf, List.isEmpty_cons, if_neg Bool.false_ne_true, List.flatten_cons, ih fewer,
            List.take_append_drop]

/-- Every piece is the front of some items that were left. -/
theorem exists_of_mem_piecesOf {α : Type} {size count : Nat} {items piece : List α}
    (member : piece ∈ piecesOf size count items) : ∃ rest, rest ≠ [] ∧ piece = rest.take size := by
  induction count generalizing items with
  | zero => cases member
  | succ count ih =>
      cases items with
      | nil => cases member
      | cons item rest =>
          rw [piecesOf, List.isEmpty_cons, if_neg Bool.false_ne_true, List.mem_cons] at member
          rcases member with rfl | member
          · exact ⟨item :: rest, List.cons_ne_nil item rest, rfl⟩
          · exact ih member

theorem ne_nil_of_mem_piecesOf {α : Type} {size : Nat} (positive : 1 ≤ size) {count : Nat}
    {items piece : List α} (member : piece ∈ piecesOf size count items) : piece ≠ [] := by
  obtain ⟨rest, filled, rfl⟩ := exists_of_mem_piecesOf member
  rw [Ne, List.take_eq_nil_iff, not_or]
  exact ⟨by omega, filled⟩

theorem length_le_of_mem_piecesOf {α : Type} {size count : Nat} {items piece : List α}
    (member : piece ∈ piecesOf size count items) : piece.length ≤ size := by
  obtain ⟨rest, -, rfl⟩ := exists_of_mem_piecesOf member
  exact List.length_take_le size rest

/-- The batches of a task hold the pending pairs in their order, and no batch is empty. -/
theorem batchesOf_eq_ok {size : Int} (positive : 1 ≤ size) {pending : List (Int × Int)}
    {batches : List (List (Int × Int))} (cut : batchesOf size pending = .ok batches) :
    batches.flatten = pending ∧ ∀ batch ∈ batches, batch ≠ [] := by
  rw [batchesOf, if_neg (by omega), if_neg (by omega)] at cut
  cases cut
  have counted : 1 ≤ size.toNat := by omega
  exact ⟨flatten_piecesOf counted (Nat.le_refl _), fun batch => ne_nil_of_mem_piecesOf counted⟩

/-- No batch has more pairs than the task asks for. -/
theorem length_le_of_batchesOf {size : Int} (positive : 1 ≤ size) {pending : List (Int × Int)}
    {batches : List (List (Int × Int))} (cut : batchesOf size pending = .ok batches) :
    ∀ batch ∈ batches, (batch.length : Int) ≤ size := by
  rw [batchesOf, if_neg (by omega), if_neg (by omega)] at cut
  cases cut
  intro batch member
  have short := length_le_of_mem_piecesOf member
  omega

/-! ### Results -/

theorem map_eq_of_mapM {ε α β γ : Type} {step : α → Except ε β} {before : α → γ} {after : β → γ}
    (keeps : ∀ {item result}, step item = .ok result → after result = before item) {items : List α}
    {results : List β} (done : items.mapM step = .ok results) :
    results.map after = items.map before := by
  induction items generalizing results with
  | nil =>
      cases done
      rfl
  | cons item rest ih =>
      rw [List.mapM_cons] at done
      obtain ⟨result, first, others⟩ := Except.bind_eq_ok.mp done
      obtain ⟨more, rested, ended⟩ := Except.bind_eq_ok.mp others
      cases ended
      rw [List.map_cons, List.map_cons, keeps first, ih rested]

/-- The pair that a result is about. -/
def BatchResult.pair (result : BatchResult) : Int × Int :=
  (result.a, result.b)

theorem prepareTask_pair {tapeSize : Int} {task : Int × Int} {prepared : PreparedTask}
    (ready : prepareTask tapeSize task = .ok prepared) : (prepared.a, prepared.b) = task := by
  obtain ⟨a, b⟩ := task
  rw [prepareTask] at ready
  split at ready
  · cases ready
  · split at ready
    · cases ready
    · dsimp only at ready
      split at ready
      · cases ready
      · cases ready
        rfl

theorem runTask_pair {dense : Dense} {patience : Nat} {maxSteps : Int} {task : PreparedTask}
    {result : BatchResult} (ran : runTask dense patience maxSteps task = .ok result) :
    result.pair = (task.a, task.b) := by
  rw [runTask] at ran
  split at ran
  · cases ran
  · cases ran
  · next report _ =>
    rw [resultOfReport] at ran
    split at ran
    · cases ran
    · cases ran
      rfl

theorem evaluateBatch_pairs {dense : Dense} {patience : Nat} {tasks : List (Int × Int)}
    {maxSteps tapeSize : Int} {results : List BatchResult}
    (done : evaluateBatch dense patience tasks maxSteps tapeSize = .ok results) :
    results.map BatchResult.pair = tasks := by
  rw [evaluateBatch] at done
  split at done
  · cases done
  · obtain ⟨prepared, ready, ran⟩ := Except.bind_eq_ok.mp done
    calc results.map BatchResult.pair
        = prepared.map fun task => (task.a, task.b) := map_eq_of_mapM runTask_pair ran
      _ = tasks.map id := map_eq_of_mapM prepareTask_pair ready
      _ = tasks := List.map_id tasks

theorem referenceTask_pair {table : Table} {patience : Nat} {maxSteps : Int} {task : Int × Int}
    {result : BatchResult} (ran : referenceTask table patience maxSteps task = .ok result) :
    result.pair = task := by
  obtain ⟨a, b⟩ := task
  rw [referenceTask] at ran
  split at ran
  · cases ran
  · cases ran
  · cases ran
  · cases ran
    rfl

theorem evaluateReference_pairs {table : Table} {patience : Nat} {tasks : List (Int × Int)}
    {maxSteps : Int} {results : List BatchResult}
    (done : evaluateReference table patience tasks maxSteps = .ok results) :
    results.map BatchResult.pair = tasks := by
  rw [map_eq_of_mapM referenceTask_pair done, List.map_id']

/-- The results of a batch are those of its pairs, in their order. -/
theorem GridTask.evaluate_pairs {task : GridTask} {table : Table} {dense : Dense} {patience : Nat}
    {batch : List (Int × Int)} {results : List BatchResult}
    (evaluated : task.evaluate table dense patience batch = .ok results) :
    results.map BatchResult.pair = batch := by
  rw [evaluate] at evaluated
  split at evaluated
  · exact evaluateReference_pairs (boundedReference_eq_ok.mp evaluated).2
  · exact evaluateBatch_pairs (boundedBatch_eq_ok.mp evaluated).2

end TapeMultiplier
