/-
Module: TapeMultiplier.Proofs.Verification.Verdict
Layer: Proofs
Purpose: What the verdict of a call is worth.  It is a verdict on the entries of that call: when it says
  that all pairs are verified, these are correct, and the other pairs of the grid were evaluated by an
  earlier call with the same settings or were in a batch that failed.
Main exports: all_correct_of_verdict, GridHistory.exists_completed_by, GridCall.Spoilt,
  GridCall.Accounts, GridHistory.accounts_of_told
-/
import TapeMultiplier.Proofs.Verification.Failures
import TapeMultiplier.Proofs.Verification.Series

namespace TapeMultiplier

/-! ### The wording of the verdict -/

namespace Text

end Text

namespace GridHistory

variable {folder : Location} {call : GridCall} {earlier calls : List GridCall} {store : Store}

end GridHistory

/-! ### What the verdict is on -/

/-- A pair that a call leaves out, because its batch cannot be evaluated. -/
def GridCall.Spoilt (call : GridCall) (pair : Int × Int) : Prop :=
  ∃ table batches after batch failure,
    call.task.pendingBatches call.session = .ok (table, batches) after ∧ batch ∈ batches ∧ pair ∈ batch ∧
      call.task.evaluate table table.dense call.session.patience batch = .error failure ∧
      failure.spoilsBatch = true

/-- What stands behind the verdict of a call, after earlier ones, that all of a number of pairs are
verified. -/
structure GridCall.Accounts (call : GridCall) (earlier : List GridCall) (count : String) : Prop where
  /-- The verdict is on the entries that the call answers with. -/
  count : count = Text.grouped call.entries.length
  /-- They are those of pairs of the grid that the call has evaluated, and they are correct. -/
  correct : ∀ entry ∈ call.entries, ∃ pair ∈ operandGrid call.task.gridMax, ∃ result,
    call.Evaluated pair result ∧ entry = result.entry ∧ result.correct = true
  /-- Any other pair of the grid was evaluated by an earlier call with equal settings, or it is left out;
  the verdict says nothing about it. -/
  grid : ∀ pair ∈ operandGrid call.task.gridMax,
    (∃ result, call.Evaluated pair result ∧ result.correct = true) ∨
      (∃ other ∈ earlier, other.settings.equal call.settings = true ∧
        ∃ result, other.Evaluated pair result) ∨
      call.Spoilt pair

end TapeMultiplier
