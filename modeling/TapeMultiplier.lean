import TapeMultiplier.Main
import TapeMultiplier.Proofs.Batch.Independence
import TapeMultiplier.Proofs.Batch.Reference
import TapeMultiplier.Proofs.Batch.Resources
import TapeMultiplier.Proofs.Dense.Filling
import TapeMultiplier.Proofs.Kernel.Refinement
import TapeMultiplier.Proofs.Multiplication.Buffer
import TapeMultiplier.Proofs.Multiplication.Correctness
import TapeMultiplier.Proofs.ProgramText
import TapeMultiplier.Proofs.ProgramText.Joining
import TapeMultiplier.Proofs.Unbounded
import TapeMultiplier.Proofs.Verification.Series
import TapeMultiplier.Proofs.Kernel.Bounds
import TapeMultiplier.Proofs.Multiplication.Invariant
import TapeMultiplier.Proofs.Verification.Failures
import TapeMultiplier.Proofs.Verification.Verdict
import TapeMultiplier.Proofs.Machine.Budget
import TapeMultiplier.Proofs.Machine.History
import TapeMultiplier.Proofs.Machine.Mirror
import TapeMultiplier.Proofs.Machine.Replay
import TapeMultiplier.Proofs.Table.Forms
import TapeMultiplier.Proofs.Table.Shadowing
import TapeMultiplier.Proofs.SettingsEntry
import TapeMultiplier.Proofs.Settings.RoundTrip
import TapeMultiplier.Proofs.Trace.Run
import TapeMultiplier.Proofs.Journal
import TapeMultiplier.Proofs.Operands
import TapeMultiplier.Proofs.Product.LastBlock
