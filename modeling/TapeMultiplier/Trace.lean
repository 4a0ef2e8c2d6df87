/-
Module: TapeMultiplier.Trace
Layer: Session
Purpose: What happens to the steps of a traced run: they are printed, buffered for the log, or
  collected.
Main exports: TraceBuffer, TraceBuffer.push, TraceBuffer.flush, Sink, tracedMultiply
-/
import TapeMultiplier.Journal
import TapeMultiplier.Session

namespace TapeMultiplier

/-- A traced step as a log entry. -/
def StepEvent.toJson (event : StepEvent) : Json :=
  .object [
    ("step", .int event.step),
    ("transition", .list (event.transition.words.map Json.ofText)),
    ("tape", .string event.tape),
    ("head", .int event.head),
    ("state", .string event.state)]

/-- Steps on their way to the log: they are kept until there are enough of them. -/
structure TraceBuffer where
  flushEvery : Int
  /-- The steps kept, the last one first. -/
  kept : List Json

namespace TraceBuffer

/-- The steps kept, in order. -/
def entries (buffer : TraceBuffer) : List Json :=
  buffer.kept.reverse

/-- A command on a buffer and a session.  If it fails, the buffer is what it was at that moment. -/
abbrev Command := EStateM Failure (TraceBuffer × Session)

/-- Carry out a command of the session. -/
def onSession {α : Type} (action : App α) : Command α := fun (buffer, session) =>
  match action session with
  | .ok answer final => .ok answer (buffer, final)
  | .error failure final => .error failure (buffer, final)

/-- Write the kept steps to the log of the present date; nothing is touched if there are none. -/
def flush : Command Unit := do
  let (buffer, _) ← get
  if buffer.kept.isEmpty then return ()
  onSession do
    rotateJournal
    logTrace buffer.entries
  modify fun (buffer, session) => ({ buffer with kept := [] }, session)

/-- Keep a step, and write when there are enough. -/
def push (entry : Json) : Command Unit := do
  modify fun (buffer, session) => ({ buffer with kept := entry :: buffer.kept }, session)
  let (buffer, _) ← get
  if buffer.flushEvery ≤ buffer.kept.length then flush

/-- Carry out a command on a buffer inside a session. -/
def within (buffer : TraceBuffer) (command : Command Unit) : App TraceBuffer := fun session =>
  match command (buffer, session) with
  | .ok () (final, session) => .ok final session
  | .error failure (_, session) => .error failure session

end TraceBuffer

/-- A receiver of traced steps. -/
inductive Sink where
  /-- Print the step with a pointer under the head, then pause. -/
  | console (delay : Duration)
  /-- Keep the step for the log. -/
  | log (buffer : TraceBuffer)
  /-- Collect the step. -/
  | collect

/-- The lines that show a step; tape and pointer are not broken. -/
def StepEvent.lines (event : StepEvent) : List String :=
  ["Step Nr: " ++ Text.decimal event.step, LineWrap.fit event.transition.render, event.tape,
    Tape.pointerLine event.head]

/-- The receivers of a run and the steps collected so far, the last one first. -/
structure Tracing where
  sinks : List Sink
  collected : List StepEvent

/-- Hand a step to the receivers in turn. -/
def feedSinks (event : StepEvent) : List Sink → App (List Sink × List StepEvent)
  | [] => return ([], [])
  | .console delay :: rest => do
      event.lines.forM printLine
      if !delay.isZero then pause delay
      let (sinks, collected) ← feedSinks event rest
      return (.console delay :: sinks, collected)
  | .log buffer :: rest => do
      let buffer ← buffer.within (TraceBuffer.push event.toJson)
      let (sinks, collected) ← feedSinks event rest
      return (.log buffer :: sinks, collected)
  | .collect :: rest => do
      let (sinks, collected) ← feedSinks event rest
      return (.collect :: sinks, event :: collected)

/-- Write what the receivers still keep for the log. -/
def flushSinks : List Sink → App (List Sink)
  | [] => return []
  | .log buffer :: rest => do
      let buffer ← buffer.within TraceBuffer.flush
      return .log buffer :: (← flushSinks rest)
  | sink :: rest => return sink :: (← flushSinks rest)

/-- The numbers of steps that the receivers keep for the log. -/
def keptCounts (sinks : List Sink) : List Nat :=
  sinks.filterMap fun
    | .log buffer => some buffer.kept.length
    | _ => none

/-- Hand a step of a run to the receivers. -/
def emitStep (event : StepEvent) : StateT Tracing App Unit := do
  let tracing ← get
  let (sinks, collected) ← feedSinks event tracing.sinks
  set { sinks, collected := collected ++ tracing.collected : Tracing }

/-- Run a program on the tape for `a x b`, handing every step to the receivers. -/
def tracedMultiply (table : Table) (a b : Int) (limit : StepLimit) (sinks : List Sink) :
    App (Nat × Configuration × Tracing) := do
  let machine ← orFail id (boundedMultiplier a b)
  let patience := (← get).patience
  let (final, tracing) ←
    (machine.runTraced table emitStep (limit.budget patience)).run { sinks, collected := [] }
  if limit.accepts final then return (final.product, final.configuration, tracing)
  else throw .unfinished

/-- Run a program on the tape for `a x b`. -/
def plainMultiply (table : Table) (a b : Int) (limit : StepLimit) :
    App (Nat × Configuration) := do
  orFail id (boundedMultiply table (← get).patience a b limit)

end TapeMultiplier
