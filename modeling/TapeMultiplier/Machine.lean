/-
Module: TapeMultiplier.Machine
Layer: Model
Purpose: The step-by-step machine.  It looks the state and the character under its head up in a table
  of transitions and halts when nothing matches.
Main exports: Machine, Outcome, StepEvent, Machine.start, Machine.step, Machine.run,
  Machine.runTraced, Machine.events, Configuration, StepLimit, multiply
-/
import TapeMultiplier.Operands
import TapeMultiplier.Table
import TapeMultiplier.Tape

namespace TapeMultiplier

/-!
There is no halting state and no built-in limit: a machine stops because no transition matches, or
because its caller allowed a number of steps and they were applied.  Halting is noticed by the step
that finds nothing to apply; a machine that applied its last transition has not halted yet.

A run without a limit need not end.  It is given as a run within a *patience*, and it has an answer
only if the machine halts within it: a larger patience never changes an answer.
-/

/-- A machine in the middle of a run. -/
structure Machine where
  state : String
  tape : Tape
  steps : Nat
  halted : Bool
deriving Repr, Inhabited, DecidableEq

/-- What one step did. -/
inductive Outcome where
  | applied (step : Nat) (transition : Transition)
  | halted (state : String) (read : Char)
deriving Repr, DecidableEq

/-- What a trace shows of an applied step: the transition, and tape, head and state after it. -/
structure StepEvent where
  step : Nat
  transition : Transition
  tape : String
  head : Nat
  state : String
deriving Repr, DecidableEq

/-- What can be seen of a machine from outside. -/
structure Configuration where
  state : String
  head : Nat
  tape : String
  steps : Nat
  halted : Bool
deriving Repr, DecidableEq

/-- A head position that is not on the tape. -/
structure HeadError where
  head : Int
  length : Nat
deriving Repr, DecidableEq

/-- The wording of the error. -/
def HeadError.message (error : HeadError) : String :=
  "Head position " ++ Text.decimalInt error.head ++ " is outside a tape of length " ++
    Text.decimal error.length

/-- How long a run may go on: a number of steps, where none are applied if the number is not
positive, or until the machine halts. -/
inductive StepLimit where
  | atMost (steps : Int)
  | unlimited
deriving Repr, DecidableEq

/-- The limit given by an optional number. -/
def StepLimit.ofOption : Option Int → StepLimit
  | some steps => .atMost steps
  | none => .unlimited

namespace Machine

/-- The head position at which a program starts. -/
def startHead : Int := 1

/-- A machine at the start of a run. -/
def start (cells : List Char) (head : Int) (state : String) : Except HeadError Machine :=
  match Tape.ofCells? cells head with
  | some tape => .ok { state, tape, steps := 0, halted := false }
  | none => .error ⟨head, cells.length⟩

/-- The character under the head. -/
def read (m : Machine) : Char :=
  m.tape.current

/-- What can be seen of the machine. -/
def configuration (m : Machine) : Configuration :=
  { state := m.state, head := m.tape.head, tape := m.tape.text, steps := m.steps,
    halted := m.halted }

/-- The machine after applying a transition. -/
def apply (m : Machine) (t : Transition) : Machine :=
  { state := t.target, tape := (m.tape.write t.write.char).move t.move, steps := m.steps + 1,
    halted := m.halted }

/-- One step: apply the first matching transition, or halt. -/
def step (table : Table) (m : Machine) : Outcome × Machine :=
  if m.halted then (.halted m.state m.read, m)
  else
    match table.lookup m.state m.read with
    | none => (.halted m.state m.read, { m with halted := true })
    | some t => (.applied (m.steps + 1) t, m.apply t)

/-- The event of a step that led to this machine. -/
def event (m : Machine) (step : Nat) (t : Transition) : StepEvent :=
  { step, transition := t, tape := m.tape.text, head := m.tape.head, state := m.state }

/-- Step until the machine halts, or until a number of transitions were applied. -/
def run (table : Table) : Nat → Machine → Machine
  | 0, m => m
  | budget + 1, m =>
      match m.step table with
      | (.halted _ _, halted) => halted
      | (.applied _ _, next) => run table budget next

/-- A run that hands the event of every applied step to `emit`, in order. -/
@[specialize]
def runTraced {m : Type → Type} [Monad m] (table : Table) (emit : StepEvent → m Unit) :
    Nat → Machine → m Machine
  | 0, machine => pure machine
  | budget + 1, machine =>
      match machine.step table with
      | (.halted _ _, halted) => pure halted
      | (.applied step t, next) => do
          emit (next.event step t)
          runTraced table emit budget next

/-- The events of a run. -/
def events (table : Table) : Nat → Machine → List StepEvent
  | 0, _ => []
  | budget + 1, m =>
      match m.step table with
      | (.halted _ _, _) => []
      | (.applied step t, next) => next.event step t :: events table budget next

/-- The product on the machine's tape. -/
def product (m : Machine) : Nat :=
  extractProduct m.tape.cells

/-- The tape with a pointer under the head, and a line on the machine's progress. -/
def picture (m : Machine) : String :=
  let halted := if m.halted then "True" else "False"
  m.tape.text ++ "\n" ++ m.tape.pointer ++ "\n" ++
    s!"State: {m.state}, Steps: {Text.decimal m.steps}, Halted: {halted}\n"

end Machine

namespace StepLimit

/-- The number of transitions that a run under the limit may apply. -/
def budget (patience : Nat) : StepLimit → Nat
  | atMost steps => steps.toNat
  | unlimited => patience

/-- Whether a run that ended in `m` has an answer: without a limit, only a halted machine does. -/
def accepts (limit : StepLimit) (m : Machine) : Bool :=
  match limit with
  | atMost _ => true
  | unlimited => m.halted

end StepLimit

/-- A run under a limit, if it has an answer within the patience. -/
def Machine.runLimited (table : Table) (patience : Nat) (limit : StepLimit) (m : Machine) :
    Option Machine :=
  let final := m.run table (limit.budget patience)
  if limit.accepts final then some final else none

/-- Why a multiplication has no result. -/
inductive MultiplyError where
  | operands (error : OperandError)
  | head (error : HeadError)
  | unfinished
deriving Repr, DecidableEq

/-- The machine that is about to multiply two positive factors. -/
def multiplier (a b : Int) : Except MultiplyError Machine :=
  match checkOperands a b with
  | .error error => .error (.operands error)
  | .ok () =>
      match Machine.start (multiplicationTape a b) Machine.startHead Table.startState with
      | .error error => .error (.head error)
      | .ok machine => .ok machine

/-- Run a program on the tape for `a x b`. -/
def multiply (table : Table) (patience : Nat) (a b : Int) (limit : StepLimit) :
    Except MultiplyError (Nat × Configuration) := do
  let machine ← multiplier a b
  match machine.runLimited table patience limit with
  | none => .error .unfinished
  | some final => return (final.product, final.configuration)

end TapeMultiplier
