/-
Module: TapeMultiplier.Proofs.Machine.Replay
Layer: Proofs
Purpose: A trace is a replay of its run.  Every event follows from the one before it by the transition that
  the table finds there, and the events lead from the machine at the start of the run to the machine at its
  end, whoever receives them.
Main exports: View, View.after, Machine.view_apply, Machine.Passes, Machine.passes_run, Machine.Settled,
  Machine.Reachable, Machine.Reachable.settled, Machine.Replays, Machine.Passes.replays,
  Machine.traced_run_replays
-/
import TapeMultiplier.Proofs.Machine.Growth

namespace TapeMultiplier

/-!
An event shows a tape, a head position and a state, and so does the configuration of a machine.  This is all
that a reader of a trace has, so what one event says of the next is stated on that view: a tape as a text and
a head as a position in it, with the growth of the tape as a rule on texts and positions.
-/

/-- What a trace shows of a machine. -/
structure View where
  state : String
  tape : String
  head : Nat
deriving Repr, DecidableEq

namespace View

/-- Cells and head position after a move to `position`, with a new blank if that is beside the cells. -/
def settle (cells : List Char) (position : Int) : List Char × Nat :=
  if cells.length ≤ position then (cells ++ [Symbol.blank.char], position.toNat)
  else if position < 0 then (Symbol.blank.char :: cells, (position + 1).toNat)
  else (cells, position.toNat)

/-- The character under the head, if the head is on the tape. -/
def read? (view : View) : Option Char :=
  view.tape.toList[view.head]?

/-- The view after a transition: its letter is written under the head, and the head moves. -/
def after (view : View) (t : Transition) : View :=
  let written := view.tape.toList.set view.head t.write.char
  let (cells, head) := settle written (view.head + t.move.offset)
  { state := t.target, tape := String.ofList cells, head }

/-- A position on the cells needs no blank. -/
theorem settle_of_inside {cells : List Char} {position : Nat} (inside : position < cells.length) :
    settle cells position = (cells, position) := by
  rw [settle, if_neg (by omega), if_neg (by omega), Int.toNat_natCast]

end View

/-- What an event shows. -/
def StepEvent.view (event : StepEvent) : View :=
  { state := event.state, tape := event.tape, head := event.head }

/-- What a configuration shows. -/
def Configuration.view (configuration : Configuration) : View :=
  { state := configuration.state, tape := configuration.tape, head := configuration.head }

/-- An event follows from a view: its transition is the one that the table finds there, it shows the view
after that transition, and its head is on its tape. -/
structure StepEvent.Follows (table : Table) (view : View) (event : StepEvent) : Prop where
  found : ∃ c, view.read? = some c ∧ table.lookup view.state c = some event.transition
  shows : event.view = view.after event.transition
  inside : event.head < event.tape.length

/-- Moving the head of a tape is moving a position on its cells. -/
theorem Tape.settle_cells (tape : Tape) (direction : Direction) :
    View.settle tape.cells (tape.head + direction.offset) =
      ((tape.move direction).cells, (tape.move direction).head) := by
  obtain ⟨before, current, after⟩ := tape
  cases direction with
  | left =>
      cases before with
      | nil =>
          have beside : (((⟨[], current, after⟩ : Tape).head : Int) + Direction.left.offset) = -1 := rfl
          rw [beside, (cells_move_left rfl).1, (cells_move_left rfl).2, View.settle,
            if_neg (by omega), if_pos (by omega)]
          rfl
      | cons c rest =>
          have back : (((⟨c :: rest, current, after⟩ : Tape).head : Int) + Direction.left.offset) =
              rest.length := Int.add_neg_cancel_right rest.length 1
          rw [back, View.settle_of_inside (by simp [cells])]
          simp [move, cells, head]
  | right =>
      have onward : (((⟨before, current, after⟩ : Tape).head : Int) + Direction.right.offset) =
          (before.length + 1 : Nat) := by
        simp [head, Direction.offset]
      rw [onward]
      cases after with
      | nil =>
          rw [(cells_move_right rfl).1, (cells_move_right rfl).2, View.settle, length_cells,
            if_pos (by simp [length]), Int.toNat_natCast]
          rfl
      | cons c rest =>
          rw [View.settle_of_inside (by simp [cells])]
          simp [move, cells, head]

namespace Machine

variable {table : Table} {m final : Machine} {t : Transition} {shown : List StepEvent}

/-! ### One event -/

theorem steps_apply (m : Machine) (t : Transition) : (m.apply t).steps = m.steps + 1 := rfl

theorem view_event (m : Machine) (step : Nat) (t : Transition) :
    (m.event step t).view = m.configuration.view := rfl

/-- The character under the head of a machine can be seen. -/
theorem read?_view (m : Machine) : m.configuration.view.read? = some m.read := by
  rw [View.read?, Configuration.view, configuration, Tape.text, String.toList_ofList,
    Tape.getElem?_cells_head, read]

/-- Applying a transition can be followed from what is seen. -/
theorem view_apply (m : Machine) (t : Transition) :
    (m.apply t).configuration.view = m.configuration.view.after t := by
  have written : m.tape.text.toList.set m.tape.head t.write.char = (m.tape.write t.write.char).cells := by
    rw [Tape.text, String.toList_ofList, Tape.cells_write]
  have moved := (m.tape.write t.write.char).settle_cells t.move
  have sameHead : (m.tape.write t.write.char).head = m.tape.head := rfl
  rw [sameHead] at moved
  rw [View.after, Configuration.view, Configuration.view, configuration, configuration]
  simp only [written, moved]
  rfl

/-- The event of a transition follows from what is seen of the machine that finds it. -/
theorem follows_event (found : table.lookup m.state m.read = some t) (step : Nat) :
    ((m.apply t).event step t).Follows table m.configuration.view where
  found := ⟨m.read, m.read?_view, found⟩
  shows := view_apply m t
  inside := by
    have inside := (m.apply t).tape.head_lt_length
    simpa [event, Tape.text] using inside

/-! ### A whole trace -/

/-- A machine passes through events and comes to a machine: it has stopped for want of budget, or it notices
that nothing matches, or it applies a transition and passes through the other events. -/
inductive Passes (table : Table) : Machine → List StepEvent → Machine → Prop where
  | stop (m : Machine) : Passes table m [] m
  | halt {m : Machine} (running : m.halted = false) (stuck : table.lookup m.state m.read = none) :
      Passes table m [] { m with halted := true }
  | apply {m final : Machine} {t : Transition} {shown : List StepEvent} (running : m.halted = false)
      (found : table.lookup m.state m.read = some t) (passes : Passes table (m.apply t) shown final) :
      Passes table m ((m.apply t).event (m.steps + 1) t :: shown) final

/-- A run passes through its events. -/
theorem passes_run (table : Table) (budget : Nat) (m : Machine) :
    Passes table m (m.events table budget) (m.run table budget) := by
  induction budget generalizing m with
  | zero => exact Passes.stop m
  | succ budget ih =>
      cases halted : m.halted with
      | true =>
          rw [events_of_halted halted, run_of_halted halted]
          exact Passes.stop m
      | false =>
          cases found : table.lookup m.state m.read with
          | none =>
              rw [events_of_stuck halted found, run_succ_of_stuck halted found]
              exact Passes.halt halted found
          | some t =>
              rw [events_succ_of_lookup halted found, run_succ_of_lookup halted found]
              exact Passes.apply halted found (ih (m.apply t))

/-- The events of a trace are a replay of a run: they are counted and numbered on from the machine at its
start, the first one follows from what is seen of that machine and each later one from the one before it,
and the last one shows what is seen of the machine at the end. -/
structure Replays (table : Table) (m : Machine) (shown : List StepEvent) (final : Machine) : Prop where
  counted : final.steps = m.steps + shown.length
  numbered : ∀ place event, shown[place]? = some event → event.step = m.steps + place + 1
  first : ∀ event, shown.head? = some event → event.Follows table m.configuration.view
  later : ∀ place earlier event, shown[place]? = some earlier → shown[place + 1]? = some event →
    event.Follows table earlier.view
  last : ∀ event, shown.getLast? = some event → event.view = final.configuration.view
  unmoved : shown = [] → final.configuration.view = m.configuration.view

/-- A replay with one more event in front. -/
theorem Replays.cons (found : table.lookup m.state m.read = some t)
    (replays : Replays table (m.apply t) shown final) :
    Replays table m ((m.apply t).event (m.steps + 1) t :: shown) final where
  counted := by
    rw [replays.counted, steps_apply, List.length_cons]
    omega
  numbered := by
    intro place event placed
    cases place with
    | zero =>
        cases placed
        rfl
    | succ place =>
        have numbered := replays.numbered place event placed
        rw [steps_apply] at numbered
        omega
  first := by
    intro event inFront
    cases inFront
    exact follows_event found (m.steps + 1)
  later := by
    intro place earlier event placed following
    cases place with
    | zero =>
        cases placed
        rw [List.getElem?_cons_succ, ← List.head?_eq_getElem?] at following
        rw [view_event]
        exact replays.first event following
    | succ place => exact replays.later place earlier event placed following
  last := by
    intro event atEnd
    cases shown with
    | nil =>
        cases atEnd
        rw [List.getLast_singleton, view_event, replays.unmoved rfl]
    | cons next rest => exact replays.last event atEnd
  unmoved := by
    intro empty
    cases empty

/-- Events that a machine passes through are a replay. -/
theorem Passes.replays (passes : Passes table m shown final) : Replays table m shown final := by
  induction passes with
  | stop m => constructor <;> simp
  | halt running stuck => constructor <;> simp [configuration, Configuration.view]
  | apply running found passes ih => exact ih.cons found

/-! ### Halting -/

/-- A machine has halted only where the table finds nothing. -/
def Settled (table : Table) (m : Machine) : Prop :=
  m.halted = true → table.lookup m.state m.read = none

/-- The machine that events lead to is settled if the one that they start from is. -/
theorem Passes.settled (passes : Passes table m shown final) (settled : m.Settled table) :
    final.Settled table := by
  induction passes with
  | stop m => exact settled
  | halt running stuck => exact fun _ => stuck
  | apply running found passes ih =>
      -- A machine that has applied a transition is running, so nothing is asked of it.
      apply ih
      intro halted
      cases running.symm.trans halted

/-- The machines that single steps and runs lead to from the start of a run. -/
inductive Reachable (table : Table) : Machine → Prop where
  | start {cells : List Char} {head : Int} {state : String} {m : Machine}
      (started : Machine.start cells head state = .ok m) : Reachable table m
  | step {m : Machine} (reachable : Reachable table m) : Reachable table (m.step table).2
  | run {m final : Machine} {limit : StepLimit} {patience : Nat} (reachable : Reachable table m)
      (answered : m.runLimited table patience limit = some final) : Reachable table final

/-- A machine at the start of a run has not halted. -/
theorem halted_of_start {cells : List Char} {head : Int} {state : String}
    (started : start cells head state = .ok m) : m.halted = false := by
  rw [start] at started
  split at started
  · cases started
    rfl
  · cases started

/-- A step is a run with a budget of one. -/
theorem advance_eq_run (table : Table) (m : Machine) : (m.step table).2 = m.run table 1 := by
  rw [run_eq_iterate]
  rfl

/-- No operation brings a machine to halt where the table finds something. -/
theorem Reachable.settled (reachable : Reachable table m) : m.Settled table := by
  induction reachable with
  | start started =>
      intro halted
      cases (halted_of_start started).symm.trans halted
  | step reachable ih =>
      rw [advance_eq_run]
      exact (passes_run table 1 _).settled ih
  | run reachable answered ih =>
      rcases ends_of_runLimited answered with ⟨ends, -⟩
      rw [← ends]
      exact (passes_run table _ _).settled ih

/-- A trace is a faithful replay of its run, and does not interfere with it.  From every machine that can be
reached, under every limit under which a run has an answer, there are events of which the following holds.
A run that hands its steps over to any receiver hands over these events in order, and comes to the same
machine as the run without a receiver.  The events replay the run.  And if that machine has halted, the table
finds nothing for its state and the character under its head. -/
theorem traced_run_replays {table : Table} {m final : Machine} {limit : StepLimit} {patience : Nat}
    (reachable : m.Reachable table) (answered : m.runLimited table patience limit = some final) :
    ∃ shown, Replays table m shown final ∧
      (∀ (μ : Type → Type) [Monad μ] [LawfulMonad μ] (emit : StepEvent → μ Unit),
        m.runTraced table emit (limit.budget patience) = do shown.forM emit; pure final) ∧
      (final.halted = true → ∃ c, final.configuration.view.read? = some c ∧
        table.lookup final.configuration.state c = none) := by
  rcases ends_of_runLimited answered with ⟨ends, -⟩
  have passes := passes_run table (limit.budget patience) m
  rw [ends] at passes
  refine ⟨m.events table (limit.budget patience), passes.replays, ?_, ?_⟩
  · intro μ _ _ emit
    rw [runTraced_eq, ends]
  · intro halted
    exact ⟨final.read, final.read?_view, passes.settled reachable.settled halted⟩

/-- A program that leaves its only cell on the left, writes there, and comes back. -/
def turnBack : Table :=
  ⟨[{ source := "q0", read := .number, target := "q1", write := .replacedZero, move := .left },
    { source := "q1", read := .blank, target := "q1", write := .split, move := .right }]⟩

/-- The two steps of the program, the first of which adds a cell on the left, are replayed by two events. -/
theorem traced_run_replays_turnBack :
    ∃ m final shown, Machine.start ['0'] 0 "q0" = .ok m ∧
      m.runLimited turnBack 3 .unlimited = some final ∧ m.Reachable turnBack ∧
      final.configuration = { state := "q1", head := 1, tape := "1X", steps := 2, halted := true } ∧
      Replays turnBack m shown final ∧ shown.length = 2 := by
  have started : Machine.start ['0'] 0 "q0" =
      .ok { state := "q0", tape := ⟨[], '0', []⟩, steps := 0, halted := false } := rfl
  have answered : Machine.runLimited turnBack 3 .unlimited
      { state := "q0", tape := ⟨[], '0', []⟩, steps := 0, halted := false } =
        some { state := "q1", tape := ⟨['1'], 'X', []⟩, steps := 2, halted := true } := rfl
  obtain ⟨shown, replays, -, -⟩ := traced_run_replays (.start started) answered
  have counted := replays.counted
  rw [Nat.zero_add] at counted
  exact ⟨_, _, shown, started, answered, .start started, rfl, replays, counted.symm⟩

end Machine

end TapeMultiplier
