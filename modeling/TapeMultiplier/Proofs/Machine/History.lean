/-
Module: TapeMultiplier.Proofs.Machine.History
Layer: Proofs
Purpose: What holds of a machine whatever calls were made on it.  A history of single steps and of runs is a
  sequence of single steps, so what a step keeps holds after every history: where the head is, how far the
  tape has grown, what its cells hold, how the steps are counted, and that halting is the end.
Main exports: Machine.outcomes, Machine.History, Machine.Steps, Machine.History.steps, Machine.Sound,
  Machine.Continues, Machine.history_sound
-/
import TapeMultiplier.Proofs.Machine.Replay

namespace TapeMultiplier

/-!
A caller sees the outcome of every single step, and of a run only the machine that it leaves behind.  The
outcomes inside a run are nevertheless those of its steps, so a history lists them all: the numbers of the
applied ones then account for every change of the step counter.
-/

/-- The number of a step that was applied. -/
def Outcome.number? : Outcome → Option Nat
  | .applied step _ => some step
  | .halted _ _ => none

namespace Tape

variable {tape : Tape} {c : Char}

/-- A cell that was written holds what it held before, or what was written. -/
theorem mem_cells_write {letter : Char} (member : c ∈ (tape.write letter).cells) :
    c ∈ tape.cells ∨ c = letter := by
  rw [cells_write] at member
  exact List.mem_or_eq_of_mem_set member

/-- A move brings nothing but a blank onto the tape. -/
theorem mem_cells_move {direction : Direction} (member : c ∈ (tape.move direction).cells) :
    c ∈ tape.cells ∨ c = Symbol.blank.char := by
  have moved := tape.settle_cells direction
  rw [View.settle] at moved
  split at moved
  · obtain ⟨cells, -⟩ := Prod.mk.inj moved
    rw [← cells, List.mem_append, List.mem_singleton] at member
    exact member
  · split at moved
    · obtain ⟨cells, -⟩ := Prod.mk.inj moved
      rw [← cells, List.mem_cons] at member
      exact member.symm
    · obtain ⟨cells, -⟩ := Prod.mk.inj moved
      rw [← cells] at member
      exact Or.inl member

end Tape

namespace Machine

variable {table : Table} {given : List Char} {m last final : Machine} {taken : List Outcome}

/-! ### Calls -/

/-- The outcomes of the steps that a run takes. -/
def outcomes (table : Table) : Nat → Machine → List Outcome
  | 0, _ => []
  | budget + 1, m =>
      match m.step table with
      | (.halted state read, _) => [.halted state read]
      | (.applied step t, next) => .applied step t :: outcomes table budget next

/-- A history of a machine: calls of single steps, and of runs that come to an end, one after the other.
It lists the outcomes of all steps in order. -/
inductive History (table : Table) (m : Machine) : List Outcome → Machine → Prop where
  | none : History table m [] m
  | step {taken : List Outcome} {last : Machine} (history : History table m taken last) :
      History table m (taken ++ [(last.step table).1]) (last.step table).2
  | run {taken : List Outcome} {last final : Machine} {limit : StepLimit} {patience : Nat}
      (history : History table m taken last)
      (answered : last.runLimited table patience limit = some final) :
      History table m (taken ++ last.outcomes table (limit.budget patience)) final

/-- A sequence of single steps, with their outcomes. -/
inductive Steps (table : Table) (m : Machine) : List Outcome → Machine → Prop where
  | none : Steps table m [] m
  | next {taken : List Outcome} {last : Machine} (steps : Steps table m taken last) :
      Steps table m (taken ++ [(last.step table).1]) (last.step table).2

/-- A run takes single steps. -/
theorem Steps.run (steps : Steps table m taken last) (budget : Nat) :
    Steps table m (taken ++ last.outcomes table budget) (last.run table budget) := by
  induction budget generalizing taken last with
  | zero =>
      rw [outcomes, List.append_nil]
      exact steps
  | succ budget ih =>
      have next := steps.next
      rw [outcomes, Machine.run]
      cases stepped : last.step table with
      | mk outcome after =>
          rw [stepped] at next
          cases outcome with
          | halted state read => exact next
          | applied step t =>
              have rest := ih next
              rw [List.append_assoc] at rest
              exact rest

/-- Every history is a sequence of single steps. -/
theorem History.steps (history : History table m taken final) : Steps table m taken final := by
  induction history with
  | none => exact Steps.none
  | step history ih => exact ih.next
  | run history answered ih =>
      rcases ends_of_runLimited answered with ⟨ends, -⟩
      rw [← ends]
      exact ih.run _

/-- A history from a machine that can be reached leads to one. -/
theorem History.reachable (history : History table m taken final) (reachable : m.Reachable table) :
    final.Reachable table := by
  induction history with
  | none => exact reachable
  | step history ih => exact ih.step
  | run history answered ih => exact ih.run answered

/-! ### The tape -/

/-- The tape of a machine that was started on given cells: it is no shorter than they are, no longer than
they and the steps are together, and holds nothing but them and letters. -/
structure GrownFrom (given : List Char) (m : Machine) : Prop where
  lower : given.length ≤ m.tape.length
  upper : m.tape.length ≤ given.length + m.steps
  letters : ∀ c ∈ m.tape.cells, c ∈ given ∨ ∃ symbol : Symbol, symbol.char = c

/-- A transition adds at most one cell, and writes a letter. -/
theorem GrownFrom.apply (grown : GrownFrom given m) (t : Transition) : GrownFrom given (m.apply t) := by
  have length : (m.apply t).tape.length = m.tape.length + (m.tape.atEnd t.move).toNat := by
    rw [Machine.apply, Tape.length_move, Tape.length_write, Tape.atEnd_write]
  have oneAtMost := Bool.toNat_le (m.tape.atEnd t.move)
  have lower := grown.lower
  have upper := grown.upper
  refine ⟨by omega, ?_, ?_⟩
  · rw [steps_apply]
    omega
  · intro c member
    rcases Tape.mem_cells_move member with written | rfl
    · rcases Tape.mem_cells_write written with before | rfl
      · exact grown.letters c before
      · exact Or.inr ⟨t.write, rfl⟩
    · exact Or.inr ⟨.blank, rfl⟩

/-- Single steps keep what is said of the tape. -/
theorem Steps.grownFrom (steps : Steps table m taken final) (grown : GrownFrom given m) :
    GrownFrom given final := by
  induction steps with
  | none => exact grown
  | @next _ last steps ih =>
      rcases step_cases table last with ⟨-, same | same⟩ | ⟨t, -, -, applied⟩
      · rwa [same]
      · rw [same]
        exact ⟨ih.lower, ih.upper, ih.letters⟩
      · rw [applied]
        exact ih.apply t

/-- At the start the tape has the given cells. -/
theorem grownFrom_start {head : Int} {state : String} (started : start given head state = .ok m) :
    GrownFrom given m := by
  rw [start] at started
  split at started
  · next tape made =>
    cases started
    have cells := (Tape.cells_of_ofCells? made).1
    refine ⟨?_, ?_, ?_⟩
    · rw [← cells, Tape.length_cells]
    · rw [← cells, Tape.length_cells]
      exact Nat.le_add_right _ _
    · rintro c member
      rw [cells] at member
      exact Or.inl member
  · cases started

/-! ### The count of the steps -/

/-- The steps that were applied are numbered on from the counter, without a gap, and the counter ends with
the last number. -/
theorem Steps.numbered (steps : Steps table m taken final) :
    ∃ count, final.steps = m.steps + count ∧
      taken.filterMap Outcome.number? = List.range' (m.steps + 1) count := by
  induction steps with
  | none => exact ⟨0, rfl, rfl⟩
  | @next _ last steps ih =>
      obtain ⟨count, counted, numbers⟩ := ih
      rw [List.filterMap_append, numbers]
      rcases step_cases table last with ⟨outcome, same | same⟩ | ⟨t, -, -, applied⟩
      · refine ⟨count, by rw [same, counted], ?_⟩
        simp [outcome, Outcome.number?]
      · refine ⟨count, by rw [same, counted], ?_⟩
        simp [outcome, Outcome.number?]
      · refine ⟨count + 1, ?_, ?_⟩
        · rw [applied, steps_apply, counted, Nat.add_assoc]
        · rw [applied, List.range'_1_concat, counted, Nat.add_right_comm]
          rfl

/-! ### The end -/

/-- Nothing changes a machine that has halted. -/
theorem Steps.of_halted (steps : Steps table m taken final) (halted : m.halted = true) :
    final = m ∧ ∀ outcome ∈ taken, outcome = .halted m.state m.read := by
  induction steps with
  | none => exact ⟨rfl, by simp⟩
  | next steps ih =>
      obtain ⟨rfl, outcomes⟩ := ih
      rw [step_of_halted halted]
      refine ⟨rfl, ?_⟩
      intro outcome member
      rcases List.mem_append.mp member with before | now
      · exact outcomes outcome before
      · exact List.mem_singleton.mp now

/-- Every run of a machine that has halted returns the machine at once. -/
theorem runLimited_of_halted (halted : m.halted = true) (patience : Nat) (limit : StepLimit) :
    m.runLimited table patience limit = some m :=
  runLimited_of_ends (run_of_halted halted _) fun _ => halted

/-! ### Every history -/

/-- What is promised of a machine that was started on given cells, as far as it can be seen from outside. -/
structure Sound (table : Table) (given : List Char) (m : Machine) : Prop where
  /-- The head is on the tape. -/
  inside : m.configuration.head < m.configuration.tape.length
  /-- The tape has lost no cell. -/
  lower : given.length ≤ m.configuration.tape.length
  /-- The tape has grown by one cell a step at most. -/
  upper : m.configuration.tape.length ≤ given.length + m.configuration.steps
  /-- The cells hold letters, and characters that were given. -/
  letters : ∀ c ∈ m.configuration.tape.toList, c ∈ given ∨ ∃ symbol : Symbol, symbol.char = c
  /-- Where it has halted, the table finds nothing. -/
  stuck : m.configuration.halted = true → ∃ c, m.configuration.view.read? = some c ∧
    table.lookup m.configuration.state c = none
  /-- Once it has halted, each single step says so, and each run returns it as it is. -/
  rests : m.configuration.halted = true → m.step table = (.halted m.state m.read, m) ∧
    ∀ patience limit, m.runLimited table patience limit = some m

/-- What is promised of a history: the counter does not decrease, and accounts for the applied steps, which
are numbered on from it; a machine that has halted stays as it is, and every step says that it has. -/
structure Continues (m : Machine) (taken : List Outcome) (final : Machine) : Prop where
  counted : ∃ count, final.steps = m.steps + count ∧
    taken.filterMap Outcome.number? = List.range' (m.steps + 1) count
  ended : m.halted = true → final = m ∧ ∀ outcome ∈ taken, outcome = .halted m.state m.read

theorem History.continues (history : History table m taken final) : Continues m taken final where
  counted := history.steps.numbered
  ended := history.steps.of_halted

/-- A machine that a history has led to from the start is sound. -/
theorem History.sound {head : Int} {state : String} (started : start given head state = .ok m)
    (history : History table m taken final) : Sound table given final := by
  have grown := history.steps.grownFrom (grownFrom_start started)
  have settled := (history.reachable (.start started)).settled
  have length : final.configuration.tape.length = final.tape.length := by
    rw [configuration, Tape.text, String.length_ofList, Tape.length_cells]
  refine ⟨?_, ?_, ?_, ?_, ?_, ?_⟩
  · rw [length]
    exact final.tape.head_lt_length
  · rw [length]
    exact grown.lower
  · rw [length]
    exact grown.upper
  · intro c member
    rw [configuration, Tape.text, String.toList_ofList] at member
    exact grown.letters c member
  · intro halted
    exact ⟨final.read, final.read?_view, settled halted⟩
  · intro halted
    exact ⟨step_of_halted halted, runLimited_of_halted halted⟩

/-- Whatever calls are made on a machine.  Every head position on the given cells, whatever characters these
hold, is one to start at.  After every history of single steps and runs the machine is sound, and every
history that goes on from there counts its steps and respects that the machine has halted. -/
theorem history_sound (table : Table) (given : List Char) (head : Int) (state : String)
    (lower : 0 ≤ head) (upper : head < given.length) :
    ∃ m, start given head state = .ok m ∧
      m.configuration =
        { state, head := head.toNat, tape := String.ofList given, steps := 0, halted := false } ∧
      ∀ taken reached, History table m taken reached →
        Sound table given reached ∧
          ∀ more later, History table reached more later → Continues reached more later := by
  obtain ⟨tape, made⟩ := Tape.exists_ofCells? lower upper
  obtain ⟨cells, position⟩ := Tape.cells_of_ofCells? made
  have started : start given head state = .ok { state, tape, steps := 0, halted := false } := by
    rw [start, made]
  refine ⟨_, started, ?_, ?_⟩
  · rw [configuration, Tape.text, cells, ← position, Int.toNat_natCast]
  · intro taken reached history
    exact ⟨history.sound started, fun more later onward => onward.continues⟩

/-- The program that turns back on its first cell, started beside a character that is no letter: a single
step, a run without a limit that comes to its end, and a step that finds it there. -/
theorem history_sound_turnBack :
    ∃ m reached, start ['0', '?'] 0 "q0" = .ok m ∧
      History turnBack m [.applied 1 (turnBack.transitions[0]), .applied 2 (turnBack.transitions[1]),
        .halted "q1" 'X', .halted "q1" 'X'] reached ∧
      reached.configuration = { state := "q1", head := 1, tape := "1X?", steps := 2, halted := true } ∧
      Sound turnBack ['0', '?'] reached := by
  obtain ⟨m, started, -, sound⟩ := history_sound turnBack ['0', '?'] 0 "q0" (by decide) (by decide)
  obtain rfl : { state := "q0", tape := ⟨[], '0', ['?']⟩, steps := 0, halted := false } = m :=
    Except.ok.inj started
  have answered : Machine.runLimited turnBack 3 .unlimited
      { state := "q1", tape := ⟨[], '_', ['X', '?']⟩, steps := 1, halted := false } =
        some { state := "q1", tape := ⟨['1'], 'X', ['?']⟩, steps := 2, halted := true } := rfl
  have first : History turnBack { state := "q0", tape := ⟨[], '0', ['?']⟩, steps := 0, halted := false }
      [.applied 1 (turnBack.transitions[0])]
      { state := "q1", tape := ⟨[], '_', ['X', '?']⟩, steps := 1, halted := false } := History.none.step
  have history := (first.run answered).step
  exact ⟨_, _, started, history, rfl, (sound _ _ history).1⟩

end Machine

end TapeMultiplier
