/-
Module: TapeMultiplier.Proofs.Machine.Mirror
Layer: Proofs
Purpose: Left and right are alike.  A program with every direction reversed does on the reversed tape what the
  program does on the tape, seen in a mirror: the two ways in which a tape grows do not differ otherwise.
Main exports: Tape.reverse_move, Tape.ofCells?_reverse, Table.lookup_flip, Machine.mirror,
  Machine.step_mirror, Machine.run_mirror, Configuration.Mirrors, Machine.flip_mirrors
-/
import TapeMultiplier.Proofs.Machine.Replay

namespace TapeMultiplier

/-! ### Tapes -/

namespace Tape

@[simp]
theorem cells_reverse (tape : Tape) : tape.reverse.cells = tape.cells.reverse := by
  simp [cells, reverse]

/-- A position from the left and the same one from the right are together one less than the length. -/
theorem head_reverse (tape : Tape) : tape.reverse.head + tape.head + 1 = tape.length := by
  simp only [head, length, reverse]
  omega

theorem reverse_write (tape : Tape) (c : Char) : (tape.write c).reverse = tape.reverse.write c := rfl

/-- Growth on the left is growth on the right in the mirror. -/
theorem reverse_move (tape : Tape) (direction : Direction) :
    (tape.move direction).reverse = tape.reverse.move direction.flip := by
  obtain ⟨before, current, after⟩ := tape
  cases direction with
  | left => cases before <;> rfl
  | right => cases after <;> rfl

/-- A tape made of reversed cells is the reverse of the tape made of the cells. -/
theorem ofCells?_reverse {given : List Char} {position : Int} {tape : Tape}
    (made : ofCells? given position = some tape) :
    ofCells? given.reverse (given.length - 1 - position) = some tape.reverse := by
  obtain ⟨cells, place⟩ := cells_of_ofCells? made
  have opposite : (given.length : Int) - 1 - position = tape.reverse.head := by
    have both := tape.head_reverse
    rw [← length_cells, cells] at both
    omega
  rw [opposite, ← cells, ← cells_reverse]
  exact ofCells?_cells tape.reverse

end Tape

/-! ### Tables -/

/-- Reversed directions change nothing in what is found. -/
theorem Table.lookup_flip (table : Table) (state : String) (read : Char) :
    table.flip.lookup state read = (table.lookup state read).map Transition.flip := by
  rw [lookup, flip, List.find?_map]
  rfl

/-- The outcome of a step in the mirror: it shows the reversed transition. -/
def Outcome.flip : Outcome → Outcome
  | .applied step t => .applied step t.flip
  | .halted state read => .halted state read

/-! ### Machines -/

namespace Machine

variable {table : Table}

/-- The machine seen in a mirror. -/
def mirror (m : Machine) : Machine :=
  { m with tape := m.tape.reverse }

theorem apply_mirror (m : Machine) (t : Transition) : (m.apply t).mirror = m.mirror.apply t.flip := by
  rw [apply, mirror, Tape.reverse_move, Tape.reverse_write]
  rfl

/-- A step in the mirror is the step, seen in the mirror. -/
theorem step_mirror (table : Table) (m : Machine) :
    m.mirror.step table.flip = ((m.step table).1.flip, (m.step table).2.mirror) := by
  cases halted : m.halted with
  | true =>
      rw [step_of_halted halted, step_of_halted (m := m.mirror) halted]
      rfl
  | false =>
      have found := table.lookup_flip m.state m.read
      cases lookedUp : table.lookup m.state m.read with
      | none =>
          rw [lookedUp] at found
          rw [step_of_stuck halted lookedUp, step_of_stuck (m := m.mirror) halted found]
          rfl
      | some t =>
          rw [lookedUp] at found
          rw [step_of_lookup halted lookedUp, step_of_lookup (m := m.mirror) halted found, apply_mirror]
          rfl

/-- Any number of steps in the mirror are these steps, seen in the mirror. -/
theorem iterate_mirror (table : Table) (count : Nat) (m : Machine) :
    (advance table.flip)^[count] m.mirror = ((advance table)^[count] m).mirror := by
  have oneStep : Function.Semiconj mirror (advance table) (advance table.flip) :=
    fun m => congrArg Prod.snd (step_mirror table m).symm
  exact ((oneStep.iterate_right count).eq m).symm

theorem run_mirror (table : Table) (budget : Nat) (m : Machine) :
    m.mirror.run table.flip budget = (m.run table budget).mirror := by
  rw [run_eq_iterate, run_eq_iterate, iterate_mirror]

/-- A run in the mirror has an answer just if the run has, and it is that answer, seen in the mirror. -/
theorem runLimited_mirror (table : Table) (patience : Nat) (limit : StepLimit) (m : Machine) :
    m.mirror.runLimited table.flip patience limit =
      (m.runLimited table patience limit).map mirror := by
  have sameEnd : limit.accepts (m.run table (limit.budget patience)).mirror =
      limit.accepts (m.run table (limit.budget patience)) := by
    cases limit <;> rfl
  simp only [runLimited, run_mirror, sameEnd]
  split <;> rfl

end Machine

/-- A configuration shows what another one shows in a mirror: the tape from right to left, and the head where
it is from the other end; state, steps and halting are the same. -/
structure Configuration.Mirrors (shown other : Configuration) : Prop where
  state : other.state = shown.state
  steps : other.steps = shown.steps
  halted : other.halted = shown.halted
  tape : other.tape.toList = shown.tape.toList.reverse
  head : (other.head : Int) = shown.tape.length - 1 - shown.head

namespace Machine

theorem mirrors_configuration (m : Machine) : m.configuration.Mirrors m.mirror.configuration where
  state := rfl
  steps := rfl
  halted := rfl
  tape := by
    simp only [configuration, mirror, Tape.text, String.toList_ofList, Tape.cells_reverse]
  head := by
    have both := m.tape.head_reverse
    simp only [configuration, mirror, Tape.text, String.length_ofList, Tape.length_cells]
    omega

/-- A machine starts on the reversed cells, with its head where it is from the other end, as the mirror image
of the machine that starts on the cells. -/
theorem start_mirror {given : List Char} {head : Int} {state : String} {m : Machine}
    (started : start given head state = .ok m) :
    start given.reverse (given.length - 1 - head) state = .ok m.mirror := by
  rw [start] at started
  split at started
  · next tape made =>
    cases started
    rw [start, Tape.ofCells?_reverse made]
    rfl
  · cases started

/-- Left and right are alike.  Start a program on some cells, and the program with all its directions reversed
on the reversed cells, with the head where it is from the other end.  After any number of steps the second
machine shows what the first one shows in a mirror, and so it does after every run: under any limit the one
run has an answer just if the other has. -/
theorem flip_mirrors (table : Table) (given : List Char) (head : Int) (state : String)
    (lower : 0 ≤ head) (upper : head < given.length) :
    ∃ m other, start given head state = .ok m ∧
      start given.reverse (given.length - 1 - head) state = .ok other ∧
      (∀ count, ((advance table)^[count] m).configuration.Mirrors
        ((advance table.flip)^[count] other).configuration) ∧
      (∀ patience limit final, m.runLimited table patience limit = some final →
        ∃ otherFinal, other.runLimited table.flip patience limit = some otherFinal ∧
          final.configuration.Mirrors otherFinal.configuration) ∧
      ∀ patience limit, m.runLimited table patience limit = none →
        other.runLimited table.flip patience limit = none := by
  obtain ⟨tape, made⟩ := Tape.exists_ofCells? lower upper
  have started : start given head state = .ok { state, tape, steps := 0, halted := false } := by
    rw [start, made]
  refine ⟨_, _, started, start_mirror started, ?_, ?_, ?_⟩
  · intro count
    rw [iterate_mirror]
    exact mirrors_configuration _
  · intro patience limit final answered
    refine ⟨final.mirror, ?_, mirrors_configuration final⟩
    rw [runLimited_mirror, answered]
    rfl
  · intro patience limit unanswered
    rw [runLimited_mirror, unanswered]
    rfl

/-- The program that turns back adds a cell on the left of its two; with its directions reversed it adds one
on the right, and leaves the same letters in the opposite order. -/
theorem flip_mirrors_turnBack :
    ∃ m other, start ['0', 'C'] 0 "q0" = .ok m ∧ start ['C', '0'] 1 "q0" = .ok other ∧
      ((advance turnBack)^[2] m).configuration =
        { state := "q1", head := 1, tape := "1XC", steps := 2, halted := false } ∧
      ((advance turnBack.flip)^[2] other).configuration =
        { state := "q1", head := 1, tape := "CX1", steps := 2, halted := false } ∧
      ((advance turnBack)^[2] m).configuration.Mirrors
        ((advance turnBack.flip)^[2] other).configuration := by
  obtain ⟨m, other, started, mirrored, steps, -⟩ :=
    flip_mirrors turnBack ['0', 'C'] 0 "q0" (by decide) (by decide)
  obtain rfl : { state := "q0", tape := ⟨[], '0', ['C']⟩, steps := 0, halted := false } = m :=
    Except.ok.inj started
  obtain rfl : { state := "q0", tape := ⟨['C'], '0', []⟩, steps := 0, halted := false } = other :=
    Except.ok.inj mirrored
  exact ⟨_, _, started, mirrored, rfl, rfl, steps 2⟩

end Machine

end TapeMultiplier
