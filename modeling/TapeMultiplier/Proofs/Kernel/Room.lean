/-
Module: TapeMultiplier.Proofs.Kernel.Room
Layer: Proofs
Purpose: When a kernel runs out of buffer.  The unused cells of its board on either side are the room it
  has there; the kernel stays within its buffer just if the machine adds no more cells than that.
Main exports: Report.Exceeded.length_tape, Board.room, Board.room_of_move, Board.room_of_full, Board.run_room
-/
import TapeMultiplier.Proofs.Kernel.Refinement
import TapeMultiplier.Proofs.Machine.Growth

namespace TapeMultiplier

/-- A machine that has exceeded a window has one cell more. -/
theorem Report.Exceeded.length_tape {report : Report} {m : Machine} (exceeded : report.Exceeded m)
    {tape : List Char} (decoded : decodeCells report.window = .ok tape) :
    m.tape.length = tape.length + 1 := by
  obtain ⟨live, shown, sides⟩ := exceeded.blank
  obtain rfl : tape = live := Except.ok.inj (decoded.symm.trans shown)
  rcases sides with ⟨-, cells, -⟩ | ⟨-, cells, -⟩
  · rw [← Tape.length_cells, cells, List.length_append, List.length_singleton]
  · rw [← Tape.length_cells, cells, List.length_cons]

namespace Board

/-- The number of unused cells on a side. -/
def room (board : Board) : Direction → Nat
  | .left => board.below.length
  | .right => board.beyond.length

/-- A move uses up a cell just if the head leaves the tape. -/
theorem room_of_move {board moved : Board} {direction : Direction}
    (moves : board.move direction = some moved) (side : Direction) :
    board.room side = (direction == side && board.tape.atEnd side).toNat + moved.room side := by
  cases moves_of_move moves with
  | left | right => cases side <;> simp [room, tape, Tape.atEnd]
  | widerLeft | widerRight => cases side <;> simp [room, tape, Tape.atEnd, Nat.add_comm]

/-- A move that is not possible leaves the tape where no cell is left. -/
theorem room_of_full {board : Board} {direction : Direction} (full : board.move direction = none) :
    board.room direction = 0 ∧ board.tape.atEnd direction = true := by
  cases direction with
  | left =>
      obtain ⟨first, used⟩ := full_of_move full
      simp [room, tape, Tape.atEnd, first, used]
  | right =>
      obtain ⟨last, used⟩ := full_of_move full
      simp [room, tape, Tape.atEnd, last, used]

/-- What the first step adds, and what the machine on the next board adds after it. -/
theorem growth_of_move {table : Table} {board moved : Board} {state : String} {t : Transition}
    (found : table.lookup state board.current.char = some t)
    (moves : (board.write t.write).move t.move = some moved) (side : Direction) (steps count : Nat) :
    (board.machine state steps).growth table side (count + 1) =
      (t.move == side && board.tape.atEnd side).toNat +
        (moved.machine t.target (steps + 1)).growth table side count := by
  have next : (board.machine state steps).advance table = moved.machine t.target (steps + 1) := by
    rw [Machine.advance_of_lookup rfl found]
    simp only [Machine.apply, machine, ← tape_move moves]
    rfl
  rw [Machine.growth_succ_front, Machine.grows_of_lookup rfl found, next]
  rfl

/-- A kernel that runs out of buffer does so with the first cell for which there is no room, and one that
does not has room for all the cells that the machine adds. -/
theorem run_room {table : Table} (board : Board) {row : Nat} {state : String}
    (numbered : table.states[row]? = some state) (steps budget : Nat) {report : Report}
    (ran : (board.kernel row steps).run table.dense budget = .ok report) :
    (report.status = .tapeOverflow ∧ ∃ side applied, applied ≤ budget ∧
        report.steps = steps + applied ∧
        (board.machine state steps).growth table side applied = board.room side + 1) ∨
      report.status ≠ .tapeOverflow ∧
        ∀ side, (board.machine state steps).growth table side budget ≤ board.room side := by
  induction budget generalizing board row state steps with
  | zero =>
      obtain rfl := Except.ok.inj ran
      exact Or.inr ⟨Status.noConfusion, fun side => Nat.zero_le _⟩
  | succ budget ih =>
      obtain ⟨progress, stepped, made⟩ := exists_steps board steps numbered
      rw [Kernel.run, stepped] at ran
      cases made with
      | halts stuck =>
          obtain rfl := Except.ok.inj ran
          refine Or.inr ⟨Status.noConfusion, fun side => ?_⟩
          rw [Machine.growth_succ_front, Machine.grows_of_stuck rfl stuck,
            Machine.advance_of_stuck rfl stuck, Machine.growth_of_halted rfl]
          exact Nat.zero_le _
      | @overflows t found full =>
          obtain rfl := Except.ok.inj ran
          obtain ⟨used, leaves⟩ := room_of_full full
          refine Or.inl ⟨rfl, t.move, 1, by omega, rfl, ?_⟩
          have grown : (board.machine state steps).grows table t.move = true := by
            rw [Machine.grows_of_lookup rfl found, beq_self_eq_true, Bool.true_and]
            exact leaves
          rw [Machine.growth_succ, Machine.growth_zero, Function.iterate_zero_apply, grown]
          exact congrArg (· + 1) used.symm
      | @goesOn t moved found moves =>
          -- Writing a letter changes neither the room nor where the tape ends.
          have used := room_of_move moves
          have shift : ∀ side, board.room side =
              (t.move == side && board.tape.atEnd side).toNat + moved.room side := used
          rcases ih moved (Table.states_idxOf_target found) (steps + 1) ran with
            ⟨overflown, side, applied, within, counted, beyond⟩ | ⟨contained, fits⟩
          · refine Or.inl ⟨overflown, side, applied + 1, by omega, by omega, ?_⟩
            rw [growth_of_move found moves, beyond, shift, Nat.add_assoc]
          · refine Or.inr ⟨contained, fun side => ?_⟩
            rw [growth_of_move found moves, shift]
            exact Nat.add_le_add_left (fits side) _

end Board

end TapeMultiplier
