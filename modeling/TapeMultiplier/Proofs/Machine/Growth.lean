/-
Module: TapeMultiplier.Proofs.Machine.Growth
Layer: Proofs
Purpose: Steps taken one by one, and the cells that they add.  A run is a number of single steps, and a
  tape is as long as it was at the start plus the cells that were added on either side.
Main exports: Machine.advance, Machine.run_eq_iterate, Machine.grows, Machine.growth,
  Machine.growth_succ, Machine.length_iterate
-/
import Mathlib.Logic.Function.Iterate
import Mathlib.Order.Monotone.Basic
import TapeMultiplier.Proofs.Machine.Run
import TapeMultiplier.Proofs.Tape

namespace TapeMultiplier

namespace Tape

/-- Whether the head has no cell before it in a direction. -/
def atEnd (tape : Tape) : Direction → Bool
  | .left => tape.before.isEmpty
  | .right => tape.after.isEmpty

@[simp]
theorem atEnd_write (tape : Tape) (c : Char) (direction : Direction) :
    (tape.write c).atEnd direction = tape.atEnd direction := by
  cases direction <;> rfl

@[simp]
theorem length_write (tape : Tape) (c : Char) : (tape.write c).length = tape.length := rfl

/-- A move makes the tape longer just if the head leaves it. -/
theorem length_move (tape : Tape) (direction : Direction) :
    (tape.move direction).length = tape.length + (tape.atEnd direction).toNat := by
  obtain ⟨before, current, after⟩ := tape
  cases direction with
  | left =>
      cases before with
      | nil => simp [move, atEnd, length]
      | cons c rest =>
          simp [move, atEnd, length]
          omega
  | right =>
      cases after with
      | nil => simp [move, atEnd, length]
      | cons c rest =>
          simp [move, atEnd, length]
          omega

/-- A head that leaves the tape stands on the cell that is added. -/
theorem atEnd_move (tape : Tape) {direction : Direction} (leaves : tape.atEnd direction = true) :
    (tape.move direction).atEnd direction = true := by
  obtain ⟨before, current, after⟩ := tape
  cases direction with
  | left =>
      obtain rfl := List.isEmpty_iff.mp leaves
      rfl
  | right =>
      obtain rfl := List.isEmpty_iff.mp leaves
      rfl

theorem head_of_atEnd_left {tape : Tape} (first : tape.atEnd .left = true) : tape.head = 0 := by
  rw [head, List.isEmpty_iff.mp first, List.length_nil]

theorem head_of_atEnd_right {tape : Tape} (last : tape.atEnd .right = true) :
    tape.head + 1 = tape.length := by
  rw [head, length, List.isEmpty_iff.mp last, List.length_nil]

end Tape

namespace Machine

/-- The machine after one step. -/
def advance (table : Table) (m : Machine) : Machine :=
  (m.step table).2

/-- Whether the next step adds a cell in a direction. -/
def grows (table : Table) (direction : Direction) (m : Machine) : Bool :=
  match (m.step table).1 with
  | .applied _ t => t.move == direction && m.tape.atEnd direction
  | .halted _ _ => false

/-- The number of cells that the first steps add in a direction. -/
def growth (table : Table) (direction : Direction) (count : Nat) (m : Machine) : Nat :=
  (List.range count).countP fun before => ((advance table)^[before] m).grows table direction

variable {table : Table} {m : Machine} {t : Transition}

/-! ### One step -/

theorem advance_of_halted (halted : m.halted = true) : m.advance table = m := by
  rw [advance, step_of_halted halted]

theorem advance_of_stuck (running : m.halted = false) (stuck : table.lookup m.state m.read = none) :
    m.advance table = { m with halted := true } := by
  rw [advance, step_of_stuck running stuck]

theorem advance_of_lookup (running : m.halted = false)
    (found : table.lookup m.state m.read = some t) : m.advance table = m.apply t := by
  rw [advance, step_of_lookup running found]

theorem grows_of_halted (halted : m.halted = true) (direction : Direction) :
    m.grows table direction = false := by
  rw [grows, step_of_halted halted]

theorem grows_of_stuck (running : m.halted = false) (stuck : table.lookup m.state m.read = none)
    (direction : Direction) : m.grows table direction = false := by
  rw [grows, step_of_stuck running stuck]

theorem grows_of_lookup (running : m.halted = false)
    (found : table.lookup m.state m.read = some t) (direction : Direction) :
    m.grows table direction = (t.move == direction && m.tape.atEnd direction) := by
  rw [grows, step_of_lookup running found]

/-- What one step can do: nothing any more, notice that nothing matches, or apply a transition. -/
theorem advance_cases (table : Table) (m : Machine) :
    (m.advance table = m ∨ m.advance table = { m with halted := true }) ∧
        (∀ direction, m.grows table direction = false) ∨
      ∃ t, m.halted = false ∧ table.lookup m.state m.read = some t ∧ m.advance table = m.apply t ∧
        ∀ direction, m.grows table direction = (t.move == direction && m.tape.atEnd direction) := by
  rcases step_cases table m with ⟨outcome, same⟩ | ⟨t, running, found, -⟩
  · refine Or.inl ⟨same, ?_⟩
    intro direction
    rw [grows, outcome]
  · exact Or.inr ⟨t, running, found, advance_of_lookup running found, grows_of_lookup running found⟩

/-- A step adds the cells by which the tape gets longer. -/
theorem length_advance (table : Table) (m : Machine) :
    (m.advance table).tape.length =
      m.tape.length + (m.grows table .left).toNat + (m.grows table .right).toNat := by
  obtain ⟨same | same, still⟩ | ⟨t, -, -, applied, grown⟩ := advance_cases table m
  · simp [same, still]
  · simp [same, still]
  · rw [applied, grown, grown, apply, Tape.length_move, Tape.length_write, Tape.atEnd_write]
    cases t.move <;> simp

/-- A step that adds a cell ends on it. -/
theorem atEnd_advance {direction : Direction} (grown : m.grows table direction = true) :
    (m.advance table).tape.atEnd direction = true := by
  obtain ⟨-, still⟩ | ⟨t, -, -, applied, grows⟩ := advance_cases table m
  · rw [still] at grown
    cases grown
  · rw [grows, Bool.and_eq_true, beq_iff_eq] at grown
    obtain ⟨rfl, leaves⟩ := grown
    rw [applied]
    exact Tape.atEnd_move _ ((Tape.atEnd_write _ _ _).trans leaves)

/-! ### Many steps -/

theorem iterate_of_halted (halted : m.halted = true) (count : Nat) :
    (advance table)^[count] m = m :=
  Function.iterate_fixed (advance_of_halted halted) count

/-- A run takes its steps one by one; the steps after the last one change nothing. -/
theorem run_eq_iterate (table : Table) (budget : Nat) (m : Machine) :
    m.run table budget = (advance table)^[budget] m := by
  induction budget generalizing m with
  | zero => rfl
  | succ budget ih =>
      rw [Function.iterate_succ_apply]
      cases halted : m.halted with
      | true => rw [run_of_halted halted, advance_of_halted halted, iterate_of_halted halted]
      | false =>
          cases found : table.lookup m.state m.read with
          | none =>
              rw [run_succ_of_stuck halted found, advance_of_stuck halted found,
                iterate_of_halted rfl]
          | some t => rw [run_succ_of_lookup halted found, advance_of_lookup halted found, ih]

/-- A larger budget changes nothing for a machine that halts. -/
theorem run_of_le {budget larger : Nat} (enough : budget ≤ larger)
    (halted : (m.run table budget).halted = true) : m.run table larger = m.run table budget := by
  obtain ⟨more, rfl⟩ := Nat.exists_eq_add_of_le enough
  rw [run_eq_iterate] at halted
  rw [run_eq_iterate, run_eq_iterate, Nat.add_comm, Function.iterate_add_apply,
    iterate_of_halted halted]

/-- An answer is where the run ends, and without a limit it has halted. -/
theorem ends_of_runLimited {patience : Nat} {limit : StepLimit} {final : Machine}
    (answered : m.runLimited table patience limit = some final) :
    m.run table (limit.budget patience) = final ∧ (limit = .unlimited → final.halted = true) := by
  rw [runLimited, Option.ite_none_right_eq_some] at answered
  obtain ⟨accepted, ends⟩ := answered
  cases ends
  refine ⟨rfl, ?_⟩
  rintro rfl
  exact accepted

/-- A larger patience changes no answer. -/
theorem runLimited_of_le {patience larger : Nat} {limit : StepLimit} {final : Machine}
    (enough : patience ≤ larger) (answered : m.runLimited table patience limit = some final) :
    m.runLimited table larger limit = some final := by
  cases limit with
  | atMost steps => exact answered
  | unlimited =>
      obtain ⟨ends, halts⟩ := ends_of_runLimited answered
      have halted : (m.run table patience).halted = true := ends.symm ▸ halts rfl
      exact runLimited_of_ends ((run_of_le enough halted).trans ends) halts

@[simp]
theorem growth_zero (table : Table) (direction : Direction) (m : Machine) :
    growth table direction 0 m = 0 := rfl

/-- The last step adds to the growth of the steps before it. -/
theorem growth_succ (table : Table) (direction : Direction) (count : Nat) (m : Machine) :
    growth table direction (count + 1) m =
      growth table direction count m +
        (((advance table)^[count] m).grows table direction).toNat := by
  rw [growth, List.range_succ, List.countP_append, growth, List.countP_singleton]
  cases ((advance table)^[count] m).grows table direction <;> rfl

/-- The first step adds to the growth of the steps after it. -/
theorem growth_succ_front (table : Table) (direction : Direction) (count : Nat) (m : Machine) :
    growth table direction (count + 1) m =
      (m.grows table direction).toNat + growth table direction count (m.advance table) := by
  induction count with
  | zero => simp [growth_succ]
  | succ count ih => rw [growth_succ, ih, growth_succ, Function.iterate_succ_apply, Nat.add_assoc]

/-- A machine that has halted adds no cells. -/
theorem growth_of_halted (halted : m.halted = true) (direction : Direction) (count : Nat) :
    growth table direction count m = 0 := by
  induction count with
  | zero => rfl
  | succ count ih => rw [growth_succ, ih, iterate_of_halted halted, grows_of_halted halted]; rfl

/-- More steps do not add fewer cells. -/
theorem growth_mono (table : Table) (direction : Direction) (m : Machine) :
    Monotone fun count => growth table direction count m := by
  refine monotone_nat_of_le_succ fun count => ?_
  rw [growth_succ]
  exact Nat.le_add_right _ _

/-- A tape is as long as it was at the start, and longer by the cells that were added. -/
theorem length_iterate (table : Table) (count : Nat) (m : Machine) :
    ((advance table)^[count] m).tape.length =
      m.tape.length + growth table .left count m + growth table .right count m := by
  induction count with
  | zero => rfl
  | succ count ih =>
      rw [Function.iterate_succ_apply', length_advance, ih, growth_succ, growth_succ]
      omega

end Machine

end TapeMultiplier
