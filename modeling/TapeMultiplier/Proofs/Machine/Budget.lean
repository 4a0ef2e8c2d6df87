/-
Module: TapeMultiplier.Proofs.Machine.Budget
Layer: Proofs
Purpose: Budgets add up.  A run that is cut after some steps and taken up again ends where the whole run
  ends, and its two parts together hand over what the whole run hands over.
Main exports: Machine.run_add, Machine.events_add, Machine.runTraced_add, Machine.Completes,
  Machine.Completes.unique, Machine.completes_after, Machine.run_in_two_parts
-/
import TapeMultiplier.Proofs.Machine.Growth

namespace TapeMultiplier

namespace Machine

variable {table : Table} {m : Machine}

/-! ### Two budgets -/

/-- A second budget goes on where the first one ended. -/
theorem run_add (table : Table) (first second : Nat) (m : Machine) :
    m.run table (first + second) = (m.run table first).run table second := by
  rw [run_eq_iterate, run_eq_iterate, run_eq_iterate, Nat.add_comm, Function.iterate_add_apply]

/-- The events of two budgets are those of the first, then those of the second. -/
theorem events_add (table : Table) (first second : Nat) (m : Machine) :
    m.events table (first + second) =
      m.events table first ++ (m.run table first).events table second := by
  induction first generalizing m with
  | zero => rw [Nat.zero_add, events, run, List.nil_append]
  | succ first ih =>
      rw [Nat.add_right_comm]
      cases halted : m.halted with
      | true => simp only [events_of_halted halted, run_of_halted halted, List.nil_append]
      | false =>
          cases found : table.lookup m.state m.read with
          | none =>
              -- The first budget has room for the step that halts, so the second finds a halted machine.
              rw [events_of_stuck halted found, events_of_stuck halted found,
                run_succ_of_stuck halted found, events_of_halted rfl, List.nil_append]
          | some t =>
              rw [events_succ_of_lookup halted found, events_succ_of_lookup halted found,
                run_succ_of_lookup halted found, ih, List.cons_append]

/-- To a receiver of events, two traced runs in sequence are one. -/
theorem runTraced_add {μ : Type → Type} [Monad μ] [LawfulMonad μ] (table : Table)
    (emit : StepEvent → μ Unit) (first second : Nat) (m : Machine) :
    m.runTraced table emit (first + second) =
      (do let middle ← m.runTraced table emit first; middle.runTraced table emit second) := by
  simp only [runTraced_eq, events_add, run_add, List.forM_eq_forM, List.forM_append, bind_assoc,
    pure_bind]

/-! ### No limit -/

/-- A run without a limit comes to its end in `final`, after handing over the events of `trace`. -/
def Completes (table : Table) (m : Machine) (trace : List StepEvent) (final : Machine) : Prop :=
  ∃ patience, m.runLimited table patience .unlimited = some final ∧ m.events table patience = trace

/-- Without a limit a run completes if some budget is enough for it to halt. -/
theorem completes_iff {trace : List StepEvent} {final : Machine} :
    m.Completes table trace final ↔
      ∃ budget, m.run table budget = final ∧ final.halted = true ∧ m.events table budget = trace := by
  constructor
  · intro completes
    rcases completes with ⟨patience, answered, traced⟩
    rcases ends_of_runLimited answered with ⟨ends, halts⟩
    exact ⟨patience, ends, halts rfl, traced⟩
  · intro halts
    rcases halts with ⟨budget, ends, halted, traced⟩
    exact ⟨budget, runLimited_of_ends ends fun _ => halted, traced⟩

/-- A larger budget hands over nothing more for a machine that halts. -/
theorem events_of_le {budget larger : Nat} (enough : budget ≤ larger)
    (halted : (m.run table budget).halted = true) :
    m.events table larger = m.events table budget := by
  obtain ⟨more, rfl⟩ := Nat.exists_eq_add_of_le enough
  rw [events_add, events_of_halted halted, List.append_nil]

/-- A run without a limit has one end at most, and one trace. -/
theorem Completes.unique {trace otherTrace : List StepEvent} {final otherFinal : Machine}
    (completes : m.Completes table trace final)
    (again : m.Completes table otherTrace otherFinal) :
    otherTrace = trace ∧ otherFinal = final := by
  rcases completes_iff.mp completes with ⟨budget, rfl, halted, rfl⟩
  rcases completes_iff.mp again with ⟨budget', rfl, halted', rfl⟩
  rcases Nat.le_total budget budget' with less | less
  · exact ⟨events_of_le less halted, run_of_le less halted⟩
  · exact ⟨(events_of_le less halted').symm, (run_of_le less halted').symm⟩

/-- A run completes just if what is left of it after some steps does. -/
theorem completes_after (table : Table) (m : Machine) (first : Nat) (trace : List StepEvent)
    (final : Machine) :
    m.Completes table trace final ↔
      ∃ rest, trace = m.events table first ++ rest ∧
        (m.run table first).Completes table rest final := by
  constructor
  · intro completes
    rcases completes_iff.mp completes with ⟨budget, rfl, halted, rfl⟩
    -- A budget that is enough stays enough after more steps, so it can be spent after the first part.
    have enough : budget ≤ first + budget := Nat.le_add_left budget first
    refine ⟨(m.run table first).events table budget, ?_, completes_iff.mpr ⟨budget, ?_, halted, rfl⟩⟩
    · rw [← events_add, events_of_le enough halted]
    · rw [← run_add, run_of_le enough halted]
  · intro split
    rcases split with ⟨rest, rfl, completes⟩
    rcases completes_iff.mp completes with ⟨budget, rfl, halted, rfl⟩
    refine completes_iff.mpr ⟨first + budget, ?_, halted, ?_⟩
    · exact run_add table first budget m
    · exact events_add table first budget m

/-- Budgets add up.  A run with a budget and then with a second one leaves any machine, halted or not,
where one run with both budgets leaves it; the events of the two runs are together those of the one run, and
no receiver can tell them apart.  Where the second run has no limit, it completes just if one run without a
limit does, at the same machine and with the events that are missing. -/
theorem run_in_two_parts (table : Table) (m : Machine) (first second : Nat) :
    (m.run table first).run table second = m.run table (first + second) ∧
      m.events table first ++ (m.run table first).events table second =
        m.events table (first + second) ∧
      (∀ (μ : Type → Type) [Monad μ] [LawfulMonad μ] (emit : StepEvent → μ Unit),
        (do let middle ← m.runTraced table emit first; middle.runTraced table emit second) =
          m.runTraced table emit (first + second)) ∧
      ∀ trace final, m.Completes table trace final ↔
        ∃ rest, trace = m.events table first ++ rest ∧
          (m.run table first).Completes table rest final := by
  refine ⟨(run_add table first second m).symm, (events_add table first second m).symm, ?_, ?_⟩
  · intro μ _ _ emit
    exact (runTraced_add table emit first second m).symm
  · exact completes_after table m first

end Machine

end TapeMultiplier
