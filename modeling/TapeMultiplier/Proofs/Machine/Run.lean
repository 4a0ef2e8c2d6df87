/-
Module: TapeMultiplier.Proofs.Machine.Run
Layer: Proofs
Purpose: What one step and a whole run of the machine do, by the transition that the table finds.  Later
  proofs open neither `Machine.step` nor `Machine.run` nor `Machine.events`.
Main exports: Machine.step_cases, Machine.run_succ_of_lookup, Machine.run_succ_of_stuck,
  Machine.events_succ_of_lookup, Machine.runLimited_of_ends, Machine.runTraced_eq, Machine.run_congr,
  Machine.events_congr, Machine.exists_lookup_of_mem_events
-/
import TapeMultiplier.Machine

namespace TapeMultiplier

/-- A transition that a lookup finds is for the state and the character. -/
theorem Table.of_lookup_eq_some {table : Table} {state : String} {read : Char} {t : Transition}
    (found : table.lookup state read = some t) : t.source = state ∧ t.read.char = read := by
  have matched := List.find?_some found
  simpa using matched

namespace Machine

variable {table : Table} {m : Machine} {t : Transition}

/-- A machine that has not halted applies the transition that the table finds. -/
theorem step_of_lookup (running : m.halted = false)
    (found : table.lookup m.state m.read = some t) :
    m.step table = (.applied (m.steps + 1) t, m.apply t) := by
  simp [step, running, found]

/-- A machine for which the table finds nothing halts where it is. -/
theorem step_of_stuck (running : m.halted = false)
    (stuck : table.lookup m.state m.read = none) :
    m.step table = (.halted m.state m.read, { m with halted := true }) := by
  simp [step, running, stuck]

/-- A machine that has halted only says so. -/
theorem step_of_halted (halted : m.halted = true) : m.step table = (.halted m.state m.read, m) := by
  simp [step, halted]

/-- What one step can do: say that the machine has halted, which it may have noticed just now, or apply the
transition that the table finds.  Only then it has a number, which is that of the machine after it. -/
theorem step_cases (table : Table) (m : Machine) :
    (m.step table).1 = .halted m.state m.read ∧
        ((m.step table).2 = m ∨ (m.step table).2 = { m with halted := true }) ∨
      ∃ t, m.halted = false ∧ table.lookup m.state m.read = some t ∧
        m.step table = (.applied (m.steps + 1) t, m.apply t) := by
  cases halted : m.halted with
  | true =>
      rw [step_of_halted halted]
      exact Or.inl ⟨rfl, Or.inl rfl⟩
  | false =>
      cases found : table.lookup m.state m.read with
      | none =>
          rw [step_of_stuck halted found]
          exact Or.inl ⟨rfl, Or.inr rfl⟩
      | some t => exact Or.inr ⟨t, rfl, rfl, step_of_lookup halted found⟩

/-- A run starts with the transition that the table finds. -/
theorem run_succ_of_lookup (running : m.halted = false)
    (found : table.lookup m.state m.read = some t) (budget : Nat) :
    m.run table (budget + 1) = (m.apply t).run table budget := by
  rw [run, step_of_lookup running found]

/-- A run that has a step left notices that nothing matches. -/
theorem run_succ_of_stuck (running : m.halted = false)
    (stuck : table.lookup m.state m.read = none) (budget : Nat) :
    m.run table (budget + 1) = { m with halted := true } := by
  rw [run, step_of_stuck running stuck]

/-- A machine that has halted stays what it is. -/
theorem run_of_halted (halted : m.halted = true) (budget : Nat) : m.run table budget = m := by
  cases budget with
  | zero => rfl
  | succ budget => rw [run, step_of_halted halted]

/-- A machine that has halted hands nothing over. -/
theorem events_of_halted (halted : m.halted = true) (budget : Nat) :
    m.events table budget = [] := by
  cases budget with
  | zero => rfl
  | succ budget => rw [events, step_of_halted halted]

/-- The step that notices that nothing matches hands nothing over. -/
theorem events_of_stuck (running : m.halted = false)
    (stuck : table.lookup m.state m.read = none) (budget : Nat) :
    m.events table budget = [] := by
  cases budget with
  | zero => rfl
  | succ budget => rw [events, step_of_stuck running stuck]

/-- The events of a run start with that of the transition that the table finds. -/
theorem events_succ_of_lookup (running : m.halted = false)
    (found : table.lookup m.state m.read = some t) (budget : Nat) :
    m.events table (budget + 1) =
      (m.apply t).event (m.steps + 1) t :: (m.apply t).events table budget := by
  rw [events, step_of_lookup running found]

/-- A run is an answer if it was limited or has halted. -/
theorem runLimited_of_ends {patience : Nat} {limit : StepLimit} {final : Machine}
    (ends : m.run table (limit.budget patience) = final)
    (complete : limit = .unlimited → final.halted = true) :
    m.runLimited table patience limit = some final := by
  have accepted : limit.accepts final = true := by
    cases limit with
    | atMost steps => rfl
    | unlimited => exact complete rfl
  simp [runLimited, ends, accepted]

/-- A traced run hands over the events of the run, in order, and ends where the run ends. -/
theorem runTraced_eq {μ : Type → Type} [Monad μ] [LawfulMonad μ] (table : Table)
    (emit : StepEvent → μ Unit) (budget : Nat) (m : Machine) :
    m.runTraced table emit budget =
      (do (m.events table budget).forM emit; pure (m.run table budget)) := by
  induction budget generalizing m with
  | zero => simp [runTraced, events, run]
  | succ budget ih =>
      rw [runTraced, events, run]
      cases m.step table with
      | mk outcome next =>
          cases outcome with
          | halted state read => simp
          | applied step t => simp [ih]

/-- The transition of an event was found at the machine that the run had come to. -/
theorem exists_lookup_of_mem_events {budget : Nat} {event : StepEvent}
    (member : event ∈ m.events table budget) :
    ∃ taken, (m.run table taken).halted = false ∧
      table.lookup (m.run table taken).state (m.run table taken).read = some event.transition := by
  induction budget generalizing m with
  | zero => cases member
  | succ budget ih =>
      cases running : m.halted with
      | true =>
          rw [events_of_halted running] at member
          cases member
      | false =>
          cases found : table.lookup m.state m.read with
          | none =>
              rw [events_of_stuck running found] at member
              cases member
          | some t =>
              rw [events_succ_of_lookup running found] at member
              rcases List.mem_cons.mp member with rfl | later
              · exact ⟨0, running, found⟩
              · obtain ⟨taken, goesOn, applied⟩ := ih later
                refine ⟨taken + 1, ?_, ?_⟩ <;> rwa [run_succ_of_lookup running found]

/-! ### Tables that find the same transitions -/

section Alike

variable {other : Table}

theorem step_congr (alike : ∀ state read, other.lookup state read = table.lookup state read)
    (m : Machine) : m.step other = m.step table := by
  simp only [step, alike]

/-- A run does not depend on anything but what the table finds. -/
theorem run_congr (alike : ∀ state read, other.lookup state read = table.lookup state read)
    (budget : Nat) (m : Machine) : m.run other budget = m.run table budget := by
  induction budget generalizing m with
  | zero => rfl
  | succ budget ih => simp only [run, step_congr alike, ih]

/-- The events do not depend on anything but what the table finds. -/
theorem events_congr (alike : ∀ state read, other.lookup state read = table.lookup state read)
    (budget : Nat) (m : Machine) : m.events other budget = m.events table budget := by
  induction budget generalizing m with
  | zero => rfl
  | succ budget ih => simp only [events, step_congr alike, ih]

end Alike

end Machine

end TapeMultiplier
