/-
Module: TapeMultiplier.Proofs.Multiplication.Correctness
Layer: Proofs
Purpose: The bundled program multiplies: for all positive factors it halts after a number of steps that is
  a polynomial in the factors, with the product behind the last blank of its tape.
Main exports: Stage.machine, Stage.run_of_remaining_lt, multiplier_eq, multiply_multiplicationText
-/
import TapeMultiplier.Proofs.Capacity
import TapeMultiplier.Proofs.Machine.Run
import TapeMultiplier.Proofs.Multiplication.Stage
import TapeMultiplier.Proofs.Product

namespace TapeMultiplier

namespace Multiplication

namespace Stage

/-- The machine at a stage, when the second factor is `b`. -/
def machine (b steps : Nat) (stage : Stage) : Machine :=
  { state := stage.state, tape := stage.tape b, steps, halted := false }

/-- The machine at the end of the work: every zero of the first factor is marked, and it has noticed that
nothing matches. -/
def finished (a b steps : Nat) : Machine :=
  { state := (choose a 0).state, tape := (choose a 0).tape b, steps, halted := true }

/-- A step of the work is a step of the run. -/
theorem run_machine_succ {a b : Nat} {stage after : Stage} (reached : stage.Reached a b)
    (moves : stage.next b = some after) (steps budget : Nat) :
    (stage.machine b steps).run multiplicationTable (budget + 1) =
      (after.machine b (steps + 1)).run multiplicationTable budget := by
  obtain ⟨t, found, target, written⟩ := apply_next reached moves
  have applied : (stage.machine b steps).apply t = after.machine b (steps + 1) := by
    simp only [Machine.apply, machine, target, written]
  rw [Machine.run_succ_of_lookup rfl found, applied]

/-- A run that may go on for longer than the work takes ends the work. -/
theorem run_of_remaining_lt {a b : Nat} {stage : Stage} (reached : stage.Reached a b)
    (steps : Nat) {budget : Nat} (enough : stage.remaining b < budget) :
    (stage.machine b steps).run multiplicationTable budget =
      finished a b (steps + stage.remaining b) := by
  -- The budget shrinks with the steps that are left, so it never runs out before the last stage.
  induction budget generalizing stage steps with
  | zero => omega
  | succ budget ih =>
      cases moves : stage.next b with
      | none =>
          obtain rfl := eq_choose_of_next_none reached moves
          rw [Machine.run_succ_of_stuck rfl (lookup_choose_done a b)]
          simp [remaining, roundSteps, machine, finished]
      | some after =>
          have left : stage.remaining b = after.remaining b + 1 := remaining_next reached moves
          rw [run_machine_succ reached moves, ih (reached_next reached moves) (steps + 1) (by omega),
            left, Nat.add_assoc, Nat.add_comm 1]

end Stage

/-- The number of steps that multiplying takes. -/
def totalSteps (a b : Nat) : Nat :=
  a ^ 2 * b ^ 2 + a * b ^ 2 + 4 * a * b + a ^ 2 + 4 * a

/-- The steps that are left at the start. -/
theorem remaining_start (a b : Nat) : (Stage.choose 0 a).remaining b = totalSteps a b := by
  simp only [Stage.remaining, Stage.roundSteps, totalSteps]
  ring

/-- The machine that is about to multiply is at the first stage. -/
theorem multiplier_eq {a b : Nat} (positiveA : 1 ≤ a) (positiveB : 1 ≤ b) :
    multiplier a b = .ok ((Stage.choose 0 a).machine b 0) := by
  obtain ⟨a, rfl⟩ : ∃ n, a = n + 1 := ⟨a - 1, by omega⟩
  have accepted : checkOperands ((a + 1 : Nat) : Int) b = .ok () := by
    rw [checkOperands, if_neg (by omega)]
  have started : Machine.start (multiplicationTape ((a + 1 : Nat) : Int) b) Machine.startHead
      Table.startState = .ok ((Stage.choose 0 (a + 1)).machine b 0) := by
    simp [Machine.start, multiplicationTape, Tape.ofCells?, Machine.startHead, Stage.machine,
      Stage.tape, Stage.state, Table.startState, zeros, firstFactor, marks, secondFactor,
      List.replicate_succ]
  simp only [multiplier, accepted, started]

/-- The tape at the end of the work. -/
theorem cells_choose_done (a b : Nat) :
    ((Stage.choose a 0).tape b).cells =
      '_' :: List.replicate a 'X' ++ 'C' :: List.replicate b '0' ++
        '_' :: List.replicate (a * b) '0' := by
  simp [Stage.tape, Tape.cells, zeros, firstFactor, marks, secondFactor, Symbol.char]

/-- The head stands on the calculation mark at the end of the work. -/
theorem head_choose_done (a b : Nat) : ((Stage.choose a 0).tape b).head = a + 1 := by
  simp [Stage.tape, Tape.head, zeros, firstFactor, marks, secondFactor]

/-- The product of the last tape is the product of the factors. -/
theorem extractProduct_choose_done {a b : Nat} (positiveA : 1 ≤ a) (positiveB : 1 ≤ b) :
    extractProduct ((Stage.choose a 0).tape b).cells = a * b := by
  have positive : 1 ≤ a * b := Nat.mul_pos positiveA positiveB
  have factors : BlankFree (List.replicate a 'X' ++ 'C' :: List.replicate b '0') := by
    intro c member
    simp only [List.mem_append, List.mem_cons, List.mem_replicate] at member
    rcases member with ⟨-, rfl⟩ | rfl | ⟨-, rfl⟩ <;> rfl
  have product : BlankFree (List.replicate (a * b) '0') := blankFree_replicate (a * b) rfl
  have present : List.replicate (a * b) '0' ≠ [] := by
    simp only [ne_eq, List.replicate_eq_nil_iff]
    omega
  have shape : ((Stage.choose a 0).tape b).cells =
      Symbol.blank.char :: (List.replicate a 'X' ++ 'C' :: List.replicate b '0') ++
        Symbol.blank.char :: List.replicate (a * b) '0' := by
    rw [cells_choose_done]
    simp [Symbol.char]
  have apart : hasDoubleBlank (Symbol.blank.char ::
      (List.replicate a 'X' ++ 'C' :: List.replicate b '0') ++
        Symbol.blank.char :: List.replicate (a * b) '0') = false := by
    rw [List.cons_append, hasDoubleBlank_blank_block factors (by simp),
      ← List.append_nil (List.replicate (a * b) '0'), hasDoubleBlank_blank_block product present]
    rfl
  rw [shape, extractProduct_block product present apart, List.length_replicate]

/-- What can be seen of the machine when it has multiplied. -/
def finalConfiguration (a b : Nat) : Configuration :=
  { state := "q0"
    head := a + 1
    tape := String.ofList ('_' :: List.replicate a 'X' ++ 'C' :: List.replicate b '0' ++
      '_' :: List.replicate (a * b) '0')
    steps := totalSteps a b
    halted := true }

/-- A multiplication with room for more steps than it takes has the product for its answer. -/
theorem multiply_of_budget {a b : Nat} (positiveA : 1 ≤ a) (positiveB : 1 ≤ b) {patience : Nat}
    {limit : StepLimit} (enough : totalSteps a b < limit.budget patience) :
    multiply multiplicationTable patience a b limit = .ok (a * b, finalConfiguration a b) := by
  have reached : (Stage.choose 0 a).Reached a b := Nat.zero_add a
  have ends : ((Stage.choose 0 a).machine b 0).run multiplicationTable (limit.budget patience) =
      Stage.finished a b (totalSteps a b) := by
    rw [Stage.run_of_remaining_lt reached 0 (by rwa [remaining_start]), remaining_start,
      Nat.zero_add]
  have product : (Stage.finished a b (totalSteps a b)).product = a * b :=
    extractProduct_choose_done positiveA positiveB
  have seen : (Stage.finished a b (totalSteps a b)).configuration = finalConfiguration a b := by
    simp only [Machine.configuration, finalConfiguration, Stage.finished, Tape.text,
      cells_choose_done, head_choose_done, Stage.state]
  rw [multiply, multiplier_eq positiveA positiveB]
  simp only [bind, Except.bind, Machine.runLimited_of_ends ends (fun _ => rfl), product, seen]
  rfl

/-- Where there is room for the tape, this is also the answer of the program, which asks for the room
first. -/
theorem boundedMultiply_of_budget {a b : Nat} (positiveA : 1 ≤ a) (positiveB : 1 ≤ b)
    (belowA : a < textLimit) (belowB : b < textLimit) {patience : Nat} {limit : StepLimit}
    (enough : totalSteps a b < limit.budget patience) :
    boundedMultiply multiplicationTable patience a b limit = .ok (a * b, finalConfiguration a b) := by
  have small : ∀ task ∈ [((a : Int), (b : Int))], task.1 < textLimit ∧ task.2 < textLimit := by
    rw [List.forall_mem_singleton]
    exact ⟨belowA, belowB⟩
  exact boundedMultiply_eq_ok.mpr
    ⟨checkTasks_of_lt none small, multiply_of_budget positiveA positiveB enough⟩

/-- The bundled program text is a program that multiplies all positive factors.  It halts after exactly
`totalSteps a b` steps, be it without a limit or with any limit above that number. -/
theorem multiply_multiplicationText (a b : Nat) (positiveA : 1 ≤ a) (positiveB : 1 ≤ b) :
    ∃ table, ProgramText.decode Bundled.multiplicationText.toList = .ok table ∧
      (∀ patience, totalSteps a b < patience →
        multiply table patience a b .unlimited = .ok (a * b, finalConfiguration a b)) ∧
      ∀ (patience : Nat) (maxSteps : Int), (totalSteps a b : Int) < maxSteps →
        multiply table patience a b (.atMost maxSteps) = .ok (a * b, finalConfiguration a b) := by
  refine ⟨multiplicationTable, decode_multiplicationText, ?_, ?_⟩
  · intro patience enough
    exact multiply_of_budget positiveA positiveB enough
  · intro patience maxSteps enough
    refine multiply_of_budget positiveA positiveB ?_
    show totalSteps a b < maxSteps.toNat
    omega

/-- Two times three takes ninety steps. -/
theorem multiply_multiplicationText_two_three :
    ∃ table, ProgramText.decode Bundled.multiplicationText.toList = .ok table ∧
      multiply table 91 2 3 .unlimited =
        .ok (6, { state := "q0", head := 3, tape := "_XXC000_000000", steps := 90, halted := true }) := by
  obtain ⟨table, decoded, unlimited, -⟩ :=
    multiply_multiplicationText 2 3 (by decide) (by decide)
  exact ⟨table, decoded, unlimited 91 (by decide)⟩

end Multiplication

end TapeMultiplier
