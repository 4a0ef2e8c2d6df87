/-
Module: TapeMultiplier.Proofs.Multiplication.Invariant
Layer: Proofs
Purpose: What a run of the bundled program looks like when it is stopped after any number of steps.  A stage
  has counts for the cells that are marked, tallied and made; they give its tape, and they are bounded by
  the factors.  No stage applies the transition that would pass over a tally on the way to a new one.
Main exports: Counts, Stage.counts, Stage.cells_tape, Stage.run_start, InWork,
  multiply_multiplicationText_within
-/
import TapeMultiplier.Proofs.Multiplication.Buffer

namespace TapeMultiplier

namespace Multiplication

/-! ### The counts of a stage -/

/-- What is counted on a tape in the middle of the work: the marked zeros of the first factor, the tallied
ones of the second, the zeros of the product, and the blanks behind them. -/
structure Counts where
  marked : Nat
  tallied : Nat
  made : Nat
  margin : Nat

namespace Counts

/-- The cells up to the end of the product, when the factors are `a` and `b`. -/
def work (a b : Nat) (counts : Counts) : List Char :=
  Symbol.blank.char :: (marks counts.marked ++ zeros (a - counts.marked)) ++
    Symbol.calculation.char :: (tallies counts.tallied ++ zeros (b - counts.tallied)) ++
      Symbol.blank.char :: zeros counts.made

/-- The counts are within the factors and the product; a blank behind the product is for a zero that is
still to be made. -/
structure Within (a b : Nat) (counts : Counts) : Prop where
  marked : counts.marked ≤ a
  tallied : counts.tallied ≤ b
  made : counts.made + counts.margin ≤ a * b

theorem length_work {a b : Nat} {counts : Counts} (within : counts.Within a b) :
    (counts.work a b).length = a + b + 3 + counts.made := by
  have marked := within.marked
  have tallied := within.tallied
  simp only [work, marks, zeros, tallies, List.length_append, List.length_cons, List.length_replicate]
  omega

end Counts

/-! ### Runs of cells -/

@[simp]
theorem zeros_zero : zeros 0 = [] := rfl

@[simp]
theorem tallies_zero : tallies 0 = [] := rfl

@[simp]
theorem reverse_zeros (count : Nat) : (zeros count).reverse = zeros count :=
  List.reverse_replicate

@[simp]
theorem reverse_firstFactor (marked passed : Nat) :
    (firstFactor marked passed).reverse = Symbol.blank.char :: (marks marked ++ zeros passed) := by
  simp [firstFactor, marks]

@[simp]
theorem reverse_tallied (marked todo tally passed : Nat) :
    (tallied marked todo tally passed).reverse = Symbol.blank.char :: (marks marked ++ zeros todo) ++
      Symbol.calculation.char :: (tallies tally ++ zeros passed) := by
  simp [tallied, tallies]

/-- Two runs of zeros side by side are one. -/
theorem zeros_append (count more : Nat) : zeros count ++ zeros more = zeros (count + more) :=
  List.replicate_append_replicate

namespace Stage

/-- The counts of a stage, when the second factor is `b`.  In a round the zero of the round is marked; the
product has the zeros of the rounds that are behind and one for each tally that is dealt with.  Where the
head comes to the end of the product it stands on a blank that was not there. -/
def counts (b : Nat) : Stage → Counts
  | choose done _ => ⟨done, 0, done * b, 0⟩
  | cross done _ _ => ⟨done + 1, 0, done * b, 0⟩
  | pick done _ tally _ => ⟨done + 1, tally, done * b + tally, 0⟩
  | seek done _ tally _ _ => ⟨done + 1, tally + 1, done * b + tally, 0⟩
  | extend done _ tally _ _ 0 => ⟨done + 1, tally + 1, done * b + tally, 1⟩
  | extend done _ tally _ _ _ => ⟨done + 1, tally + 1, done * b + tally, 0⟩
  | retreat done _ tally _ _ _ => ⟨done + 1, tally + 1, done * b + tally + 1, 0⟩
  | recross done _ tally _ _ => ⟨done + 1, tally + 1, done * b + tally + 1, 0⟩
  | restore done _ ahead _ => ⟨done + 1, ahead, (done + 1) * b, 0⟩
  | rewind done _ _ => ⟨done + 1, 0, (done + 1) * b, 0⟩

section

variable {a b : Nat} {stage : Stage}

/-- The rounds that are behind and some tallies of one more round make no more than the product. -/
theorem made_le {done tally : Nat} (round : done + 1 ≤ a) (inRound : tally ≤ b) :
    done * b + tally ≤ a * b :=
  calc done * b + tally ≤ done * b + b := Nat.add_le_add_left inRound _
    _ = (done + 1) * b := (Nat.succ_mul done b).symm
    _ ≤ a * b := Nat.mul_le_mul_right b round

/-- The counts of a stage at which the work arrives are within the factors. -/
theorem within_counts (reached : stage.Reached a b) : (stage.counts b).Within a b := by
  constructor
  case marked => fun_cases counts b stage <;> simp only [Reached] at reached <;> dsimp only <;> omega
  case tallied => fun_cases counts b stage <;> simp only [Reached] at reached <;> dsimp only <;> omega
  case made =>
    fun_cases counts b stage <;> simp only [Reached] at reached <;>
      simp only [Nat.add_zero, Nat.add_assoc]
    case case1 | case2 | case9 | case10 => exact Nat.mul_le_mul_right b (by omega)
    all_goals exact made_le (by omega) (by omega)

/-- The counts of a stage and the factors give its tape. -/
theorem cells_tape (reached : stage.Reached a b) :
    (stage.tape b).cells = (stage.counts b).work a b ++
      List.replicate (stage.counts b).margin Symbol.blank.char := by
  cases stage <;> simp only [Reached] at reached
  case choose done todo =>
    have first : a - done = todo := by omega
    rw [tape, Tape.cells_facing _ (by simp [secondFactor])]
    simp [Counts.work, counts, secondFactor, first]
  case cross done passed todo =>
    have first : a - (done + 1) = passed + todo := by omega
    rw [tape, Tape.cells_facing _ (by simp [secondFactor])]
    simp [Counts.work, counts, secondFactor, first, ← zeros_append]
  case pick done todo tally left =>
    have first : a - (done + 1) = todo := by omega
    have second : b - tally = left := by omega
    rw [tape, Tape.cells_facing _ (by simp)]
    simp [Counts.work, counts, first, second]
  case seek done todo tally passed left =>
    have first : a - (done + 1) = todo := by omega
    have second : b - (tally + 1) = passed + left := by omega
    rw [tape, Tape.cells_facing _ (by simp)]
    simp [Counts.work, counts, first, second, ← zeros_append]
  case extend done todo tally left passed ahead =>
    have first : a - (done + 1) = todo := by omega
    have second : b - (tally + 1) = left := by omega
    have product : done * b + tally = passed + ahead := by omega
    cases ahead with
    | zero => simp [tape, Tape.cells, Counts.work, counts, first, second, product]
    | succ ahead =>
      rw [tape, Tape.cells_facing _ (by simp [zeros])]
      simp [Counts.work, counts, first, second, product, ← zeros_append]
  case retreat done todo tally left ahead passed =>
    have first : a - (done + 1) = todo := by omega
    have second : b - (tally + 1) = left := by omega
    have product : done * b + tally + 1 = ahead + (passed + 1) := by omega
    rw [tape, Tape.cells_lookingBack _ (by simp)]
    simp [Counts.work, counts, first, second, product, ← zeros_append]
  case recross done todo tally ahead passed =>
    have first : a - (done + 1) = todo := by omega
    have second : b - (tally + 1) = ahead + passed := by omega
    rw [tape, Tape.cells_lookingBack _ (by simp [tallied])]
    simp [Counts.work, counts, first, second, ← zeros_append]
  case restore done todo ahead passed =>
    have first : a - (done + 1) = todo := by omega
    have second : b - ahead = passed := by omega
    rw [tape, Tape.cells_lookingBack _ (by simp [tallied])]
    simp [Counts.work, counts, first, second]
  case rewind done ahead passed =>
    have first : a - (done + 1) = ahead + passed := by omega
    rw [tape, Tape.cells_lookingBack _ (by simp [firstFactor])]
    simp [Counts.work, counts, secondFactor, first, ← zeros_append]

theorem margin_eq (b : Nat) (stage : Stage) :
    (stage.counts b).margin = 0 ∨ (stage.counts b).margin = 1 := by
  fun_cases counts b stage
  case case5 => exact Or.inr rfl
  all_goals exact Or.inl rfl

/-- At the next zero of the first factor there are no tallies, and the product has the zeros of the marked
ones. -/
theorem counts_of_state_start (choosing : stage.state = "q0") :
    (stage.counts b).tallied = 0 ∧ (stage.counts b).made = (stage.counts b).marked * b := by
  cases stage with
  | choose done todo => exact ⟨rfl, rfl⟩
  | _ => exact absurd choosing (by simp [state])

/-- Where a zero of the second factor is picked, the tallies are behind the head. -/
theorem current_ne_of_state_pick (picking : stage.state = "q2") :
    (stage.tape b).current ≠ Symbol.replacedOne.char := by
  cases stage with
  | pick done todo tally left =>
      cases left with
      | zero => simp [tape, Symbol.char]
      | succ left => simp [tape, zeros, List.replicate_succ, Symbol.char]
  | _ => exact absurd picking (by simp [state])

/-- Until the steps that are left are used up, every step of a run ends at a stage. -/
theorem exists_run_of_le (reached : stage.Reached a b) (steps : Nat) {budget : Nat}
    (left : budget ≤ stage.remaining b) :
    ∃ later : Stage, later.Reached a b ∧
      (stage.machine b steps).run multiplicationTable budget = later.machine b (steps + budget) := by
  induction budget generalizing stage steps with
  | zero => exact ⟨stage, reached, rfl⟩
  | succ budget ih =>
      cases moves : stage.next b with
      | none =>
          obtain rfl := eq_choose_of_next_none reached moves
          simp [remaining, roundSteps] at left
      | some after =>
          have counted := remaining_next reached moves
          obtain ⟨later, arrived, ends⟩ :=
            ih (reached_next reached moves) (steps + 1) (by omega)
          refine ⟨later, arrived, ?_⟩
          rw [run_machine_succ reached moves, ends, Nat.add_assoc, Nat.add_comm 1]

/-- A run from the start is at a stage, or it has used up the steps of the work and has noticed it. -/
theorem run_start (a b budget : Nat) :
    (budget ≤ totalSteps a b ∧ ∃ stage : Stage, stage.Reached a b ∧
      ((choose 0 a).machine b 0).run multiplicationTable budget = stage.machine b budget) ∨
    (totalSteps a b < budget ∧
      ((choose 0 a).machine b 0).run multiplicationTable budget = finished a b (totalSteps a b)) := by
  have total := remaining_start a b
  rcases Nat.lt_or_ge (totalSteps a b) budget with exceeded | inWork
  · right
    refine ⟨exceeded, ?_⟩
    rw [run_of_remaining_lt (reached_start a b) 0 (by omega), total, Nat.zero_add]
  · left
    obtain ⟨stage, arrived, ends⟩ := exists_run_of_le (reached_start a b) 0 (total ▸ inWork)
    exact ⟨inWork, stage, arrived, by rwa [Nat.zero_add] at ends⟩

end

end Stage

/-! ### What can be seen of the work -/

/-- A tape with `i` zeros of the first factor marked, `j` of the second tallied and `p` zeros made. -/
def workText (a b i j p : Nat) : String :=
  String.ofList ('_' :: List.replicate i 'X' ++ List.replicate (a - i) '0' ++
    'C' :: List.replicate j 'Y' ++ List.replicate (b - j) '0' ++ '_' :: List.replicate p '0')

/-- The counts of a stage give the text of its tape. -/
theorem Stage.text_tape {a b : Nat} {stage : Stage} (reached : stage.Reached a b) :
    (stage.tape b).text =
        workText a b (stage.counts b).marked (stage.counts b).tallied (stage.counts b).made ∨
      (stage.tape b).text =
        workText a b (stage.counts b).marked (stage.counts b).tallied (stage.counts b).made ++ "_" := by
  have work : String.ofList ((stage.counts b).work a b) =
      workText a b (stage.counts b).marked (stage.counts b).tallied (stage.counts b).made := by
    simp [Counts.work, workText, marks, tallies, zeros, Symbol.char]
  rw [Tape.text, Stage.cells_tape reached, String.ofList_append, work]
  rcases Stage.margin_eq b stage with none | one
  · left
    simp [none]
  · right
    rw [one]
    rfl

/-- What a configuration of `a` times `b` shows when no more than `n` steps were allowed. -/
structure InWork (a b n : Nat) (seen : Configuration) : Prop where
  /-- All steps that were allowed are taken, but no more than the work takes. -/
  steps : seen.steps = min n (totalSteps a b)
  /-- Halting is noticed by one more step than the work takes. -/
  halted : seen.halted = true ↔ totalSteps a b < n
  head : 1 ≤ seen.head
  length : seen.tape.length ≤ a + b + 3 + a * b
  /-- Behind the product there may be a blank.  Where the next zero of the first factor is chosen, the
  product is that of the marked zeros. -/
  tape : ∃ i j p, i ≤ a ∧ j ≤ b ∧ p ≤ a * b ∧
    (seen.tape = workText a b i j p ∨ seen.tape = workText a b i j p ++ "_") ∧
    (seen.state = "q0" → j = 0 ∧ p = i * b)

/-- A machine at a stage shows the counts of the stage. -/
theorem inWork_of_stage {a b n : Nat} {stage : Stage} {m : Machine} (reached : stage.Reached a b)
    (state : m.state = stage.state) (tape : m.tape = stage.tape b)
    (steps : m.steps = min n (totalSteps a b)) (halted : m.halted = true ↔ totalSteps a b < n) :
    InWork a b n m.configuration where
  steps := steps
  halted := halted
  head := by
    rw [Machine.configuration, tape]
    exact Stage.head_pos b stage
  length := by
    have within := Stage.within_counts reached
    have made := within.made
    rw [Machine.configuration, tape, Tape.text, String.length_ofList, Stage.cells_tape reached,
      List.length_append, Counts.length_work within, List.length_replicate]
    omega
  tape := by
    have within := Stage.within_counts reached
    refine ⟨_, _, _, within.marked, within.tallied, Nat.le_of_add_right_le within.made, ?_, ?_⟩
    · rw [Machine.configuration, tape]
      exact Stage.text_tape reached
    · intro choosing
      exact Stage.counts_of_state_start (state.symm.trans choosing)

/-- After any number of steps the work shows what it has come to. -/
theorem inWork_run (a b n : Nat) :
    InWork a b n (((Stage.choose 0 a).machine b 0).run multiplicationTable n).configuration := by
  rcases Stage.run_start a b n with ⟨within, stage, reached, ends⟩ | ⟨exceeded, ends⟩
  · rw [ends]
    refine inWork_of_stage reached rfl rfl (Nat.min_eq_left within).symm ?_
    exact iff_of_false Bool.false_ne_true (Nat.not_lt.mpr within)
  · rw [ends]
    have reached : (Stage.choose a 0).Reached a b := Nat.add_zero a
    refine inWork_of_stage reached rfl rfl (Nat.min_eq_right (Nat.le_of_lt exceeded)).symm ?_
    exact iff_of_true rfl exceeded

/-- No run of the work passes over a tally on the way to a new one: the head comes back to the place
behind the tallies. -/
theorem key_ne_of_mem_events {a b budget : Nat} {event : StepEvent}
    (member : event ∈ ((Stage.choose 0 a).machine b 0).events multiplicationTable budget) :
    event.transition.key ≠ ("q2", Symbol.replacedOne) := by
  intro passes
  obtain ⟨taken, running, found⟩ := Machine.exists_lookup_of_mem_events member
  obtain ⟨source, read⟩ := Table.of_lookup_eq_some found
  obtain ⟨fromPick, fromTally⟩ := Prod.mk.inj passes
  rcases Stage.run_start a b taken with ⟨-, stage, -, ends⟩ | ⟨-, ends⟩
  · rw [ends] at source read
    have picking : stage.state = "q2" := source.symm.trans fromPick
    exact Stage.current_ne_of_state_pick picking (read.symm.trans (congrArg Symbol.char fromTally))
  · rw [ends] at running
    cases running

/-- What can be seen of the bundled program after any number of steps, for all positive factors. -/
theorem multiply_multiplicationText_within (a b : Nat) (positiveA : 1 ≤ a) (positiveB : 1 ≤ b) :
    ∃ table start, ProgramText.decode Bundled.multiplicationText.toList = .ok table ∧
      multiplier a b = .ok start ∧
      (∀ n, ∀ event ∈ start.events table n, event.transition.key ≠ ("q2", Symbol.replacedOne)) ∧
      ∀ n patience : Nat, ∃ product seen,
        multiply table patience a b (.atMost n) = .ok (product, seen) ∧ InWork a b n seen := by
  refine ⟨_, _, decode_multiplicationText, multiplier_eq positiveA positiveB, ?_, ?_⟩
  · intro n event member
    exact key_ne_of_mem_events member
  · intro n patience
    have ran : ((Stage.choose 0 a).machine b 0).runLimited multiplicationTable patience (.atMost n) =
        some (((Stage.choose 0 a).machine b 0).run multiplicationTable n) :=
      Machine.runLimited_of_ends rfl StepLimit.noConfusion
    refine ⟨(((Stage.choose 0 a).machine b 0).run multiplicationTable n).product, _, ?_,
      inWork_run a b n⟩
    simp only [multiply, multiplier_eq positiveA positiveB, bind, Except.bind, ran]
    rfl

/-- Two times three takes ninety steps; when ninety steps are allowed, all the work is done and the machine
has not noticed it. -/
theorem multiply_multiplicationText_within_ninety :
    ∃ table, ProgramText.decode Bundled.multiplicationText.toList = .ok table ∧
      ∃ product seen, multiply table 0 2 3 (.atMost 90) = .ok (product, seen) ∧
        seen.steps = 90 ∧ seen.halted = false := by
  obtain ⟨table, start, decoded, -, -, within⟩ :=
    multiply_multiplicationText_within 2 3 (by decide) (by decide)
  obtain ⟨product, seen, multiplied, inWork⟩ := within 90 0
  refine ⟨table, decoded, product, seen, multiplied, inWork.steps, ?_⟩
  exact Bool.eq_false_of_not_eq_true (mt inWork.halted.mp (by decide))

end Multiplication

end TapeMultiplier
