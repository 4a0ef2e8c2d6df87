/-
Module: TapeMultiplier.Proofs.Multiplication.Buffer
Layer: Proofs
Purpose: How large a buffer the bundled program needs.  The program never leaves its tape on the left and
  adds one cell on the right for every unit of the product, so the second half of the buffer must hold the
  starting tape for the task to be taken and the product behind it for the task to be done.
Main exports: Stage.growth_left, Stage.growth_right_start, evaluateBatch_multiplicationText
-/
import TapeMultiplier.Proofs.Batch.Reference
import TapeMultiplier.Proofs.Kernel.Room
import TapeMultiplier.Proofs.Multiplication.Correctness

namespace TapeMultiplier

namespace Multiplication

/-! ### The cells that the program adds -/

namespace Stage

theorem reached_start (a b : Nat) : (choose 0 a).Reached a b :=
  Nat.zero_add a

/-- The head is never on the first cell. -/
theorem head_pos (b : Nat) (stage : Stage) : 0 < (stage.tape b).head := by
  cases stage with
  | recross done todo tally ahead passed =>
      simp [tape, firstFactor, tallied, zeros, marks, tallies]
      omega
  | _ => simp [tape, firstFactor, tallied, zeros, marks, tallies]

/-- A step of the work is a step of the machine. -/
theorem advance_machine {a b : Nat} {stage after : Stage} (reached : stage.Reached a b)
    (moves : stage.next b = some after) (steps : Nat) :
    (stage.machine b steps).advance multiplicationTable = after.machine b (steps + 1) := by
  obtain ⟨t, found, target, written⟩ := apply_next reached moves
  rw [Machine.advance_of_lookup rfl found]
  simp only [Machine.apply, machine, target, written]

/-- No step adds a cell on the left, since it would end on that cell. -/
theorem growth_left {a b : Nat} {stage : Stage} (reached : stage.Reached a b) (steps count : Nat) :
    (stage.machine b steps).growth multiplicationTable .left count = 0 := by
  induction count generalizing stage steps with
  | zero => rfl
  | succ count ih =>
      rw [Machine.growth_succ_front]
      cases moves : stage.next b with
      | none =>
          obtain rfl := eq_choose_of_next_none reached moves
          rw [Machine.grows_of_stuck rfl (lookup_choose_done a b),
            Machine.advance_of_stuck rfl (lookup_choose_done a b), Machine.growth_of_halted rfl]
          rfl
      | some after =>
          have next := advance_machine reached moves steps
          have inside : (stage.machine b steps).grows multiplicationTable .left = false := by
            rw [← Bool.not_eq_true]
            intro grown
            have first := Tape.head_of_atEnd_left (Machine.atEnd_advance grown)
            rw [next] at first
            exact absurd first (Nat.ne_of_gt (head_pos b after))
          rw [inside, next, ih (reached_next reached moves) (steps + 1)]
          rfl

theorem length_tape_choose_start (a b : Nat) : ((choose 0 a).tape b).length = a + b + 3 := by
  rw [tape, Tape.length_facing _ (by simp [secondFactor])]
  simp [firstFactor, zeros, marks, secondFactor]
  omega

theorem length_tape_choose_done (a b : Nat) :
    ((choose a 0).tape b).length = a + b + 3 + a * b := by
  rw [← Tape.length_cells, cells_choose_done]
  simp
  omega

/-- The whole work adds one cell on the right for every unit of the product. -/
theorem growth_right_start (a b : Nat) {budget : Nat} (enough : totalSteps a b < budget) :
    ((choose 0 a).machine b 0).growth multiplicationTable .right budget = a * b := by
  have reached := reached_start a b
  have ends : ((choose 0 a).machine b 0).run multiplicationTable budget =
      finished a b (0 + totalSteps a b) := by
    rw [run_of_remaining_lt reached 0 (by rwa [remaining_start]), remaining_start]
  have last := Machine.length_iterate multiplicationTable budget ((choose 0 a).machine b 0)
  rw [← Machine.run_eq_iterate, ends, growth_left reached 0 budget] at last
  have lastLength : (finished a b (0 + totalSteps a b)).tape.length = a + b + 3 + a * b :=
    length_tape_choose_done a b
  have firstLength : ((choose 0 a).machine b 0).tape.length = a + b + 3 :=
    length_tape_choose_start a b
  omega

end Stage

/-! ### The program on a buffer -/

/-- The machine on a task's board is at the first stage. -/
theorem machine_taskBoard (below beyond a b : Nat) (positive : 0 < b) :
    (taskBoard below beyond a b).machine Table.startState 0 = (Stage.choose 0 (a + 1)).machine b 0 := by
  have started := multiplier_eq_machine below beyond a b positive
  rw [multiplier_eq (Nat.le_add_left 1 a) positive] at started
  exact (Except.ok.inj started).symm

section

variable {below beyond a b budget : Nat} {report : Report}

/-- A kernel that runs out of buffer has no cell left on the right. -/
theorem growth_of_overflow (positive : 0 < b)
    (ran : ((taskBoard below beyond a b).kernel 0 0).run multiplicationTable.dense budget = .ok report)
    (overflown : report.status = .tapeOverflow) :
    report.steps ≤ budget ∧
      ((Stage.choose 0 (a + 1)).machine b 0).growth multiplicationTable .right report.steps =
        beyond + 1 := by
  rcases Board.run_room _ multiplicationTable.states_zero 0 budget ran with
    ⟨-, side, applied, within, counted, grown⟩ | ⟨contained, -⟩
  · obtain rfl : report.steps = applied := counted.trans (Nat.zero_add applied)
    rw [machine_taskBoard below beyond a b positive] at grown
    cases side with
    | left =>
        rw [Stage.growth_left (Stage.reached_start (a + 1) b)] at grown
        cases grown
    | right =>
        have roomBeyond : (taskBoard below beyond a b).room .right = beyond := List.length_replicate
        exact ⟨within, grown.trans (congrArg (· + 1) roomBeyond)⟩
  · exact absurd overflown contained

/-- With enough steps for the work, the kernel runs out of buffer just if the product does not fit behind
the starting tape. -/
theorem overflow_iff (positive : 0 < b) (enough : totalSteps (a + 1) b < budget)
    (ran : ((taskBoard below beyond a b).kernel 0 0).run multiplicationTable.dense budget = .ok report) :
    report.status = .tapeOverflow ↔ beyond < (a + 1) * b := by
  constructor
  · intro overflown
    obtain ⟨within, grown⟩ := growth_of_overflow positive ran overflown
    have total := Machine.growth_mono multiplicationTable .right
      ((Stage.choose 0 (a + 1)).machine b 0) within
    simp only [Stage.growth_right_start (a + 1) b enough, grown] at total
    omega
  · intro full
    rcases Board.run_room _ multiplicationTable.states_zero 0 budget ran with
      ⟨overflown, -⟩ | ⟨-, fits⟩
    · exact overflown
    · have roomBeyond : (taskBoard below beyond a b).room .right = beyond := List.length_replicate
      have total := fits .right
      rw [machine_taskBoard below beyond a b positive, Stage.growth_right_start (a + 1) b enough,
        roomBeyond] at total
      omega

end

/-- The result of a multiplication that is done. -/
def finishedResult (a b : Nat) : BatchResult :=
  { a, b
    steps := totalSteps a b
    status := .halted
    tape := String.ofList ('_' :: List.replicate a 'X' ++ 'C' :: List.replicate b '0' ++
      '_' :: List.replicate (a * b) '0')
    product := a * b }

theorem correct_finishedResult (a b : Nat) : (finishedResult a b).correct = true := by
  simp [BatchResult.correct, finishedResult]

/-- The machine at the end of the work has the result of a multiplication that is done. -/
theorem taskResult_finished {a b : Nat} (positiveA : 1 ≤ a) (positiveB : 1 ≤ b) :
    (Stage.finished a b (totalSteps a b)).taskResult a b = finishedResult a b := by
  have product : (Stage.finished a b (totalSteps a b)).product = a * b :=
    extractProduct_choose_done positiveA positiveB
  have text : (Stage.finished a b (totalSteps a b)).tape.text = (finishedResult a b).tape := by
    rw [Tape.text, Stage.finished, cells_choose_done]
    rfl
  rw [Machine.taskResult, product, text]
  rfl

/-- A buffer with room for the product has the result of a multiplication that is done. -/
theorem runTask_of_room {below beyond a b patience : Nat} {maxSteps : Int} (positive : 0 < b)
    (unlimited : maxSteps < 0) (enough : totalSteps (a + 1) b < patience)
    (room : (a + 1) * b ≤ beyond) :
    runTask multiplicationTable.dense patience maxSteps
        ((taskBoard below beyond a b).task (a + 1 : Nat) b) = .ok (finishedResult (a + 1) b) := by
  have limit : kernelLimit maxSteps = .unlimited := if_pos unlimited
  obtain ⟨report, tape, ends, decoded, described⟩ :=
    (taskBoard below beyond a b).exists_report multiplicationTable patience
  have contained : report.status ≠ .tapeOverflow := by
    rw [Ne, overflow_iff positive enough ends]
    omega
  have reached := Stage.reached_start (a + 1) b
  have matched := described.matched contained
  rw [machine_taskBoard below beyond a b positive,
    Stage.run_of_remaining_lt reached 0 (by rwa [remaining_start]), remaining_start,
    Nat.zero_add] at matched
  have halted : report.status = .halted := matched.halted.mp rfl
  refine runTask_board_eq_ok.mpr ⟨report, tape, by rwa [limit], by simp [halted], decoded, ?_⟩
  rw [matched.taskResult_eq contained decoded, taskResult_finished (by omega) positive]

/-- A buffer without room for the product is used up to its last cell. -/
theorem runTask_of_full (below : Nat) {beyond a b patience : Nat} {maxSteps : Int} (positive : 0 < b)
    (unlimited : maxSteps < 0) (enough : totalSteps (a + 1) b < patience)
    (full : beyond < (a + 1) * b) :
    ∃ steps tape, tape.length = a + 1 + b + 3 + beyond ∧
      runTask multiplicationTable.dense patience maxSteps
        ((taskBoard below beyond a b).task (a + 1 : Nat) b) =
          .ok { a := (a + 1 : Nat), b, steps, status := .tapeOverflow, tape, product := 0 } := by
  have limit : kernelLimit maxSteps = .unlimited := if_pos unlimited
  obtain ⟨report, tape, ends, decoded, described⟩ :=
    (taskBoard below beyond a b).exists_report multiplicationTable patience
  have overflown : report.status = .tapeOverflow := (overflow_iff positive enough ends).mpr full
  obtain ⟨-, grown⟩ := growth_of_overflow positive ends overflown
  obtain ⟨applied, counted, exceeded⟩ := described.exceeded overflown
  obtain rfl : report.steps = applied := counted.trans (Nat.zero_add applied)
  rw [machine_taskBoard below beyond a b positive] at exceeded
  refine ⟨report.steps, String.ofList tape, ?_, ?_⟩
  · have added := Machine.length_iterate multiplicationTable report.steps
      ((Stage.choose 0 (a + 1)).machine b 0)
    rw [← Machine.run_eq_iterate, exceeded.length_tape decoded, grown,
      Stage.growth_left (Stage.reached_start (a + 1) b)] at added
    have firstLength : ((Stage.choose 0 (a + 1)).machine b 0).tape.length = a + 1 + b + 3 :=
      Stage.length_tape_choose_start (a + 1) b
    rw [String.length_ofList]
    omega
  · refine runTask_board_eq_ok.mpr ⟨report, tape, by rwa [limit], by simp [overflown], decoded, ?_⟩
    simp [Report.taskResult, overflown]

/-- So has a batch of one task, of whose buffer the second half is used. -/
theorem evaluateBatch_of_room {a b size patience : Nat} {maxSteps : Int} (positiveA : 1 ≤ a)
    (positiveB : 1 ≤ b) (unlimited : maxSteps < 0) (enough : totalSteps a b < patience)
    (room : size / 2 + a + b + 3 + a * b ≤ size) :
    evaluateBatch multiplicationTable.dense patience [(a, b)] maxSteps size =
      .ok [finishedResult a b] := by
  obtain ⟨a, rfl⟩ : ∃ n, a = n + 1 := ⟨a - 1, by omega⟩
  have enoughRoom : (a + 1) * b ≤ marginBehind size a b := by
    rw [marginBehind]
    omega
  rw [evaluateBatch_singleton, evaluateTask, prepareTask_eq size a b positiveB, if_neg (by omega)]
  simp only [bind, Except.bind, runTask_of_room positiveB unlimited enough enoughRoom]
  rfl

/-- The program, which asks for the room of the buffer first, gives this result wherever the buffer can
be held: a cell takes four bytes. -/
theorem boundedBatch_eq_finished {a b size patience : Nat} {maxSteps : Int} (positiveA : 1 ≤ a)
    (positiveB : 1 ≤ b) (unlimited : maxSteps < 0) (enough : totalSteps a b < patience)
    (room : size / 2 + a + b + 3 + a * b ≤ size) (held : size < textLimit) :
    boundedBatch multiplicationTable.dense patience [(a, b)] maxSteps size =
      .ok [finishedResult a b] := by
  have small : ∀ task ∈ [((a : Int), (b : Int))], task.1 < textLimit ∧ task.2 < textLimit := by
    rw [List.forall_mem_singleton]
    exact ⟨by omega, by omega⟩
  have bytes : cellBytes * max [((a : Int), (b : Int))].length 1 * max size 1 < bufferLimit := by
    rw [textLimit] at held
    show 4 * 1 * max size 1 < 274877906944
    omega
  exact boundedBatch_eq_ok.mpr ⟨checkBatch_of_lt bytes small,
    evaluateBatch_of_room positiveA positiveB unlimited enough room⟩

/-- The buffer that the bundled program needs.  Without a step limit, one task with positive factors is
refused just if the second half of the buffer has no room for its starting tape.  If it has room for the
product as well, the multiplication is done; if not, the tape in the result fills that half of the
buffer. -/
theorem evaluateBatch_multiplicationText (a b size : Nat) (maxSteps : Int) (positiveA : 1 ≤ a)
    (positiveB : 1 ≤ b) (unlimited : maxSteps < 0) :
    ∃ table, ProgramText.decode Bundled.multiplicationText.toList = .ok table ∧
      (∀ patience error, error ≠ .unfinished →
        (evaluateBatch table.dense patience [(a, b)] maxSteps size = .error error ↔
          size < size / 2 + a + b + 3 ∧ error = .tooSmall size a b)) ∧
      ∀ patience, totalSteps a b < patience → size / 2 + a + b + 3 ≤ size →
        (size / 2 + a + b + 3 + a * b ≤ size →
          evaluateBatch table.dense patience [(a, b)] maxSteps size = .ok [finishedResult a b] ∧
            (finishedResult a b).correct = true) ∧
        (size < size / 2 + a + b + 3 + a * b →
          ∃ result, evaluateBatch table.dense patience [(a, b)] maxSteps size = .ok [result] ∧
            result.a = a ∧ result.b = b ∧ result.status = .tapeOverflow ∧ result.product = 0 ∧
            result.correct = false ∧ result.tape.length = size - size / 2) := by
  obtain ⟨a, rfl⟩ : ∃ n, a = n + 1 := ⟨a - 1, by omega⟩
  have prepared := prepareTask_eq size a b positiveB
  refine ⟨multiplicationTable, decode_multiplicationText, ?_, ?_⟩
  · intro patience error finished
    rw [evaluateBatch_singleton, evaluateTask, prepared]
    split
    · next small =>
      constructor
      · intro refused
        exact ⟨by omega, (Except.error.inj refused).symm⟩
      · rintro ⟨-, rfl⟩
        rfl
    · next fits =>
      refine iff_of_false ?_ fun refused => fits (by omega)
      intro refused
      cases ran : runTask multiplicationTable.dense patience maxSteps
          ((taskBoard (size / 2) (marginBehind size a b) a b).task (a + 1 : Nat) b) with
      | error cause =>
          obtain rfl := runTask_eq_error ran
          simp only [bind, Except.bind, ran] at refused
          exact finished (Except.error.inj refused).symm
      | ok result =>
          simp only [bind, Except.bind, ran] at refused
          cases refused
  · intro patience enough fits
    refine ⟨fun room => ⟨evaluateBatch_of_room positiveA positiveB unlimited enough room,
      correct_finishedResult (a + 1) b⟩, ?_⟩
    intro full
    have taken : prepareTask size (((a + 1 : Nat) : Int), (b : Int)) =
        .ok ((taskBoard (size / 2) (marginBehind size a b) a b).task (a + 1 : Nat) b) :=
      prepared.trans (if_neg (by omega))
    have littleRoom : marginBehind size a b < (a + 1) * b := by
      rw [marginBehind]
      omega
    obtain ⟨steps, tape, length, ran⟩ :=
      runTask_of_full (size / 2) positiveB unlimited enough littleRoom
    simp only [evaluateBatch_singleton, evaluateTask, taken, bind, Except.bind, ran]
    refine ⟨_, rfl, rfl, rfl, rfl, rfl, rfl, ?_⟩
    rw [length, marginBehind]
    omega

/-- One times one is done in a buffer of eleven cells, only begun in one of ten, and refused for one of
eight. -/
theorem evaluateBatch_multiplicationText_one_one :
    ∃ table, ProgramText.decode Bundled.multiplicationText.toList = .ok table ∧
      evaluateBatch table.dense 12 [(1, 1)] (-1) 11 = .ok [finishedResult 1 1] ∧
      (∃ result, evaluateBatch table.dense 12 [(1, 1)] (-1) 10 = .ok [result] ∧
        result.status = .tapeOverflow ∧ result.tape.length = 5) ∧
      evaluateBatch table.dense 0 [(1, 1)] (-1) 8 = .error (.tooSmall 8 1 1) := by
  have positive : 1 ≤ 1 := by decide
  have unlimited : (-1 : Int) < 0 := by decide
  have enough : totalSteps 1 1 < 12 := by decide
  obtain ⟨table, decoded, -, fitting⟩ :=
    evaluateBatch_multiplicationText 1 1 11 (-1) positive positive unlimited
  obtain ⟨second, decodedSecond, -, filling⟩ :=
    evaluateBatch_multiplicationText 1 1 10 (-1) positive positive unlimited
  obtain ⟨third, decodedThird, refused, -⟩ :=
    evaluateBatch_multiplicationText 1 1 8 (-1) positive positive unlimited
  obtain rfl : table = second := Except.ok.inj (decoded.symm.trans decodedSecond)
  obtain rfl : table = third := Except.ok.inj (decoded.symm.trans decodedThird)
  obtain ⟨done, -⟩ := (fitting 12 enough (by decide)).1 (by decide)
  obtain ⟨result, overflown, -, -, status, -, -, length⟩ :=
    (filling 12 enough (by decide)).2 (by decide)
  exact ⟨table, decoded, done, ⟨result, overflown, status, length⟩,
    (refused 0 _ BatchError.noConfusion).mpr ⟨by decide, rfl⟩⟩

end Multiplication

end TapeMultiplier
