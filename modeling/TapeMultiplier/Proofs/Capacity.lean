/-
Module: TapeMultiplier.Proofs.Capacity
Layer: Proofs
Purpose: Answers where there is room.  Before a tape or a buffer is laid out, the program asks for room.  If
  there is none, that is its failure; if there is, its answer is the answer of the model.  Factors and buffers
  of ordinary size have room, and what has room together has room apart.
Main exports: boundedMultiplier_of_room, boundedMultiply_of_room, boundedBatch_of_room,
  boundedReference_of_room, boundedMultiply_eq_ok, boundedBatch_eq_ok, boundedReference_eq_ok, Admitted,
  checkTasks_of_lt, checkBatch_of_lt, checkBuffers_eq_ok
-/
import TapeMultiplier.Proofs.Session

namespace TapeMultiplier

/-! ### Where there is room, and where there is not -/

section Room

variable {ε α : Type} {check : Except CapacityError Unit}

/-- Where there is room, the check leaves no trace. -/
theorem asFailure_bind_of_room (room : check = .ok ()) (failure : ε → Failure) (found : Except ε α) :
    (asFailure .capacity check >>= fun _ => asFailure failure found) = asFailure failure found := by
  rw [room]
  rfl

/-- There is an answer where there is room and the work has that answer. -/
theorem asFailure_bind_eq_ok {failure : ε → Failure} {found : Except ε α} {answer : α} :
    (asFailure .capacity check >>= fun _ => asFailure failure found) = .ok answer ↔
      check = .ok () ∧ found = .ok answer := by
  constructor
  · intro answered
    obtain ⟨⟨⟩, room, done⟩ := Except.bind_eq_ok.mp answered
    exact ⟨asFailure_eq_ok room, asFailure_eq_ok done⟩
  · rintro ⟨rfl, rfl⟩
    rfl

end Room

section Answers

variable {table : Table} {dense : Dense} {patience : Nat} {tasks : List (Int × Int)}
  {maxSteps tapeSize : Int} {results : List BatchResult}

theorem boundedMultiplier_of_room {a b : Int} (room : checkTasks none [(a, b)] = .ok ()) :
    boundedMultiplier a b = asFailure .ofMultiply (multiplier a b) :=
  asFailure_bind_of_room room _ _

theorem boundedMultiply_of_room {a b : Int} (room : checkTasks none [(a, b)] = .ok ()) (limit : StepLimit) :
    boundedMultiply table patience a b limit =
      asFailure .ofMultiply (multiply table patience a b limit) :=
  asFailure_bind_of_room room _ _

theorem boundedBatch_of_room (room : checkBatch tasks tapeSize = .ok ()) :
    boundedBatch dense patience tasks maxSteps tapeSize =
      asFailure .ofBatch (evaluateBatch dense patience tasks maxSteps tapeSize) :=
  asFailure_bind_of_room room _ _

theorem boundedReference_of_room (room : checkTasks none tasks = .ok ()) :
    boundedReference table patience tasks maxSteps =
      asFailure .ofBatch (evaluateReference table patience tasks maxSteps) :=
  asFailure_bind_of_room room _ _

/-- The answer of a multiplication is that of the model, and it needs room. -/
theorem boundedMultiply_eq_ok {a b : Int} {limit : StepLimit} {answer : Nat × Configuration} :
    boundedMultiply table patience a b limit = .ok answer ↔
      checkTasks none [(a, b)] = .ok () ∧ multiply table patience a b limit = .ok answer :=
  asFailure_bind_eq_ok

/-- The results of the kernel are those of the model, and they need room. -/
theorem boundedBatch_eq_ok :
    boundedBatch dense patience tasks maxSteps tapeSize = .ok results ↔
      checkBatch tasks tapeSize = .ok () ∧
        evaluateBatch dense patience tasks maxSteps tapeSize = .ok results :=
  asFailure_bind_eq_ok

/-- The results of the step-by-step machine are those of the model, and they need room. -/
theorem boundedReference_eq_ok :
    boundedReference table patience tasks maxSteps = .ok results ↔
      checkTasks none tasks = .ok () ∧
        evaluateReference table patience tasks maxSteps = .ok results :=
  asFailure_bind_eq_ok

end Answers

/-- A check passes if its own reason to refuse is missing and the checks after it pass. -/
theorem ite_error_eq_ok {refused : Prop} [Decidable refused] {error : CapacityError}
    {later : Except CapacityError Unit} :
    (if refused then .error error else later) = .ok () ↔ ¬refused ∧ later = .ok () := by
  by_cases wanting : refused
  · rw [if_pos wanting]
    exact iff_of_false nofun fun both => both.1 wanting
  · rw [if_neg wanting, and_iff_right wanting]

theorem fitsIndex_iff {value : Int} :
    fitsIndex value = true ↔ -9223372036854775808 ≤ value ∧ value ≤ 9223372036854775807 := by
  rw [fitsIndex, Bool.and_eq_true, decide_eq_true_iff, decide_eq_true_iff]

/-! ### Room for starting tapes -/

theorem checkRun_eq_ok {length : Int} :
    checkRun length = .ok () ↔ fitsIndex length = true ∧ length < textLimit := by
  simp only [checkRun, ite_error_eq_ok, Bool.not_eq_true', Bool.not_eq_false, Int.not_le, and_true]

/-- A run shorter than the limit of a text has room. -/
theorem checkRun_of_lt {length : Int} (lower : 0 ≤ length) (below : length < textLimit) :
    checkRun length = .ok () := by
  refine checkRun_eq_ok.mpr ⟨fitsIndex_iff.mpr ?_, below⟩
  rw [textLimit] at below
  omega

theorem checkTape_of_lt {a b : Int} (positiveA : 0 ≤ a) (positiveB : 0 ≤ b) (belowA : a < textLimit)
    (belowB : b < textLimit) : checkTape a b = .ok () := by
  rw [checkTape, checkRun_of_lt positiveA belowA, checkRun_of_lt positiveB belowB]
  rfl

/-- Factors below the limit of a text have room for their starting tapes, in buffers and without. -/
theorem checkTasks_of_lt (tapeSize : Option Int) {tasks : List (Int × Int)}
    (small : ∀ task ∈ tasks, task.1 < textLimit ∧ task.2 < textLimit) :
    checkTasks tapeSize tasks = .ok () := by
  induction tasks with
  | nil => rfl
  | cons task rest ih =>
      obtain ⟨a, b⟩ := task
      obtain ⟨⟨belowA, belowB⟩, smallRest⟩ := List.forall_mem_cons.mp small
      have rooms := ih smallRest
      by_cases refused : a ≤ 0 ∨ b ≤ 0
      · cases tapeSize <;> simp only [checkTasks, if_pos refused]
      · have tape : checkTape a b = .ok () := checkTape_of_lt (by omega) (by omega) belowA belowB
        cases tapeSize with
        | none =>
            simp only [checkTasks, if_neg refused, tape]
            exact rooms
        | some size =>
            simp only [checkTasks, if_neg refused, tape]
            by_cases narrow : size < size.fdiv 2 + (a + b + 3)
            · rw [if_pos narrow]
              rfl
            · rw [if_neg narrow]
              exact rooms

/-- A task that takes part in the checks of its batch: its factors are positive, and its starting tape
fits the second half of a buffer, if there are buffers. -/
structure Admitted (tapeSize : Option Int) (task : Int × Int) : Prop where
  first : 0 < task.1
  second : 0 < task.2
  fits : ∀ size ∈ tapeSize, size.fdiv 2 + (task.1 + task.2 + 3) ≤ size

theorem checkTasks_cons {tapeSize : Option Int} {task : Int × Int} (admitted : Admitted tapeSize task)
    (rest : List (Int × Int)) :
    checkTasks tapeSize (task :: rest) = checkTape task.1 task.2 >>= fun _ => checkTasks tapeSize rest := by
  obtain ⟨a, b⟩ := task
  obtain ⟨first, second, fits⟩ := admitted
  have positive : ¬(a ≤ 0 ∨ b ≤ 0) := by omega
  cases tapeSize with
  | none => simp only [checkTasks, if_neg positive]
  | some size =>
      have room := fits size rfl
      simp only [checkTasks, if_neg positive,
        if_neg (show ¬size < size.fdiv 2 + (a + b + 3) by omega)]

/-- Where there is room for all starting tapes, there is for each. -/
theorem checkTasks_singleton {tapeSize : Option Int} {tasks : List (Int × Int)}
    (admitted : ∀ task ∈ tasks, Admitted tapeSize task) (checked : checkTasks tapeSize tasks = .ok ()) :
    ∀ task ∈ tasks, checkTasks tapeSize [task] = .ok () := by
  induction tasks with
  | nil =>
      rintro _ ⟨⟩
  | cons task rest ih =>
      have admittedRest := fun other member => admitted other (List.mem_cons_of_mem task member)
      rw [checkTasks_cons (admitted task List.mem_cons_self), Except.bind_eq_ok] at checked
      obtain ⟨⟨⟩, tape, others⟩ := checked
      intro other member
      rcases List.mem_cons.mp member with rfl | inRest
      · rw [checkTasks_cons (admitted other List.mem_cons_self), tape]
        rfl
      · exact ih admittedRest others other inRest

/-- Where there is room for each starting tape, there is for all. -/
theorem checkTasks_of_singleton {tapeSize : Option Int} {tasks : List (Int × Int)}
    (admitted : ∀ task ∈ tasks, Admitted tapeSize task)
    (checked : ∀ task ∈ tasks, checkTasks tapeSize [task] = .ok ()) :
    checkTasks tapeSize tasks = .ok () := by
  induction tasks with
  | nil => rfl
  | cons task rest ih =>
      obtain ⟨admittedTask, admittedRest⟩ := List.forall_mem_cons.mp admitted
      obtain ⟨checkedTask, checkedRest⟩ := List.forall_mem_cons.mp checked
      rw [checkTasks_cons admittedTask, Except.bind_eq_ok] at checkedTask ⊢
      obtain ⟨⟨⟩, tape, -⟩ := checkedTask
      exact ⟨(), tape, ih admittedRest checkedRest⟩

/-! ### Room for buffers -/

theorem fitsIndex_of_le {small large : Int} (lower : 0 ≤ small) (below : small ≤ large)
    (fits : fitsIndex large = true) : fitsIndex small = true := by
  rw [fitsIndex_iff] at fits ⊢
  omega

theorem checkBuffers_eq_ok {rows : Nat} {columns : Int} :
    checkBuffers rows columns = .ok () ↔
      fitsIndex columns = true ∧ fitsIndex (cellBytes * max rows 1 * max columns.toNat 1 : Nat) = true ∧
        cellBytes * rows * columns.toNat < bufferLimit := by
  have whole : ((cellBytes * max rows 1 * max columns.toNat 1 : Nat) : Int) =
      cellBytes * (max rows 1 : Nat) * (max columns.toNat 1 : Nat) := by
    rw [Int.natCast_mul, Int.natCast_mul]
  simp only [checkBuffers, whole, ite_error_eq_ok, Bool.not_eq_true', Bool.not_eq_false, Nat.not_le,
    and_true]

/-- Where there is room for the buffers of all tasks, there is for one. -/
theorem checkBuffers_one {rows : Nat} {columns : Int} (busy : 1 ≤ rows)
    (checked : checkBuffers rows columns = .ok ()) : checkBuffers 1 columns = .ok () := by
  rw [checkBuffers_eq_ok] at checked ⊢
  obtain ⟨side, bytes, held⟩ := checked
  have fewer (width : Nat) : cellBytes * 1 * width ≤ cellBytes * rows * width :=
    Nat.mul_le_mul_right width (Nat.mul_le_mul_left cellBytes busy)
  rw [Nat.max_eq_left busy] at bytes
  refine ⟨side, fitsIndex_of_le (Int.natCast_nonneg _) ?_ bytes, Nat.lt_of_le_of_lt (fewer _) held⟩
  exact Int.ofNat_le.mpr (fewer _)

/-- A batch has room if its buffers and its starting tapes have. -/
theorem checkBatch_eq_ok {tasks : List (Int × Int)} {tapeSize : Int} (possible : 0 ≤ tapeSize) :
    checkBatch tasks tapeSize = .ok () ↔
      checkBuffers tasks.length tapeSize = .ok () ∧ checkTasks (some tapeSize) tasks = .ok () := by
  have rest : ∀ done : Unit, (if tapeSize < 0 then pure () else checkTasks (some tapeSize) tasks) =
      checkTasks (some tapeSize) tasks := fun _ => if_neg (Int.not_lt.mpr possible)
  constructor
  · intro checked
    obtain ⟨⟨⟩, buffers, tapes⟩ := Except.bind_eq_ok.mp checked
    exact ⟨buffers, (rest ()).symm.trans tapes⟩
  · rintro ⟨buffers, tapes⟩
    exact Except.bind_eq_ok.mpr ⟨(), buffers, (rest ()).trans tapes⟩

/-- A side is no larger than the bytes of the buffers, and these are far from the end of a machine word. -/
theorem checkBuffers_of_lt {rows size : Nat}
    (held : cellBytes * max rows 1 * max size 1 < bufferLimit) : checkBuffers rows size = .ok () := by
  have word {number : Nat} (below : number < bufferLimit) : fitsIndex number = true := by
    rw [bufferLimit] at below
    exact fitsIndex_iff.mpr (by omega)
  have side : size ≤ cellBytes * max rows 1 * max size 1 := by
    calc size ≤ max size 1 := Nat.le_max_left size 1
      _ ≤ cellBytes * max rows 1 * max size 1 :=
        Nat.le_mul_of_pos_left _ (Nat.mul_pos (by decide) (by omega))
  have cells : cellBytes * rows * size ≤ cellBytes * max rows 1 * max size 1 :=
    Nat.mul_le_mul (Nat.mul_le_mul_left cellBytes (Nat.le_max_left rows 1)) (Nat.le_max_left size 1)
  rw [checkBuffers_eq_ok, Int.toNat_natCast]
  exact ⟨word (by omega), word held, by omega⟩

/-- Buffers below the limits have room for a batch of factors below the limit of a text. -/
theorem checkBatch_of_lt {tasks : List (Int × Int)} {size : Nat}
    (held : cellBytes * max tasks.length 1 * max size 1 < bufferLimit)
    (small : ∀ task ∈ tasks, task.1 < textLimit ∧ task.2 < textLimit) :
    checkBatch tasks size = .ok () :=
  (checkBatch_eq_ok (Int.natCast_nonneg size)).mpr ⟨checkBuffers_of_lt held, checkTasks_of_lt _ small⟩

end TapeMultiplier
