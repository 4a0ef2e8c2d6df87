/-
Module: TapeMultiplier.Proofs.Batch.Independence
Layer: Proofs
Purpose: The tasks of a batch do not disturb each other.  A batch is refused for its first task that is
  refused, whatever the machines of the others would do; otherwise its results are those of the tasks by
  themselves, in order, and this holds also of the batch on shared arrays.
Main exports: refusal, FirstRefusal, mapM_prepareTask_eq_error_iff, evaluateBatch_append_eq_ok,
  Terminates, terminates_of_limit, IndependentBatch, evaluateBatch_independent
-/
import TapeMultiplier.Proofs.Batch.Patience
import TapeMultiplier.Proofs.Batch.Rows

namespace TapeMultiplier

/-! ### Refusals -/

/-- Why a task is refused before anything runs: its factors are looked at first, and then whether the
starting tape fits the second half of a buffer. -/
def refusal (tapeSize : Int) (task : Int × Int) : Option BatchError :=
  if task.1 ≤ 0 ∨ task.2 ≤ 0 then some (.operands .positive)
  else if tapeSize < tapeSize.fdiv 2 + (task.1 + task.2 + 3) then
    some (.tooSmall tapeSize task.1 task.2)
  else none

/-- No task is refused for want of patience. -/
theorem refusal_ne_unfinished {tapeSize : Int} {task : Int × Int} :
    refusal tapeSize task ≠ some .unfinished := by
  rw [refusal]
  split
  · exact nofun
  · split <;> exact nofun

/-- An error is that of the first task that is refused. -/
def FirstRefusal (tapeSize : Int) (tasks : List (Int × Int)) (error : BatchError) : Prop :=
  ∃ before task after, tasks = before ++ task :: after ∧
    (∀ earlier ∈ before, refusal tapeSize earlier = none) ∧ refusal tapeSize task = some error

section Preparing

variable {size : Nat} {task : Int × Int} {tasks : List (Int × Int)} {error : BatchError}

/-- Preparing a task fails as the task is refused, and succeeds if it is not. -/
theorem prepareTask_cases (size : Nat) (task : Int × Int) :
    (∃ error, refusal size task = some error ∧ prepareTask size task = .error error) ∨
      refusal size task = none ∧ ∃ prepared, prepareTask size task = .ok prepared := by
  obtain ⟨first, second⟩ := task
  by_cases refused : first ≤ 0 ∨ second ≤ 0
  · exact Or.inl ⟨.operands .positive, if_pos refused, prepareTask_of_refused refused size⟩
  · obtain ⟨a, rfl⟩ : ∃ a : Nat, first = (a + 1 : Nat) := ⟨(first - 1).toNat, by omega⟩
    obtain ⟨b, rfl⟩ : ∃ b : Nat, second = b := ⟨second.toNat, by omega⟩
    have half : (size : Int).fdiv 2 = (size / 2 : Nat) := (Int.ofNat_fdiv size 2).symm
    rw [prepareTask_eq size a b (by omega), refusal, if_neg refused, half]
    by_cases small : size < size / 2 + (a + 1 + b + 3)
    · rw [if_pos small, if_pos (by omega)]
      exact Or.inl ⟨_, rfl, rfl⟩
    · rw [if_neg small, if_neg (by omega)]
      exact Or.inr ⟨rfl, _, rfl⟩

theorem prepareTask_eq_error_iff :
    prepareTask size task = .error error ↔ refusal size task = some error := by
  rcases prepareTask_cases size task with ⟨cause, refused, failed⟩ | ⟨accepted, prepared, ready⟩
  · rw [refused, failed, Except.error.injEq, Option.some.injEq]
  · rw [accepted, ready]
    exact iff_of_false nofun nofun

theorem exists_prepareTask_iff :
    (∃ prepared, prepareTask size task = .ok prepared) ↔ refusal size task = none := by
  rcases prepareTask_cases size task with ⟨cause, refused, failed⟩ | ⟨accepted, ready⟩
  · rw [refused, failed]
    exact iff_of_false nofun nofun
  · exact iff_of_true ready accepted

/-- Preparing the tasks of a batch fails with the error of the first one that is refused. -/
theorem mapM_prepareTask_eq_error_iff :
    tasks.mapM (prepareTask size) = .error error ↔ FirstRefusal size tasks error := by
  simp only [Except.mapM_eq_error_iff, exists_prepareTask_iff, prepareTask_eq_error_iff, FirstRefusal]

/-- A refused batch fails before any machine runs. -/
theorem evaluateBatch_of_firstRefusal (refused : FirstRefusal size tasks error) (dense : Dense)
    (patience : Nat) (maxSteps : Int) :
    evaluateBatch dense patience tasks maxSteps size = .error error := by
  rw [evaluateBatch, if_neg (by omega), mapM_prepareTask_eq_error_iff.mpr refused]
  rfl

end Preparing

/-! ### Results -/

section Results

variable {table : Table} {dense : Dense} {patience size : Nat} {maxSteps tapeSize : Int}
  {task : Int × Int} {tasks : List (Int × Int)}

/-- The results of two batches after each other are those of one batch of all their tasks. -/
theorem evaluateBatch_append_eq_ok {first second : List (Int × Int)} {results : List BatchResult} :
    evaluateBatch dense patience (first ++ second) maxSteps tapeSize = .ok results ↔
      ∃ others more, evaluateBatch dense patience first maxSteps tapeSize = .ok others ∧
        evaluateBatch dense patience second maxSteps tapeSize = .ok more ∧ results = others ++ more := by
  simp only [evaluateBatch_eq_ok]
  constructor
  · rintro ⟨possible, each⟩
    have front := (List.forall₂_take_append _ _ _ each.flip).flip
    have back := (List.forall₂_drop_append _ _ _ each.flip).flip
    exact ⟨_, _, ⟨possible, front⟩, ⟨possible, back⟩, (List.take_append_drop _ _).symm⟩
  · rintro ⟨others, more, ⟨possible, front⟩, ⟨-, back⟩, rfl⟩
    exact ⟨possible, List.rel_append front back⟩

/-- The machine of a task comes to an end: with enough patience, evaluating the task by itself asks for no
more. -/
def Terminates (table : Table) (maxSteps tapeSize : Int) (task : Int × Int) : Prop :=
  ∃ patience, evaluateBatch table.dense patience [task] maxSteps tapeSize ≠ .error .unfinished

/-- A task that is not refused has a result if its machine comes to an end. -/
theorem Terminates.exists_result (ends : Terminates table maxSteps size task)
    (accepted : refusal size task = none) :
    ∃ patience result, evaluateTask table.dense patience maxSteps size task = .ok result := by
  obtain ⟨patience, finished⟩ := ends
  obtain ⟨prepared, ready⟩ := exists_prepareTask_iff.mpr accepted
  rcases simulate_prepared table patience maxSteps ready with ⟨-, result, -, -, evaluated⟩ | ⟨-, unfinished⟩
  · exact ⟨patience, result, evaluated⟩
  · rw [evaluateBatch_singleton, unfinished] at finished
    exact absurd rfl finished

/-- With a limit every machine comes to an end. -/
theorem terminates_of_limit (limited : 0 ≤ maxSteps) (table : Table) (tapeSize : Int)
    (task : Int × Int) : Terminates table maxSteps tapeSize task := by
  refine ⟨0, ?_⟩
  by_cases negative : tapeSize < 0
  · rw [evaluateBatch, if_pos negative]
    rintro ⟨⟩
  obtain ⟨size, rfl⟩ := Int.eq_ofNat_of_zero_le (Int.not_lt.mp negative)
  rw [evaluateBatch_singleton]
  rcases prepareTask_cases size task with ⟨error, refused, failed⟩ | ⟨-, prepared, ready⟩
  · rw [evaluateTask, failed]
    intro unfinished
    obtain rfl : error = .unfinished := Except.error.inj unfinished
    exact refusal_ne_unfinished refused
  · rcases simulate_prepared table 0 maxSteps ready with
      ⟨-, result, -, -, evaluated⟩ | ⟨unfinished, -⟩
    · rw [evaluated]
      rintro ⟨⟩
    · have unlimited := Kernel.unlimited_of_unfinished unfinished
      rw [kernelLimit, if_neg (by omega)] at unlimited
      cases unlimited

/-- For tasks whose machines come to an end there is a patience with which all of them have results, unless
they are refused. -/
theorem exists_patience (ends : ∀ task ∈ tasks, Terminates table maxSteps size task) :
    ∃ enough, ∀ patience, enough ≤ patience → ∀ task ∈ tasks, refusal size task = none →
      ∃ result, evaluateTask table.dense patience maxSteps size task = .ok result := by
  induction tasks with
  | nil => exact ⟨0, by simp⟩
  | cons task rest ih =>
      obtain ⟨first, others⟩ := List.forall_mem_cons.mp ends
      obtain ⟨enough, each⟩ := ih others
      cases refused : refusal size task with
      | some error =>
          refine ⟨enough, fun patience more => List.forall_mem_cons.mpr ⟨?_, each patience more⟩⟩
          rw [refused]
          exact nofun
      | none =>
          obtain ⟨own, result, evaluated⟩ := first.exists_result refused
          refine ⟨max own enough, fun patience more => List.forall_mem_cons.mpr ⟨fun _ => ?_, ?_⟩⟩
          · exact ⟨result, evaluateTask_of_le ((Nat.le_max_left ..).trans more) evaluated⟩
          · exact each patience ((Nat.le_max_right ..).trans more)

end Results

/-! ### The whole batch -/

/-- What is promised of a batch with a patience. -/
structure IndependentBatch (table : Table) (patience : Nat) (tasks : List (Int × Int))
    (maxSteps tapeSize : Int) : Prop where
  /-- Buffers of a negative size cannot be made. -/
  negative : tapeSize < 0 →
    evaluateBatch table.dense patience tasks maxSteps tapeSize = .error .negativeSize
  /-- Otherwise the batch fails just if some task is refused, and then as the first such task is. -/
  refused : 0 ≤ tapeSize → ∀ error,
    (evaluateBatch table.dense patience tasks maxSteps tapeSize = .error error ↔
      FirstRefusal tapeSize tasks error)
  /-- If no task is refused, the results are those of the tasks by themselves, in order. -/
  evaluated : 0 ≤ tapeSize → (∀ task ∈ tasks, refusal tapeSize task = none) →
    ∃ results, evaluateBatch table.dense patience tasks maxSteps tapeSize = .ok results ∧
      List.Forall₂ (fun task result =>
        evaluateBatch table.dense patience [task] maxSteps tapeSize = .ok [result]) tasks results
  /-- The results of the batch are those of its front part, and then those of the rest. -/
  joined : ∀ first second, tasks = first ++ second → ∀ results,
    (evaluateBatch table.dense patience tasks maxSteps tapeSize = .ok results ↔
      ∃ others more, evaluateBatch table.dense patience first maxSteps tapeSize = .ok others ∧
        evaluateBatch table.dense patience second maxSteps tapeSize = .ok more ∧
        results = others ++ more)
  /-- On shared arrays the batch comes to the same, given the table or its dense form, in whatever order the
  rows run. -/
  inRows : ∀ order : List Nat, order.Perm (List.range tasks.length) →
    evaluateInRows (.ofTable table) patience order tasks maxSteps tapeSize =
        evaluateBatch table.dense patience tasks maxSteps tapeSize ∧
      evaluateInRows (.ofDense table.dense) patience order tasks maxSteps tapeSize =
        evaluateBatch table.dense patience tasks maxSteps tapeSize

/-- A batch is independent if each of its tasks has a result by itself, or is refused. -/
theorem independentBatch_of_results {table : Table} {patience : Nat} {tasks : List (Int × Int)}
    {maxSteps tapeSize : Int}
    (each : 0 ≤ tapeSize → ∀ task ∈ tasks, refusal tapeSize task = none →
      ∃ result, evaluateTask table.dense patience maxSteps tapeSize task = .ok result) :
    IndependentBatch table patience tasks maxSteps tapeSize where
  negative := by
    intro negative
    rw [evaluateBatch, if_pos negative]
    rfl
  refused := by
    intro possible error
    obtain ⟨size, rfl⟩ := Int.eq_ofNat_of_zero_le possible
    refine ⟨fun failed => ?_, fun refused => evaluateBatch_of_firstRefusal refused _ _ _⟩
    cases ready : tasks.mapM (prepareTask size) with
    | error cause =>
        rw [evaluateBatch, if_neg (by omega), ready] at failed
        obtain rfl := Except.error.inj failed
        exact mapM_prepareTask_eq_error_iff.mp ready
    | ok prepared =>
        have preparable := exists_forall₂.mp ⟨prepared, Except.mapM_eq_ok.mp ready⟩
        obtain ⟨results, single⟩ := exists_forall₂.mpr fun task member =>
          each possible task member (exists_prepareTask_iff.mp (preparable task member))
        cases failed.symm.trans (evaluateBatch_eq_ok.mpr ⟨possible, single⟩)
  evaluated := by
    intro possible accepted
    obtain ⟨results, single⟩ := exists_forall₂.mpr fun task member =>
      each possible task member (accepted task member)
    refine ⟨results, evaluateBatch_eq_ok.mpr ⟨possible, single⟩, single.imp fun task result found => ?_⟩
    exact evaluateBatch_eq_ok.mpr ⟨possible, .cons found .nil⟩
  joined := by
    rintro first second rfl results
    exact evaluateBatch_append_eq_ok
  inRows := fun order all =>
    ⟨evaluateInRows_eq rfl patience tasks all maxSteps tapeSize,
      evaluateInRows_eq rfl patience tasks all maxSteps tapeSize⟩

/-- The tasks of a batch do not disturb each other.  Let the machine of each task come to an end when the task
is evaluated by itself.  Then, with enough patience, the batch is refused for its first task that is refused,
and otherwise its results are those of the tasks by themselves, in order; so they are on shared arrays. -/
theorem evaluateBatch_independent (table : Table) (tasks : List (Int × Int)) (maxSteps tapeSize : Int)
    (ends : ∀ task ∈ tasks, Terminates table maxSteps tapeSize task) :
    ∃ enough, ∀ patience, enough ≤ patience → IndependentBatch table patience tasks maxSteps tapeSize := by
  by_cases possible : 0 ≤ tapeSize
  · obtain ⟨size, rfl⟩ := Int.eq_ofNat_of_zero_le possible
    obtain ⟨enough, each⟩ := exists_patience ends
    exact ⟨enough, fun patience more => independentBatch_of_results fun _ => each patience more⟩
  · exact ⟨0, fun patience _ => independentBatch_of_results fun nonneg => absurd nonneg possible⟩

/-- The walk to the right without a limit, on a task that fits, one that is too large, and one that has a
factor 0: the second is the first that is refused, also on shared arrays on which the last row runs first. -/
theorem evaluateBatch_independent_rightWalk :
    ∃ patience,
      evaluateBatch rightWalk.dense patience [(2, 1), (9, 9), (0, 1)] (-1) 12 =
        .error (.tooSmall 12 9 9) ∧
      evaluateInRows (.ofTable rightWalk) patience [2, 0, 1] [(2, 1), (9, 9), (0, 1)] (-1) 12 =
        .error (.tooSmall 12 9 9) := by
  have ends : ∀ task ∈ [(2, 1), (9, 9), (0, 1)], Terminates rightWalk (-1) 12 task := by
    intro task member
    refine ⟨3, ?_⟩
    revert task
    decide +kernel
  obtain ⟨enough, independent⟩ :=
    evaluateBatch_independent rightWalk [(2, 1), (9, 9), (0, 1)] (-1) 12 ends
  have promised := independent enough (Nat.le_refl enough)
  have refused := (promised.refused (by decide) (.tooSmall 12 9 9)).mpr
    ⟨[(2, 1)], (9, 9), [(0, 1)], rfl, by decide, by decide⟩
  refine ⟨enough, refused, ?_⟩
  rw [(promised.inRows [2, 0, 1] (by decide)).1, refused]

end TapeMultiplier
