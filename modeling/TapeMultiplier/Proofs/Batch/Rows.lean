/-
Module: TapeMultiplier.Proofs.Batch.Rows
Layer: Proofs
Purpose: A batch on shared arrays comes to what its tasks come to one by one.  Every operation on the arrays
  changes one row and looks at no other, so the rows may run in any order.
Main exports: BatchArrays.row_setRow_self, BatchArrays.row_setRow_ne, BatchArrays.place_eq,
  BatchArrays.exists_placed, BatchArrays.exists_simulated, BatchArrays.simulateRows_eq_error,
  evaluateInRows_eq
-/
import TapeMultiplier.Batch.Rows
import TapeMultiplier.Proofs.Batch.Task

namespace TapeMultiplier

/-! ### One array -/

section Entries

variable {α : Type}

theorem getD_setIfInBounds_self {entries : Array α} {position : Nat} (inside : position < entries.size)
    (entry missing : α) : (entries.setIfInBounds position entry).getD position missing = entry := by
  rw [Array.getD_eq_getD_getElem?, Array.getElem?_setIfInBounds_self, if_pos inside, Option.getD_some]

theorem getD_setIfInBounds_ne {position other : Nat} (apart : position ≠ other) (entries : Array α)
    (entry missing : α) :
    (entries.setIfInBounds position entry).getD other missing = entries.getD other missing := by
  rw [Array.getD_eq_getD_getElem?, Array.getElem?_setIfInBounds_ne apart, ← Array.getD_eq_getD_getElem?]

theorem getD_replicate {count position : Nat} (inside : position < count) (entry missing : α) :
    (Array.replicate count entry).getD position missing = entry := by
  rw [Array.getD_eq_getD_getElem?, Array.getElem?_replicate, if_pos inside, Option.getD_some]

end Entries

/-- The row of a task before its machine runs: no step is counted. -/
def PreparedTask.row (task : PreparedTask) : Report :=
  { steps := 0, lo := task.lo, hi := task.hi, head := task.head, status := .halted, cells := task.cells }

/-- A row that holds no task: a blank buffer, and zeros. -/
def blankRow (size : Nat) : Report :=
  { steps := 0, lo := 0, hi := 0, head := 0, status := .halted, cells := Array.replicate size Kernel.blank }

/-- The kernel on a row. -/
def Report.simulate (entries : Report) (dense : Dense) (patience : Nat) (maxSteps : Int) :
    Except SimulationError Report :=
  Kernel.simulate dense patience maxSteps entries.cells entries.lo entries.hi entries.head

namespace BatchArrays

variable {arrays : BatchArrays} {count position other size : Nat}

/-! ### Rows -/

/-- All arrays have an entry for each task. -/
structure Sized (arrays : BatchArrays) (count : Nat) : Prop where
  tapes : arrays.tapes.size = count
  los : arrays.los.size = count
  his : arrays.his.size = count
  heads : arrays.heads.size = count
  steps : arrays.steps.size = count
  statuses : arrays.statuses.size = count

theorem sized_blank (count size : Nat) : (blank count size).Sized count := by
  constructor <;> exact Array.size_replicate

theorem Sized.setRow (sized : arrays.Sized count) (position : Nat) (entries : Report) :
    (arrays.setRow position entries).Sized count where
  tapes := Array.size_setIfInBounds.trans sized.tapes
  los := Array.size_setIfInBounds.trans sized.los
  his := Array.size_setIfInBounds.trans sized.his
  heads := Array.size_setIfInBounds.trans sized.heads
  steps := Array.size_setIfInBounds.trans sized.steps
  statuses := Array.size_setIfInBounds.trans sized.statuses

/-- A row holds what was put into it. -/
theorem row_setRow_self (sized : arrays.Sized count) (inside : position < count) (entries : Report) :
    (arrays.setRow position entries).row position = entries := by
  obtain ⟨tapes, los, his, heads, steps, statuses⟩ := sized
  simp only [row, setRow]
  rw [getD_setIfInBounds_self (by omega), getD_setIfInBounds_self (by omega),
    getD_setIfInBounds_self (by omega), getD_setIfInBounds_self (by omega),
    getD_setIfInBounds_self (by omega), getD_setIfInBounds_self (by omega)]

/-- A row holds what it held before something was put into another one. -/
theorem row_setRow_ne (apart : position ≠ other) (arrays : BatchArrays) (entries : Report) :
    (arrays.setRow position entries).row other = arrays.row other := by
  simp only [row, setRow, getD_setIfInBounds_ne apart]

/-- Rows that are still to come hold what they held before. -/
theorem row_setRow_of_fresh {rest : List Nat} (fresh : position ∉ rest) (arrays : BatchArrays)
    (entries : Report) :
    ∀ other ∈ rest, (arrays.setRow position entries).row other = arrays.row other := by
  intro other member
  refine row_setRow_ne ?_ arrays entries
  rintro rfl
  exact fresh member

theorem row_blank (inside : position < count) (size : Nat) :
    (blank count size).row position = blankRow size := by
  simp only [row, blank, getD_replicate inside, blankRow]

/-- From a position on, no row holds a task yet. -/
def UnusedFrom (arrays : BatchArrays) (position count size : Nat) : Prop :=
  ∀ place, position ≤ place → place < count → arrays.row place = blankRow size

/-- A task that is put into the first unused row leaves the later ones unused. -/
theorem UnusedFrom.setRow (unused : arrays.UnusedFrom position count size) (entries : Report) :
    (arrays.setRow position entries).UnusedFrom (position + 1) count size := by
  intro place after inside
  rw [row_setRow_ne (by omega)]
  exact unused place (by omega) inside

theorem unusedFrom_blank (count size : Nat) : (blank count size).UnusedFrom 0 count size :=
  fun _ _ inside => row_blank inside size

/-! ### Placing tasks -/

theorem overwrite_toArray (front rest : List Int) {old new : List Int} (same : old.length = new.length) :
    overwrite (front ++ old ++ rest).toArray front.length new = (front ++ new ++ rest).toArray := by
  induction new generalizing front old with
  | nil =>
      obtain rfl := List.length_eq_zero_iff.mp same
      rfl
  | cons cell new ih =>
      cases old with
      | nil => cases same
      | cons replaced old =>
          have next := ih (front ++ [cell]) (Nat.succ.inj same)
          simp only [List.append_assoc, List.singleton_append, List.length_append,
            List.length_singleton] at next
          rw [overwrite, List.setIfInBounds_toArray, List.append_assoc, List.set_append_right _ _ (Nat.le_refl _),
            Nat.sub_self, List.append_assoc]
          exact next

/-- Cells written over a blank buffer have blanks on both sides. -/
theorem overwrite_blank {origin : Nat} {initial : List Int} (fits : origin + initial.length ≤ size) :
    overwrite (Array.replicate size Kernel.blank) origin initial =
      Array.replicate origin Kernel.blank ++ initial.toArray ++
        Array.replicate (size - (origin + initial.length)) Kernel.blank := by
  have parts : List.replicate size Kernel.blank =
      List.replicate origin Kernel.blank ++ List.replicate initial.length Kernel.blank ++
        List.replicate (size - (origin + initial.length)) Kernel.blank := by
    rw [← List.replicate_add, ← List.replicate_add]
    congr 1
    omega
  have written := overwrite_toArray (List.replicate origin Kernel.blank)
    (List.replicate (size - (origin + initial.length)) Kernel.blank)
    (List.length_replicate (n := initial.length) (a := Kernel.blank))
  rw [← parts, List.length_replicate] at written
  simpa [← List.toArray_replicate] using written

/-- A task is placed in a blank row as it is prepared by itself, or refused as it is. -/
theorem place_eq (unused : arrays.row position = blankRow size) (task : Int × Int) :
    arrays.place size position task =
      (prepareTask size task).map fun prepared => arrays.setRow position prepared.row := by
  obtain ⟨a, b⟩ := task
  have half : (size : Int).fdiv 2 = (size / 2 : Nat) := (Int.ofNat_fdiv size 2).symm
  simp only [place, prepareTask, half, unused]
  cases checkOperands a b with
  | error error => rfl
  | ok accepted =>
      cases encodeCells (multiplicationTape a b) with
      | error error => rfl
      | ok initial =>
          by_cases small : (size : Int) < (size / 2 : Nat) + (initial.length : Int)
          · simp only [if_pos small]
            rfl
          · have fits : size / 2 + initial.length ≤ size := by omega
            have margin : ((size : Int) - ((size / 2 : Nat) + (initial.length : Int))).toNat =
                size - (size / 2 + initial.length) := by omega
            simp only [if_neg small, margin, Int.toNat_natCast, blankRow, overwrite_blank fits]
            rfl

/-- Tasks that can be prepared are placed one after the other, each in its own row. -/
theorem exists_placed {tasks : List (Int × Int)} (sized : arrays.Sized count)
    (room : position + tasks.length ≤ count)
    (unused : arrays.UnusedFrom position count size)
    (ready : ∀ task ∈ tasks, ∃ prepared, prepareTask size task = .ok prepared) :
    ∃ placed, (tasks.zipIdx position).foldlM (fun arrays entry => arrays.place size entry.2 entry.1) arrays =
        .ok placed ∧ placed.Sized count ∧ (∀ place < position, placed.row place = arrays.row place) ∧
      ∀ entry ∈ tasks.zipIdx position, ∃ prepared, prepareTask size entry.1 = .ok prepared ∧
        placed.row entry.2 = prepared.row := by
  induction tasks generalizing arrays position with
  | nil => exact ⟨arrays, rfl, sized, fun _ _ => rfl, by simp⟩
  | cons task rest ih =>
      rw [List.length_cons] at room
      obtain ⟨⟨prepared, first⟩, others⟩ := List.forall_mem_cons.mp ready
      have here := place_eq (unused position (Nat.le_refl _) (by omega)) task
      rw [first] at here
      obtain ⟨placed, done, placedSized, before, each⟩ :=
        ih (sized.setRow position prepared.row) (by omega) (unused.setRow prepared.row) others
      refine ⟨placed, ?_, placedSized, ?_, ?_⟩
      · rw [List.zipIdx_cons, List.foldlM_cons, here]
        exact done
      · intro place earlier
        rw [before place (by omega), row_setRow_ne (by omega)]
      · intro entry member
        rw [List.zipIdx_cons] at member
        rcases List.mem_cons.mp member with rfl | later
        · refine ⟨prepared, first, ?_⟩
          rw [before position (Nat.lt_succ_self _)]
          exact row_setRow_self sized (by omega) _
        · exact each entry later

/-- Where the tasks cannot all be prepared, placing them fails at the same task. -/
theorem place_eq_error {tasks : List (Int × Int)} {error : BatchError}
    (room : position + tasks.length ≤ count)
    (unused : arrays.UnusedFrom position count size)
    (failed : tasks.mapM (prepareTask size) = .error error) :
    (tasks.zipIdx position).foldlM (fun arrays entry => arrays.place size entry.2 entry.1) arrays =
      .error error := by
  induction tasks generalizing arrays position with
  | nil => cases failed
  | cons task rest ih =>
      rw [List.length_cons] at room
      have here := place_eq (unused position (Nat.le_refl _) (by omega)) task
      rw [List.zipIdx_cons, List.foldlM_cons, here]
      cases first : prepareTask size task with
      | error cause =>
          rw [List.mapM_cons, first] at failed
          cases failed
          rfl
      | ok prepared =>
          exact ih (by omega) (unused.setRow prepared.row) ((Except.mapM_cons_eq_error first).mp failed)

/-! ### Running the rows -/

variable {dense : Dense} {patience : Nat} {maxSteps : Int} {order : List Nat}

theorem simulateRow_of_ok {report : Report}
    (simulated : (arrays.row position).simulate dense patience maxSteps = .ok report) :
    simulateRow dense patience maxSteps arrays position = .ok (arrays.setRow position report) := by
  rw [Report.simulate] at simulated
  simp only [simulateRow, simulated]

theorem simulateRow_of_unfinished
    (simulated : (arrays.row position).simulate dense patience maxSteps = .error .unfinished) :
    simulateRow dense patience maxSteps arrays position = .error .unfinished := by
  rw [Report.simulate] at simulated
  simp only [simulateRow, simulated]

/-- Rows that can run do so in any order, each from what it held at the start; the others stay. -/
theorem exists_simulated (sized : arrays.Sized count) (distinct : order.Nodup)
    (inside : ∀ place ∈ order, place < count)
    (each : ∀ place ∈ order, ∃ report, (arrays.row place).simulate dense patience maxSteps = .ok report) :
    ∃ final, order.foldlM (simulateRow dense patience maxSteps) arrays = .ok final ∧
      (∀ place ∉ order, final.row place = arrays.row place) ∧
      ∀ place ∈ order, (arrays.row place).simulate dense patience maxSteps = .ok (final.row place) := by
  induction order generalizing arrays with
  | nil => exact ⟨arrays, rfl, fun _ _ => rfl, by simp⟩
  | cons place rest ih =>
      obtain ⟨fresh, distinctRest⟩ := List.nodup_cons.mp distinct
      obtain ⟨here, insideRest⟩ := List.forall_mem_cons.mp inside
      obtain ⟨⟨report, simulated⟩, others⟩ := List.forall_mem_cons.mp each
      have apart := row_setRow_of_fresh fresh arrays report
      obtain ⟨final, ran, kept, reports⟩ := ih (sized.setRow place report) distinctRest insideRest
        (fun other member => by
          rw [apart other member]
          exact others other member)
      refine ⟨final, ?_, ?_, ?_⟩
      · rw [List.foldlM_cons, simulateRow_of_ok simulated]
        exact ran
      · intro other absent
        rw [List.mem_cons, not_or] at absent
        rw [kept other absent.2, row_setRow_ne (Ne.symm absent.1)]
      · intro other member
        rcases List.mem_cons.mp member with rfl | later
        · rw [simulated, kept other fresh, row_setRow_self sized here]
        · rw [← apart other later]
          exact reports other later

/-- Where some row needs more patience and no row fails otherwise, the batch needs more patience. -/
theorem simulateRows_eq_error (distinct : order.Nodup)
    (each : ∀ place ∈ order,
      (∃ report, (arrays.row place).simulate dense patience maxSteps = .ok report) ∨
        (arrays.row place).simulate dense patience maxSteps = .error .unfinished)
    (stuck : ∃ place ∈ order, (arrays.row place).simulate dense patience maxSteps = .error .unfinished) :
    order.foldlM (simulateRow dense patience maxSteps) arrays = .error .unfinished := by
  induction order generalizing arrays with
  | nil =>
      obtain ⟨place, ⟨⟩, -⟩ := stuck
  | cons place rest ih =>
      obtain ⟨fresh, distinctRest⟩ := List.nodup_cons.mp distinct
      obtain ⟨first, others⟩ := List.forall_mem_cons.mp each
      rw [List.foldlM_cons]
      rcases first with ⟨report, simulated⟩ | unfinished
      · have apart := row_setRow_of_fresh fresh arrays report
        rw [simulateRow_of_ok simulated]
        refine ih distinctRest (fun other member => ?_) ?_
        · rw [apart other member]
          exact others other member
        · obtain ⟨other, member, unfinished⟩ := stuck
          rcases List.mem_cons.mp member with rfl | later
          · cases simulated.symm.trans unfinished
          · refine ⟨other, later, ?_⟩
            rw [apart other later]
            exact unfinished
      · rw [simulateRow_of_unfinished unfinished]
        rfl

end BatchArrays

/-! ### The whole batch -/

section Batch

variable {table : Table} {patience size : Nat} {maxSteps : Int} {task : Int × Int}
  {prepared : PreparedTask}

theorem PreparedTask.simulate_row (prepared : PreparedTask) (dense : Dense) (patience : Nat)
    (maxSteps : Int) :
    prepared.row.simulate dense patience maxSteps =
      Kernel.simulate dense patience maxSteps prepared.cells prepared.lo prepared.hi prepared.head := rfl

/-- A prepared task has the factors of the task. -/
theorem factors_of_prepareTask (ready : prepareTask size task = .ok prepared) :
    prepared.a = task.1 ∧ prepared.b = task.2 := by
  obtain ⟨a, b, -, rfl, -, rfl⟩ := prepareTask_eq_ok ready
  exact ⟨rfl, rfl⟩

/-- The kernel on a prepared task has a report with a result, or needs more patience. -/
theorem simulate_prepared (table : Table) (patience : Nat) (maxSteps : Int)
    (ready : prepareTask size task = .ok prepared) :
    (∃ report result, prepared.row.simulate table.dense patience maxSteps = .ok report ∧
        resultOfReport task.1 task.2 report = .ok result ∧
        evaluateTask table.dense patience maxSteps size task = .ok result) ∨
      prepared.row.simulate table.dense patience maxSteps = .error .unfinished ∧
        evaluateTask table.dense patience maxSteps size task = .error .unfinished := by
  obtain ⟨sameA, sameB⟩ := factors_of_prepareTask ready
  have evaluated : evaluateTask table.dense patience maxSteps size task =
      runTask table.dense patience maxSteps prepared := by
    rw [evaluateTask, ready]
    rfl
  rw [evaluated, ← sameA, ← sameB]
  cases ran : runTask table.dense patience maxSteps prepared with
  | ok result =>
      obtain ⟨report, simulated, resulted⟩ := runTask_eq_ok.mp ran
      exact Or.inl ⟨report, result, simulated, resulted, rfl⟩
  | error error =>
      have unfinished : error = .unfinished := by
        obtain ⟨a, b, -, -, -, rfl⟩ := prepareTask_eq_ok ready
        exact runTask_eq_error ran
      subst unfinished
      refine Or.inr ⟨?_, rfl⟩
      rw [prepared.simulate_row]
      rw [runTask] at ran
      split at ran
      · cases ran
      · next simulated => exact simulated
      · rw [resultOfReport] at ran
        split at ran <;> cases ran

/-- Tasks that can all be prepared have results one by one, or some of them needs more patience. -/
theorem finished_or_unfinished (table : Table) (patience : Nat) (maxSteps : Int) {tasks : List (Int × Int)}
    (ready : ∀ task ∈ tasks, ∃ prepared, prepareTask size task = .ok prepared) :
    (∀ task ∈ tasks, ∃ result, evaluateTask table.dense patience maxSteps size task = .ok result) ∨
      ∃ task ∈ tasks, evaluateTask table.dense patience maxSteps size task = .error .unfinished := by
  rw [or_iff_not_imp_right]
  intro never task member
  obtain ⟨prepared, isPrepared⟩ := ready task member
  rcases simulate_prepared table patience maxSteps isPrepared with
    ⟨-, result, -, -, finished⟩ | ⟨-, unfinished⟩
  · exact ⟨result, finished⟩
  · exact absurd ⟨task, member, unfinished⟩ never

/-- A batch whose tasks can all be prepared needs more patience if one of them does. -/
theorem evaluateBatch_eq_unfinished {tasks : List (Int × Int)}
    (ready : ∀ task ∈ tasks, ∃ prepared, prepareTask size task = .ok prepared)
    (stuck : ∃ task ∈ tasks, evaluateTask table.dense patience maxSteps size task = .error .unfinished) :
    evaluateBatch table.dense patience tasks maxSteps size = .error .unfinished := by
  cases evaluated : evaluateBatch table.dense patience tasks maxSteps size with
  | ok results =>
      obtain ⟨task, member, unfinished⟩ := stuck
      obtain ⟨-, each⟩ := evaluateBatch_eq_ok.mp evaluated
      obtain ⟨result, finished⟩ := exists_forall₂.mp ⟨results, each⟩ task member
      cases unfinished.symm.trans finished
  | error error =>
      obtain ⟨task, member, failed⟩ := evaluateBatch_eq_error (Int.natCast_nonneg size) evaluated
      obtain ⟨prepared, isPrepared⟩ := ready task member
      rcases simulate_prepared table patience maxSteps isPrepared with
        ⟨report, result, -, -, finished⟩ | ⟨-, unfinished⟩
      · cases failed.symm.trans finished
      · rw [Except.error.inj (failed.symm.trans unfinished)]

/-! #### Arrays in which all tasks are placed -/

/-- Each task of a batch is in its row as it is prepared by itself. -/
structure BatchArrays.Ready (placed : BatchArrays) (size : Nat) (tasks : List (Int × Int)) : Prop where
  sized : placed.Sized tasks.length
  rows : ∀ entry ∈ tasks.zipIdx, ∃ prepared, prepareTask size entry.1 = .ok prepared ∧
    placed.row entry.2 = prepared.row

namespace BatchArrays.Ready

variable {placed : BatchArrays} {tasks : List (Int × Int)} {order : List Nat}

/-- What the row of a task comes to is what the task comes to by itself. -/
theorem alone (ready : placed.Ready size tasks) {entry : (Int × Int) × Nat}
    (listed : entry ∈ tasks.zipIdx) :
    (∃ report result, (placed.row entry.2).simulate table.dense patience maxSteps = .ok report ∧
        resultOfReport entry.1.1 entry.1.2 report = .ok result ∧
        evaluateTask table.dense patience maxSteps size entry.1 = .ok result) ∨
      (placed.row entry.2).simulate table.dense patience maxSteps = .error .unfinished ∧
        evaluateTask table.dense patience maxSteps size entry.1 = .error .unfinished := by
  obtain ⟨prepared, isPrepared, holds⟩ := ready.rows entry listed
  rw [holds]
  exact simulate_prepared table patience maxSteps isPrepared

/-- The rows that run are those of the tasks. -/
theorem mem_order_iff (all : order.Perm (List.range tasks.length)) {place : Nat} :
    place ∈ order ↔ ∃ task, (task, place) ∈ tasks.zipIdx := by
  simp only [all.mem_iff, List.mem_range, List.mem_zipIdx_iff_getElem?]
  constructor
  · intro inside
    exact ⟨tasks[place], List.getElem?_eq_getElem inside⟩
  · rintro ⟨task, found⟩
    exact (List.getElem?_eq_some_iff.mp found).1

/-- Where each task has a result by itself, these are the results of the rows. -/
theorem results_eq_ok (ready : placed.Ready size tasks) (all : order.Perm (List.range tasks.length))
    {results : List BatchResult}
    (each : List.Forall₂ (fun task result =>
      evaluateTask table.dense patience maxSteps size task = .ok result) tasks results) :
    (order.foldlM (simulateRow table.dense patience maxSteps) placed >>=
      fun final => final.results tasks) = .ok results := by
  rw [← List.zipIdx_map_fst 0 tasks, List.forall₂_map_left_iff] at each
  have finished := exists_forall₂.mp ⟨results, each⟩
  have inside : ∀ place ∈ order, place < tasks.length :=
    fun place member => List.mem_range.mp (all.mem_iff.mp member)
  have runs : ∀ place ∈ order,
      ∃ report, (placed.row place).simulate table.dense patience maxSteps = .ok report := by
    intro place member
    obtain ⟨task, listed⟩ := (mem_order_iff all).mp member
    obtain ⟨result, single⟩ := finished _ listed
    rcases ready.alone listed with ⟨report, -, simulated, -⟩ | ⟨-, unfinished⟩
    · exact ⟨report, simulated⟩
    · cases single.symm.trans unfinished
  obtain ⟨final, ran, -, reports⟩ :=
    exists_simulated ready.sized (all.nodup_iff.mpr List.nodup_range) inside runs
  rw [ran]
  refine Except.mapM_eq_ok.mpr (List.Forall₂.imp ?_ ((List.forall₂_and_left _ _).mpr
    ⟨fun entry listed => listed, each⟩))
  rintro entry result ⟨listed, single⟩
  have inOrder := (mem_order_iff all).mpr ⟨entry.1, listed⟩
  rcases ready.alone listed with ⟨report, found, simulated, resulted, evaluated⟩ | ⟨-, unfinished⟩
  · rw [← Except.ok.inj (simulated.symm.trans (reports _ inOrder)), resulted,
      Except.ok.inj (single.symm.trans evaluated)]
  · cases single.symm.trans unfinished

/-- Where some task needs more patience by itself, the rows do. -/
theorem results_eq_unfinished (ready : placed.Ready size tasks)
    (all : order.Perm (List.range tasks.length))
    (stuck : ∃ task ∈ tasks, evaluateTask table.dense patience maxSteps size task = .error .unfinished) :
    (order.foldlM (simulateRow table.dense patience maxSteps) placed >>=
      fun final => final.results tasks) = .error .unfinished := by
  have each : ∀ place ∈ order,
      (∃ report, (placed.row place).simulate table.dense patience maxSteps = .ok report) ∨
        (placed.row place).simulate table.dense patience maxSteps = .error .unfinished := by
    intro place member
    obtain ⟨task, listed⟩ := (mem_order_iff all).mp member
    rcases ready.alone listed with ⟨report, -, simulated, -⟩ | ⟨unfinished, -⟩
    · exact Or.inl ⟨report, simulated⟩
    · exact Or.inr unfinished
  have waiting : ∃ place ∈ order,
      (placed.row place).simulate table.dense patience maxSteps = .error .unfinished := by
    obtain ⟨task, member, needsMore⟩ := stuck
    obtain ⟨place, inside, rfl⟩ := List.mem_iff_getElem.mp member
    have listed : (tasks[place], place) ∈ tasks.zipIdx :=
      List.mem_zipIdx_iff_getElem?.mpr (List.getElem?_eq_getElem inside)
    refine ⟨place, (mem_order_iff all).mpr ⟨_, listed⟩, ?_⟩
    rcases ready.alone listed with ⟨_, _, -, -, evaluated⟩ | ⟨unfinished, -⟩
    · cases needsMore.symm.trans evaluated
    · exact unfinished
  rw [simulateRows_eq_error (all.nodup_iff.mpr List.nodup_range) each waiting]
  rfl

end BatchArrays.Ready

end Batch

/-- A batch on shared arrays comes to what its tasks come to one by one, whether it is given the table or the
dense form of it, and in whatever order its rows run. -/
theorem evaluateInRows_eq {table : Table} {program : BatchProgram} (same : program.dense = table.dense)
    (patience : Nat) {order : List Nat} (tasks : List (Int × Int))
    (all : order.Perm (List.range tasks.length)) (maxSteps tapeSize : Int) :
    evaluateInRows program patience order tasks maxSteps tapeSize =
      evaluateBatch table.dense patience tasks maxSteps tapeSize := by
  by_cases negative : tapeSize < 0
  · simp only [evaluateInRows, evaluateBatch, if_pos negative]
    rfl
  obtain ⟨size, rfl⟩ := Int.eq_ofNat_of_zero_le (Int.not_lt.mp negative)
  rw [evaluateInRows, if_neg negative, same]
  simp only [Int.toNat_natCast]
  have sized := BatchArrays.sized_blank tasks.length size
  have unused := BatchArrays.unusedFrom_blank tasks.length size
  cases ready : tasks.mapM (prepareTask size) with
  | error error =>
      have placing := BatchArrays.place_eq_error (by omega) unused ready
      rw [evaluateBatch, if_neg negative, placing, ready]
      rfl
  | ok prepared =>
      have preparable := exists_forall₂.mp ⟨prepared, Except.mapM_eq_ok.mp ready⟩
      obtain ⟨placed, placing, placedSized, -, rows⟩ :=
        BatchArrays.exists_placed sized (by omega) unused preparable
      have isReady : placed.Ready size tasks := ⟨placedSized, rows⟩
      rw [placing]
      show (order.foldlM (BatchArrays.simulateRow table.dense patience maxSteps) placed >>=
        fun final => final.results tasks) = _
      rcases finished_or_unfinished table patience maxSteps preparable with finished | stuck
      · obtain ⟨results, each⟩ := exists_forall₂.mpr finished
        rw [isReady.results_eq_ok all each,
          evaluateBatch_eq_ok.mpr ⟨Int.natCast_nonneg size, each⟩]
      · rw [isReady.results_eq_unfinished all stuck, evaluateBatch_eq_unfinished preparable stuck]

end TapeMultiplier
