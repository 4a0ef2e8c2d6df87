/-
Module: TapeMultiplier.Proofs.Verification.Grids
Layer: Proofs
Purpose: Grids of calls that follow one another.  A call has those pairs of its grid left to do that are in
  no earlier grid, and all grids together are the grid of the largest factor.
Main exports: freshPairs, coveredPairs, largestFactor, nodup_coveredPairs, mem_coveredPairs_iff,
  freshPairs_eq_nil
-/
import TapeMultiplier.Proofs.Verification.History

namespace TapeMultiplier

/-- The pairs of a grid that are in no earlier one, row by row. -/
def freshPairs (gridMax : Int) (earlier : List GridCall) : List (Int × Int) :=
  (operandGrid gridMax).filter fun pair =>
    !earlier.any fun call => (operandGrid call.task.gridMax).contains pair

/-- The pairs of all grids in the order in which they are first met; the last call comes first. -/
def coveredPairs : List GridCall → List (Int × Int)
  | [] => []
  | call :: earlier => coveredPairs earlier ++ freshPairs call.task.gridMax earlier

/-- The largest factor of all grids. -/
def largestFactor (calls : List GridCall) : Int :=
  (calls.map fun call => call.task.gridMax).foldr max 0

theorem mem_operandGrid {largest a b : Int} :
    (a, b) ∈ operandGrid largest ↔ (1 ≤ a ∧ a ≤ largest) ∧ 1 ≤ b ∧ b ≤ largest := by
  simp only [operandGrid, List.mem_flatMap, List.mem_map, List.mem_range, Prod.mk.injEq]
  constructor
  · rintro ⟨_, ⟨i, below, rfl⟩, _, ⟨j, belowToo, rfl⟩, rfl, rfl⟩
    omega
  · rintro ⟨rows, columns⟩
    exact ⟨a, ⟨(a - 1).toNat, by omega, by omega⟩, b, ⟨(b - 1).toNat, by omega, by omega⟩, rfl, rfl⟩

theorem mem_freshPairs {gridMax : Int} {earlier : List GridCall} {pair : Int × Int} :
    pair ∈ freshPairs gridMax earlier ↔
      pair ∈ operandGrid gridMax ∧ ∀ call ∈ earlier, pair ∉ operandGrid call.task.gridMax := by
  simp [freshPairs]

/-- The pairs that are covered are those of the grids. -/
theorem mem_coveredPairs {calls : List GridCall} {pair : Int × Int} :
    pair ∈ coveredPairs calls ↔ ∃ call ∈ calls, pair ∈ operandGrid call.task.gridMax := by
  induction calls with
  | nil => simp [coveredPairs]
  | cons call earlier ih =>
      rw [coveredPairs, List.mem_append, ih, mem_freshPairs, List.exists_mem_cons_iff]
      constructor
      · rintro (old | ⟨new, -⟩)
        · exact Or.inr old
        · exact Or.inl new
      · rintro (here | old)
        · by_cases before : ∃ other ∈ earlier, pair ∈ operandGrid other.task.gridMax
          · exact Or.inl before
          · exact Or.inr ⟨here, fun other member inside => before ⟨other, member, inside⟩⟩
        · exact Or.inl old

theorem nodup_coveredPairs (calls : List GridCall) : (coveredPairs calls).Nodup := by
  induction calls with
  | nil => exact List.nodup_nil
  | cons call earlier ih =>
      refine List.Nodup.append ih ((nodup_operandGrid _).filter _) ?_
      intro pair covered fresh
      obtain ⟨other, member, inside⟩ := mem_coveredPairs.mp covered
      exact (mem_freshPairs.mp fresh).2 other member inside

/-- All grids together are the grid of the largest factor. -/
theorem mem_coveredPairs_iff {calls : List GridCall} {a b : Int} :
    (a, b) ∈ coveredPairs calls ↔
      (1 ≤ a ∧ a ≤ largestFactor calls) ∧ 1 ≤ b ∧ b ≤ largestFactor calls := by
  simp only [mem_coveredPairs, mem_operandGrid]
  induction calls with
  | nil =>
      rw [largestFactor, List.map_nil, List.foldr_nil]
      simp
      omega
  | cons call earlier ih =>
      have largest : largestFactor (call :: earlier) =
          max call.task.gridMax (largestFactor earlier) := rfl
      rw [List.exists_mem_cons_iff, ih, largest]
      omega

/-- A grid inside an earlier one has no fresh pairs. -/
theorem freshPairs_eq_nil {gridMax : Int} {earlier : List GridCall} {call : GridCall}
    (member : call ∈ earlier) (covered : gridMax ≤ call.task.gridMax) :
    freshPairs gridMax earlier = [] := by
  rw [List.eq_nil_iff_forall_not_mem]
  rintro ⟨a, b⟩ fresh
  obtain ⟨inside, new⟩ := mem_freshPairs.mp fresh
  refine new call member (mem_operandGrid.mpr ?_)
  rw [mem_operandGrid] at inside
  omega

end TapeMultiplier
