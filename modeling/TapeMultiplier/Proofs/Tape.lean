/-
Module: TapeMultiplier.Proofs.Tape
Layer: Proofs
Purpose: Two ways to look at a tape.  A tape is described by the cells behind the head and those ahead of
  it, in either direction, where an end of the tape shows a blank; a move is then a change of view.  From
  outside it is a list of cells with a head position.
Main exports: Tape.facing, Tape.lookingBack, Tape.write_move_right, Tape.write_move_left,
  Tape.ofCells?_cells, Tape.cells_of_ofCells?, Tape.getElem?_cells_head, Tape.cells_write,
  Tape.cells_move_right, Tape.cells_move_left
-/
import TapeMultiplier.Tape

namespace TapeMultiplier

namespace Tape

/-- The head on the first of the cells ahead; where there are none, on a new blank. -/
def facing (before ahead : List Char) : Tape :=
  match ahead with
  | [] => { before, current := Symbol.blank.char, after := [] }
  | c :: rest => { before, current := c, after := rest }

/-- The head on the nearest of the cells behind; where there are none, on a new blank. -/
def lookingBack (behind after : List Char) : Tape :=
  match behind with
  | [] => { before := [], current := Symbol.blank.char, after }
  | c :: rest => { before := rest, current := c, after }

@[simp]
theorem facing_cons (before ahead : List Char) (c : Char) :
    facing before (c :: ahead) = { before, current := c, after := ahead } := rfl

@[simp]
theorem facing_nil (before : List Char) :
    facing before [] = { before, current := Symbol.blank.char, after := [] } := rfl

@[simp]
theorem lookingBack_cons (behind after : List Char) (c : Char) :
    lookingBack (c :: behind) after = { before := behind, current := c, after } := rfl

@[simp]
theorem head_facing (before ahead : List Char) : (facing before ahead).head = before.length := by
  cases ahead <;> rfl

@[simp]
theorem head_lookingBack (behind after : List Char) :
    (lookingBack behind after).head = behind.length - 1 := by
  cases behind <;> rfl

/-- A tape whose head is on a given cell has the cells behind it and those ahead. -/
theorem cells_facing (before : List Char) {ahead : List Char} (present : ahead ≠ []) :
    (facing before ahead).cells = before.reverse ++ ahead := by
  obtain ⟨c, rest, rfl⟩ := List.exists_cons_of_ne_nil present
  rfl

/-- A tape whose head is on a given cell has the cells behind it, that one included, and those after. -/
theorem cells_lookingBack {behind : List Char} (after : List Char) (present : behind ≠ []) :
    (lookingBack behind after).cells = behind.reverse ++ after := by
  obtain ⟨c, rest, rfl⟩ := List.exists_cons_of_ne_nil present
  rw [lookingBack_cons, cells, List.reverse_cons, List.append_assoc]
  rfl

/-- A tape whose head is on a given cell has no other cells than the given ones. -/
theorem length_facing (before : List Char) {ahead : List Char} (present : ahead ≠ []) :
    (facing before ahead).length = before.length + ahead.length := by
  obtain ⟨c, rest, rfl⟩ := List.exists_cons_of_ne_nil present
  rfl

/-- A move to the right leaves what was written behind. -/
theorem write_move_right (tape : Tape) (c : Char) :
    (tape.write c).move .right = facing (c :: tape.before) tape.after := by
  obtain ⟨before, current, after⟩ := tape
  cases after <;> rfl

/-- A move to the left leaves what was written ahead. -/
theorem write_move_left (tape : Tape) (c : Char) :
    (tape.write c).move .left = lookingBack tape.before (c :: tape.after) := by
  obtain ⟨before, current, after⟩ := tape
  cases before <;> rfl

/-! ### The tape from outside -/

/-- A tape is given by its cells and the position of its head. -/
theorem ofCells?_cells (tape : Tape) : ofCells? tape.cells tape.head = some tape := by
  obtain ⟨before, current, after⟩ := tape
  have front : before.length = before.reverse.length := List.length_reverse.symm
  rw [ofCells?, if_neg (by omega), Int.toNat_natCast]
  simp only [cells, head]
  rw [front, List.drop_left, List.take_left, List.reverse_reverse]

/-- A tape that is made of cells holds them, with its head where it was asked for. -/
theorem cells_of_ofCells? {given : List Char} {position : Int} {tape : Tape}
    (made : ofCells? given position = some tape) :
    tape.cells = given ∧ (tape.head : Int) = position := by
  rw [ofCells?] at made
  split at made
  · cases made
  · next lower =>
    obtain ⟨place, rfl⟩ := Int.eq_ofNat_of_zero_le (Int.not_lt.mp lower)
    rw [Int.toNat_natCast] at made
    split at made
    · cases made
    · next current after rest =>
      cases made
      have inside : place < given.length := by
        rw [← Nat.not_le, ← List.drop_eq_nil_iff, rest]
        exact List.cons_ne_nil current after
      refine ⟨?_, ?_⟩
      · rw [cells, List.reverse_reverse, ← rest, List.take_append_drop]
      · simp [head]
        omega

/-- There is a tape for every head position on the cells. -/
theorem exists_ofCells? {given : List Char} {position : Int} (lower : 0 ≤ position)
    (upper : position < given.length) : ∃ tape, ofCells? given position = some tape := by
  obtain ⟨place, rfl⟩ := Int.eq_ofNat_of_zero_le lower
  have inside : place < given.length := by omega
  rw [ofCells?, if_neg (by omega), Int.toNat_natCast, List.drop_eq_getElem_cons inside]
  exact ⟨_, rfl⟩

/-- The cell at the position of the head is the current one. -/
theorem getElem?_cells_head (tape : Tape) : tape.cells[tape.head]? = some tape.current := by
  rw [cells, head, ← List.length_reverse, List.getElem?_append_right (Nat.le_refl _)]
  simp

/-- Writing is a change of the cell at the position of the head. -/
theorem cells_write (tape : Tape) (c : Char) :
    (tape.write c).cells = tape.cells.set tape.head c := by
  rw [cells, cells, head, ← List.length_reverse, List.set_append_right _ _ (Nat.le_refl _)]
  simp [write]

/-- A head that leaves the tape on the right stands on a blank that is added there. -/
theorem cells_move_right {tape : Tape} (last : tape.after = []) :
    (tape.move .right).cells = tape.cells ++ [Symbol.blank.char] ∧
      (tape.move .right).head = tape.cells.length := by
  obtain ⟨before, current, after⟩ := tape
  subst last
  simp [move, cells, head]

/-- A head that leaves the tape on the left stands on a blank that is added there. -/
theorem cells_move_left {tape : Tape} (first : tape.before = []) :
    (tape.move .left).cells = Symbol.blank.char :: tape.cells ∧ (tape.move .left).head = 0 := by
  obtain ⟨before, current, after⟩ := tape
  subst first
  simp [move, cells, head]

end Tape

end TapeMultiplier
