/-
Module: TapeMultiplier.Tape
Layer: Model
Purpose: A finite tape that grows by one blank whenever the head leaves it.
Main exports: Tape, Tape.cells, Tape.head, Tape.ofCells?, Tape.write, Tape.move, Tape.reverse,
  Tape.pointer
-/
import TapeMultiplier.Symbol

namespace TapeMultiplier

/-!
The tape is held around its head: the cells before the head, nearest first, the cell under it, and the
cells after it.  A move is then a constant amount of work, and "the head is on the tape" needs no
proof.  Positions count from the leftmost cell, so growth on the left shifts every position by one.
-/

/-- A non-empty tape with its head on one of the cells. -/
structure Tape where
  before : List Char
  current : Char
  after : List Char
deriving Repr, Inhabited, DecidableEq

namespace Tape

/-- The cells from left to right. -/
def cells (tape : Tape) : List Char :=
  tape.before.reverse ++ tape.current :: tape.after

/-- The cells as a text. -/
def text (tape : Tape) : String :=
  String.ofList tape.cells

/-- The position of the head. -/
def head (tape : Tape) : Nat :=
  tape.before.length

/-- The number of cells. -/
def length (tape : Tape) : Nat :=
  tape.before.length + (tape.after.length + 1)

/-- Cells with the head at a given position, if that is one of them. -/
def ofCells? (cells : List Char) (head : Int) : Option Tape :=
  if head < 0 then none
  else
    match cells.drop head.toNat with
    | [] => none
    | current :: after => some { before := (cells.take head.toNat).reverse, current, after }

/-- Write under the head. -/
def write (tape : Tape) (c : Char) : Tape :=
  { tape with current := c }

/-- Move the head by one cell; beyond an end a blank is added. -/
def move (tape : Tape) : Direction → Tape
  | .left =>
      match tape.before with
      | [] => { before := [], current := Symbol.blank.char, after := tape.current :: tape.after }
      | c :: rest => { before := rest, current := c, after := tape.current :: tape.after }
  | .right =>
      match tape.after with
      | [] => { before := tape.current :: tape.before, current := Symbol.blank.char, after := [] }
      | c :: rest => { before := tape.current :: tape.before, current := c, after := rest }

/-- The tape read from right to left. -/
def reverse (tape : Tape) : Tape :=
  { before := tape.after, current := tape.current, after := tape.before }

/-- A line that marks a position with a caret. -/
def pointerLine (head : Nat) : String :=
  String.ofList (List.replicate head ' ' ++ ['^'])

/-- The line under the tape that points at the head. -/
def pointer (tape : Tape) : String :=
  pointerLine tape.head

@[simp]
theorem length_cells (tape : Tape) : tape.cells.length = tape.length := by
  simp [cells, length]

/-- The head is on the tape. -/
theorem head_lt_length (tape : Tape) : tape.head < tape.length := by
  simp [head, length]

end Tape

end TapeMultiplier
