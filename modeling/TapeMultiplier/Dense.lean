/-
Module: TapeMultiplier.Dense
Layer: Model
Purpose: Programs as dense tables indexed by state number and letter column, the arrays of numbers that are
  filled from the dictionary of a program, and the printed grid of actions.
Main exports: Action, Dense, Table.dense, Matrices, Table.filled, Table.grid
-/
import TapeMultiplier.Table

namespace TapeMultiplier

/-- What a dense table does in one cell: the row to go on in, the column of the letter to write, and
the move. -/
structure Action where
  next : Nat
  write : Nat
  move : Direction
deriving Repr, Inhabited, DecidableEq

/-- A program by rows (states, in their order of appearance) and columns (letters).  An empty cell
halts the machine. -/
structure Dense where
  states : List String
  rows : Array (Array (Option Action))
deriving Repr, Inhabited, DecidableEq

namespace Dense

/-- The cell of a state number and a letter column; `none` if there is no such cell. -/
def cell? (dense : Dense) (state : Nat) (column : Nat) : Option (Option Action) := do
  let row ← dense.rows[state]?
  row[column]?

/-- One number for every cell. -/
def matrix (dense : Dense) (entry : Option Action → Int) : List (List Int) :=
  dense.rows.toList.map fun row => row.toList.map entry

/-- Row numbers to go on in, -1 in empty cells. -/
def nextMatrix (dense : Dense) : List (List Int) :=
  dense.matrix fun
    | some action => action.next
    | none => -1

/-- Columns of the letters to write, 0 in empty cells. -/
def writeMatrix (dense : Dense) : List (List Int) :=
  dense.matrix fun
    | some action => action.write
    | none => 0

/-- Offsets of the moves, 0 in empty cells. -/
def moveMatrix (dense : Dense) : List (List Int) :=
  dense.matrix fun
    | some action => action.move.offset
    | none => 0

end Dense

namespace Table

/-- The action of a transition, with states replaced by their numbers. -/
def actionOf (states : List String) (t : Transition) : Action :=
  { next := states.idxOf t.target, write := t.write.index, move := t.move }

/-- The dense form of the program. -/
def dense (table : Table) : Dense :=
  let states := table.states
  let dictionary := table.compiled
  let cell (state : String) (symbol : Symbol) : Option Action :=
    (dictionary.find? fun entry => entry.1 == (state, symbol)).map fun entry =>
      actionOf states entry.2
  { states
    rows := (states.map fun state => (Symbol.all.map (cell state)).toArray).toArray }

end Table

/-- The three arrays of numbers that a program is simulated from, with one row for each state and one column
for each letter. -/
structure Matrices where
  next : Array (Array Int)
  write : Array (Array Int)
  move : Array (Array Int)
deriving Repr, DecidableEq

namespace Matrices

/-- Arrays in which every cell halts the machine. -/
def halting (height : Nat) : Matrices :=
  let full (number : Int) := Array.replicate height (Array.replicate Symbol.all.length number)
  { next := full (-1), write := full 0, move := full 0 }

/-- Put a number in the cell of a row and a column. -/
def put (cells : Array (Array Int)) (row column : Nat) (number : Int) : Array (Array Int) :=
  cells.modify row fun numbers => numbers.setIfInBounds column number

/-- Enter an action in the cell of a row and a column. -/
def enter (arrays : Matrices) (row column : Nat) (action : Action) : Matrices :=
  { next := put arrays.next row column action.next
    write := put arrays.write row column action.write
    move := put arrays.move row column action.move.offset }

end Matrices

namespace Table

/-- The arrays of the program: at first every cell halts, then each entry of the dictionary is put in the cell
of its key. -/
def filled (table : Table) : Matrices :=
  let states := table.states
  table.compiled.foldl
    (fun arrays entry =>
      arrays.enter (states.idxOf entry.1.1) entry.1.2.index (actionOf states entry.2))
    (Matrices.halting states.length)

/-- The printed action of a transition: letter written, direction, target. -/
def actionText (t : Transition) : String :=
  t.write.text ++ t.move.text ++ t.target

/-- For every state, the printed action on each letter; `HALT` where nothing fires. -/
def grid (table : Table) : List (String × List (Symbol × String)) :=
  let dictionary := table.compiled
  table.states.map fun state =>
    (state, Symbol.all.map fun symbol =>
      (symbol,
        match dictionary.find? fun entry => entry.1 == (state, symbol) with
        | some entry => actionText entry.2
        | none => "HALT"))

end Table

end TapeMultiplier
