/-
Module: TapeMultiplier.Proofs.Kernel.Board
Layer: Proofs
Purpose: The buffer of a kernel and the tape of a machine as two views of one board.  A board holds the
  letters around the head and, beyond both ends of the window, the cells of the buffer that were not used
  yet.  The kernel's reads, writes and growth are operations on the board.
Main exports: Board, Board.kernel, Board.tape, Board.write, Board.move, Board.Moves, Board.Full,
  Board.settle_eq, Board.Steps, Board.exists_steps, Board.steps_of_step
-/
import TapeMultiplier.Kernel
import TapeMultiplier.Proofs.Dense

namespace TapeMultiplier

/-!
The lists of a board start at the head in both directions, as those of a tape do.  A move then takes one
element from one list and puts one on another, and the buffer runs out exactly when the list of unused
cells on that side is empty.
-/

namespace Kernel

variable {k : Kernel} {next : Nat}

/-- A head that is still on the window changes nothing but state and step count. -/
theorem settle_inside (above : (k.lo : Int) ≤ k.head) (under : k.head < (k.hi : Int)) :
    k.settle next = .next { k with state := next, steps := k.steps + 1 } := by
  rw [settle, if_neg (by omega), if_neg (by omega)]

/-- A head that left the window on the right takes the next cell of the buffer. -/
theorem settle_wider_right (outside : (k.hi : Int) ≤ k.head) (room : k.hi < k.cells.size) :
    k.settle next = .next
      { k with cells := k.cells.setIfInBounds k.hi blank, hi := k.hi + 1, state := next,
               steps := k.steps + 1 } := by
  rw [settle, if_pos outside, if_neg (by omega)]

/-- A head that left the buffer on the right ends the run. -/
theorem settle_full_right (outside : (k.hi : Int) ≤ k.head) (used : k.cells.size ≤ k.hi) :
    k.settle next = .done ({ k with steps := k.steps + 1 }.report .tapeOverflow) := by
  rw [settle, if_pos outside, if_pos used]

/-- A head that left the window on the left takes the cell of the buffer before it. -/
theorem settle_wider_left (lo : Nat) (under : k.head < (k.hi : Int)) (room : k.lo = lo + 1)
    (outside : k.head < (k.lo : Int)) :
    k.settle next = .next
      { k with cells := k.cells.setIfInBounds lo blank, lo, state := next,
               steps := k.steps + 1 } := by
  rw [settle, if_neg (by omega), if_pos outside]
  simp only [room]

/-- A head that left the buffer on the left ends the run. -/
theorem settle_full_left (under : k.head < (k.hi : Int)) (used : k.lo = 0)
    (outside : k.head < (k.lo : Int)) :
    k.settle next = .done ({ k with steps := k.steps + 1 }.report .tapeOverflow) := by
  rw [settle, if_neg (by omega), if_pos outside]
  simp only [used]

end Kernel

/-- The columns of letters. -/
def columns (symbols : List Symbol) : List Int :=
  symbols.map fun symbol => (symbol.index : Int)

/-- Letters around a head, and unused cells on both sides of them. -/
structure Board where
  /-- Unused cells left of the window, nearest first. -/
  below : List Int
  /-- Letters left of the head, nearest first. -/
  before : List Symbol
  /-- The letter under the head. -/
  current : Symbol
  /-- Letters right of the head, nearest first. -/
  after : List Symbol
  /-- Unused cells right of the window, nearest first. -/
  beyond : List Int

namespace Board

/-- The letters from left to right. -/
def symbols (board : Board) : List Symbol :=
  board.before.reverse ++ board.current :: board.after

/-- The cells of the whole buffer. -/
def buffer (board : Board) : List Int :=
  board.below.reverse ++ columns board.symbols ++ board.beyond

/-- The position of the head in the buffer. -/
def head (board : Board) : Nat :=
  board.below.length + board.before.length

/-- The end of the window in the buffer. -/
def hi (board : Board) : Nat :=
  board.head + (board.after.length + 1)

/-- The tape that the board shows. -/
def tape (board : Board) : Tape :=
  { before := board.before.map Symbol.char
    current := board.current.char
    after := board.after.map Symbol.char }

/-- The kernel at work on the board. -/
def kernel (board : Board) (state steps : Nat) : Kernel :=
  { cells := board.buffer.toArray, lo := board.below.length, hi := board.hi, head := board.head,
    state, steps }

/-- The board with a letter written under the head. -/
def write (board : Board) (symbol : Symbol) : Board :=
  { board with current := symbol }

/-- The board with the head moved.  Beyond an end of the window an unused cell becomes a blank; there is
no such board if all cells on that side are used. -/
def move (board : Board) : Direction → Option Board
  | .left =>
      match board.before, board.below with
      | next :: before, _ =>
          some { board with before, current := next, after := board.current :: board.after }
      | [], _ :: below =>
          some { board with below, current := .blank, after := board.current :: board.after }
      | [], [] => none
  | .right =>
      match board.after, board.beyond with
      | next :: after, _ =>
          some { board with before := board.current :: board.before, current := next, after }
      | [], _ :: beyond =>
          some { board with before := board.current :: board.before, current := .blank, beyond }
      | [], [] => none

/-! ### Moves -/

/-- What a move of the head is: onto a letter of the window, or onto the nearest unused cell, which becomes a
blank. -/
inductive Moves : Board → Direction → Board → Prop where
  | left {below beyond : List Int} {before after : List Symbol} {current next : Symbol} :
      Moves ⟨below, next :: before, current, after, beyond⟩ .left
        ⟨below, before, next, current :: after, beyond⟩
  | widerLeft {unused : Int} {below beyond : List Int} {after : List Symbol} {current : Symbol} :
      Moves ⟨unused :: below, [], current, after, beyond⟩ .left
        ⟨below, [], .blank, current :: after, beyond⟩
  | right {below beyond : List Int} {before after : List Symbol} {current next : Symbol} :
      Moves ⟨below, before, current, next :: after, beyond⟩ .right
        ⟨below, current :: before, next, after, beyond⟩
  | widerRight {unused : Int} {below beyond : List Int} {before : List Symbol} {current : Symbol} :
      Moves ⟨below, before, current, [], unused :: beyond⟩ .right
        ⟨below, current :: before, .blank, [], beyond⟩

theorem moves_of_move {board moved : Board} {direction : Direction}
    (moves : board.move direction = some moved) : board.Moves direction moved := by
  obtain ⟨below, before, current, after, beyond⟩ := board
  cases direction with
  | left =>
      cases before with
      | cons next before =>
          cases moves
          exact .left
      | nil =>
          cases below with
          | nil => cases moves
          | cons unused below =>
              cases moves
              exact .widerLeft
  | right =>
      cases after with
      | cons next after =>
          cases moves
          exact .right
      | nil =>
          cases beyond with
          | nil => cases moves
          | cons unused beyond =>
              cases moves
              exact .widerRight

/-- The head is at the end of the window, and of the buffer, on a side. -/
def Full (board : Board) : Direction → Prop
  | .left => board.before = [] ∧ board.below = []
  | .right => board.after = [] ∧ board.beyond = []

/-- Only at the end of the buffer there is no move. -/
theorem full_of_move {board : Board} {direction : Direction} (stuck : board.move direction = none) :
    board.Full direction := by
  obtain ⟨below, before, current, after, beyond⟩ := board
  cases direction with
  | left =>
      cases before with
      | cons next before => cases stuck
      | nil =>
          cases below with
          | nil => exact ⟨rfl, rfl⟩
          | cons unused below => cases stuck
  | right =>
      cases after with
      | cons next after => cases stuck
      | nil =>
          cases beyond with
          | nil => exact ⟨rfl, rfl⟩
          | cons unused beyond => cases stuck

/-! ### The buffer -/

/-- The buffer around the cell under the head. -/
theorem buffer_eq (board : Board) :
    board.buffer = (board.below.reverse ++ columns board.before.reverse) ++
      (board.current.index : Int) :: (columns board.after ++ board.beyond) := by
  simp [buffer, symbols, columns]

/-- The window ends behind the cells before it and its letters. -/
theorem length_front (board : Board) :
    (board.below.reverse ++ columns board.symbols).length = board.hi := by
  simp [symbols, columns, hi, head]
  omega

theorem length_buffer (board : Board) : board.buffer.length = board.hi + board.beyond.length := by
  rw [buffer, List.length_append, length_front]

theorem head_lt_length (board : Board) : board.head < board.buffer.length := by
  rw [length_buffer, hi]
  omega

/-- The head stands on the column of its letter. -/
theorem getElem?_head (board : Board) :
    board.buffer[board.head]? = some (board.current.index : Int) := by
  rw [buffer_eq, List.getElem?_append_right (by simp [columns, head])]
  simp [columns, head]

/-- Setting the cell under the head is writing a letter. -/
theorem set_head (board : Board) (symbol : Symbol) :
    board.buffer.set board.head symbol.index = (board.write symbol).buffer := by
  rw [buffer_eq, buffer_eq, List.set_append_right _ _ (by simp [columns, head])]
  simp [columns, head, write]

/-- Setting the cell behind the window uses it up. -/
theorem set_hi (board : Board) {unused : Int} {rest : List Int}
    (free : board.beyond = unused :: rest) (value : Int) :
    board.buffer.set board.hi value =
      board.below.reverse ++ columns board.symbols ++ value :: rest := by
  rw [buffer, free, ← board.length_front, List.set_append_right _ _ (Nat.le_refl _), Nat.sub_self,
    List.set_cons_zero]

/-- Setting the cell before the window uses it up. -/
theorem set_lo (board : Board) {unused : Int} {rest : List Int}
    (free : board.below = unused :: rest) (value : Int) :
    board.buffer.set rest.length value =
      rest.reverse ++ value :: (columns board.symbols ++ board.beyond) := by
  rw [buffer, free, List.reverse_cons, List.append_assoc, List.append_assoc,
    List.set_append_right _ _ (by simp)]
  simp

/-- The live cells are the columns of the letters. -/
theorem window_eq (board : Board) :
    (board.buffer.toArray.extract board.below.length board.hi).toList = columns board.symbols := by
  have width : board.hi - board.below.length = (columns board.symbols).length := by
    simp [columns, symbols, hi, head]
    omega
  rw [Array.toList_extract, List.extract_eq_take_drop, width, buffer, List.append_assoc,
    List.drop_left' (List.length_reverse), List.take_left' rfl]

/-! ### The kernel on a board -/

/-- The head of a board is a position in its buffer. -/
theorem resolveIndex?_head (board : Board) :
    resolveIndex? board.buffer.toArray.size (board.head : Int) = some board.head :=
  resolveIndex?_natCast (by simpa using board.head_lt_length)

theorem getD_head (board : Board) :
    board.buffer.toArray.getD board.head Kernel.blank = (board.current.index : Int) := by
  rw [Array.getD_eq_getD_getElem?, List.getElem?_toArray, getElem?_head, Option.getD_some]

/-- What a kernel on the board finds in its dense program. -/
theorem cell?_current {table : Table} {row : Nat} {state : String} (board : Board)
    (numbered : table.states[row]? = some state) :
    (if (board.current.index : Int) < 0 then none
      else table.dense.cell? row (board.current.index : Int).toNat) =
      some ((table.lookup state board.current.char).map (Table.actionOf table.states)) := by
  rw [if_neg (by omega), Int.toNat_natCast, Table.dense_cell? numbered]

/-- A kernel for which the table has no transition halts where it is. -/
theorem step_of_stuck {table : Table} {row : Nat} {state : String} (board : Board) (steps : Nat)
    (numbered : table.states[row]? = some state)
    (stuck : table.lookup state board.current.char = none) :
    (board.kernel row steps).step table.dense =
      .ok (.done ((board.kernel row steps).report .halted)) := by
  simp only [Kernel.step, kernel, resolveIndex?_head, getD_head, cell?_current board numbered, stuck,
    Option.map_none]

/-- The kernel whose head was moved, before its window is widened. -/
def leaving (board : Board) (direction : Direction) (state steps : Nat) : Kernel :=
  { cells := board.buffer.toArray, lo := board.below.length, hi := board.hi,
    head := board.head + direction.offset, state, steps }

/-- The report of a kernel that has used up its buffer on the side to which the head was moved. -/
def overflow (board : Board) (direction : Direction) (steps : Nat) : Report :=
  (board.leaving direction 0 steps).report .tapeOverflow

/-- Settling to the right is moving the head of the board to the right. -/
theorem settle_right (board : Board) (row next steps : Nat) :
    (board.leaving .right row steps).settle next =
      match board.move .right with
      | some moved => .next (moved.kernel next (steps + 1))
      | none => .done (board.overflow .right (steps + 1)) := by
  obtain ⟨below, before, current, after, beyond⟩ := board
  cases after with
  | cons letter after =>
      rw [Kernel.settle_inside]
      · simp [move, leaving, kernel, Direction.offset, buffer, symbols, columns, hi, head]
        omega
      · simp only [leaving, head, Direction.offset]
        omega
      · simp only [leaving, hi, head, Direction.offset, List.length_cons]
        omega
  | nil =>
      have size := length_buffer ⟨below, before, current, [], beyond⟩
      cases beyond with
      | nil =>
          rw [Kernel.settle_full_right]
          · rfl
          · simp [leaving, hi, head, Direction.offset]
          · simp [leaving, size]
      | cons unused beyond =>
          have grown := set_hi ⟨below, before, current, [], unused :: beyond⟩ rfl Kernel.blank
          rw [Kernel.settle_wider_right]
          · simp only [move, leaving, kernel, List.setIfInBounds_toArray, grown]
            simp [Direction.offset, buffer, symbols, columns, hi, head, Kernel.blank]
            omega
          · simp [leaving, hi, head, Direction.offset]
          · simp [leaving, size]

/-- Settling to the left is moving the head of the board to the left. -/
theorem settle_left (board : Board) (row next steps : Nat) :
    (board.leaving .left row steps).settle next =
      match board.move .left with
      | some moved => .next (moved.kernel next (steps + 1))
      | none => .done (board.overflow .left (steps + 1)) := by
  obtain ⟨below, before, current, after, beyond⟩ := board
  cases before with
  | cons letter before =>
      rw [Kernel.settle_inside]
      · simp [move, leaving, kernel, Direction.offset, buffer, symbols, columns, hi, head]
        omega
      · simp only [leaving, head, Direction.offset, List.length_cons]
        omega
      · simp only [leaving, hi, head, Direction.offset, List.length_cons]
        omega
  | nil =>
      cases below with
      | nil =>
          rw [Kernel.settle_full_left]
          · rfl
          · simp only [leaving, hi, head, Direction.offset]
            omega
          · rfl
          · simp [leaving, head, Direction.offset]
      | cons unused below =>
          have grown := set_lo ⟨unused :: below, [], current, after, beyond⟩ rfl Kernel.blank
          rw [Kernel.settle_wider_left below.length]
          · simp only [move, leaving, kernel, List.setIfInBounds_toArray, grown]
            simp [Direction.offset, buffer, symbols, columns, hi, head, Kernel.blank]
            omega
          · simp only [leaving, hi, head, Direction.offset]
            omega
          · rfl
          · simp only [leaving, head, Direction.offset, List.length_cons, List.length_nil]
            omega

/-- Settling is moving the head of the board. -/
theorem settle_eq (board : Board) (direction : Direction) (row next steps : Nat) :
    (board.leaving direction row steps).settle next =
      match board.move direction with
      | some moved => .next (moved.kernel next (steps + 1))
      | none => .done (board.overflow direction (steps + 1)) := by
  cases direction with
  | left => exact board.settle_left row next steps
  | right => exact board.settle_right row next steps

/-- A kernel for which the table has a transition writes and moves on its board. -/
theorem step_of_lookup {table : Table} {row : Nat} {state : String} {t : Transition} (board : Board)
    (steps : Nat) (numbered : table.states[row]? = some state)
    (found : table.lookup state board.current.char = some t) :
    (board.kernel row steps).step table.dense =
      match (board.write t.write).move t.move with
      | some moved => .ok (.next (moved.kernel (table.states.idxOf t.target) (steps + 1)))
      | none => .ok (.done ((board.write t.write).overflow t.move (steps + 1))) := by
  have settled := (board.write t.write).settle_eq t.move row (table.states.idxOf t.target) steps
  simp only [leaving, ← set_head, ← List.setIfInBounds_toArray] at settled
  simp only [Kernel.step, kernel, resolveIndex?_head, getD_head, cell?_current board numbered, found,
    Option.map_some, Table.actionOf]
  refine (congrArg Except.ok settled).trans ?_
  cases (board.write t.write).move t.move <;> rfl

/-- What a step of a kernel at work on the board comes to: it halts where it is, or it writes and finds
no cell to move to, or it goes on with the board after its move. -/
inductive Steps (table : Table) (board : Board) (row : Nat) (state : String) (steps : Nat) :
    Kernel.Progress → Prop where
  | halts (stuck : table.lookup state board.current.char = none) :
      Steps table board row state steps (.done ((board.kernel row steps).report .halted))
  | overflows {t : Transition} (found : table.lookup state board.current.char = some t)
      (full : (board.write t.write).move t.move = none) :
      Steps table board row state steps (.done ((board.write t.write).overflow t.move (steps + 1)))
  | goesOn {t : Transition} {moved : Board} (found : table.lookup state board.current.char = some t)
      (moves : (board.write t.write).move t.move = some moved) :
      Steps table board row state steps
        (.next (moved.kernel (table.states.idxOf t.target) (steps + 1)))

section

variable {table : Table} {row : Nat} {state : String} (board : Board) (steps : Nat)
  (numbered : table.states[row]? = some state)

include numbered

/-- In a state that has a row, a kernel at work on a board makes its step. -/
theorem exists_steps : ∃ progress, (board.kernel row steps).step table.dense = .ok progress ∧
    Steps table board row state steps progress := by
  cases found : table.lookup state board.current.char with
  | none => exact ⟨_, step_of_stuck board steps numbered found, .halts found⟩
  | some t =>
      rw [step_of_lookup board steps numbered found]
      cases moves : (board.write t.write).move t.move with
      | none => exact ⟨_, rfl, .overflows found moves⟩
      | some moved => exact ⟨_, rfl, .goesOn found moves⟩

theorem steps_of_step {progress : Kernel.Progress}
    (stepped : (board.kernel row steps).step table.dense = .ok progress) :
    Steps table board row state steps progress := by
  obtain ⟨other, made, isStep⟩ := exists_steps board steps numbered
  obtain rfl : other = progress := Except.ok.inj (made.symm.trans stepped)
  exact isStep

end

end Board

end TapeMultiplier
