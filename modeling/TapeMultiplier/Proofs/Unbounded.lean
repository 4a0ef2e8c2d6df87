/-
Module: TapeMultiplier.Proofs.Unbounded
Layer: Proofs
Purpose: The machine of the textbooks, on a tape without ends, is the measure for the growing tape: the
  machine on a growing tape refines it.  A finite tape is a window on the infinite one: it is shifted by
  the cells that were added on its left, it is blank outside, and it reaches exactly as far as the given
  cells and the head have been.
Main exports: Unbounded, Unbounded.run, Unbounded.Shows, Unbounded.Shows.advance, Unbounded.Shows.iterate,
  Unbounded.SmallestInterval, Unbounded.smallestInterval_iterate, Unbounded.shown_by_growing_tape
-/
import TapeMultiplier.Proofs.Machine.Growth

namespace TapeMultiplier

/-- A machine whose cells are numbered by all integers. -/
structure Unbounded where
  state : String
  cells : Int → Char
  head : Int
  steps : Nat
  halted : Bool

namespace Unbounded

/-- Given cells from position 0 on, blanks everywhere else. -/
def cellsOf (given : List Char) (position : Int) : Char :=
  if position < 0 then Symbol.blank.char
  else (given[position.toNat]?).getD Symbol.blank.char

/-- The machine at the start of a run. -/
def start (given : List Char) (head : Int) (state : String) : Unbounded :=
  { state, cells := cellsOf given, head, steps := 0, halted := false }

/-- The cells after writing at a position. -/
def writeCell (cells : Int → Char) (position : Int) (c : Char) : Int → Char :=
  fun other => if other = position then c else cells other

/-- One step: apply the first matching transition, or halt. -/
def step (table : Table) (u : Unbounded) : Unbounded :=
  if u.halted then u
  else
    match table.lookup u.state (u.cells u.head) with
    | none => { u with halted := true }
    | some t =>
        { state := t.target
          cells := writeCell u.cells u.head t.write.char
          head := u.head + t.move.offset
          steps := u.steps + 1
          halted := false }

/-- A number of steps. -/
def run (table : Table) : Nat → Unbounded → Unbounded
  | 0, u => u
  | count + 1, u => run table count (u.step table)

/-! ### Cells of a finite tape at all positions -/

theorem cellsOf_of_neg (given : List Char) {position : Int} (before : position < 0) :
    cellsOf given position = Symbol.blank.char := if_pos before

theorem cellsOf_natCast (given : List Char) (place : Nat) :
    cellsOf given place = (given[place]?).getD Symbol.blank.char := by
  rw [cellsOf, if_neg (by omega), Int.toNat_natCast]

/-- Behind the given cells all are blank. -/
theorem cellsOf_of_length_le (given : List Char) {position : Int} (behind : given.length ≤ position) :
    cellsOf given position = Symbol.blank.char := by
  obtain ⟨place, rfl⟩ := Int.eq_ofNat_of_zero_le (by omega : 0 ≤ position)
  rw [cellsOf_natCast, List.getElem?_eq_none (by omega), Option.getD_none]

/-- A blank at the end is no change. -/
theorem cellsOf_append_blank (given : List Char) (position : Int) :
    cellsOf (given ++ [Symbol.blank.char]) position = cellsOf given position := by
  by_cases before : position < 0
  · rw [cellsOf_of_neg _ before, cellsOf_of_neg _ before]
  · obtain ⟨place, rfl⟩ := Int.eq_ofNat_of_zero_le (Int.not_lt.mp before)
    rw [cellsOf_natCast, cellsOf_natCast]
    rcases Nat.lt_trichotomy place given.length with inside | rfl | outside
    · rw [List.getElem?_append_left inside]
    · simp
    · rw [List.getElem?_eq_none (by simp; omega), List.getElem?_eq_none (by omega)]

/-- A blank at the start shifts the cells. -/
theorem cellsOf_cons_blank (given : List Char) (position : Int) :
    cellsOf (Symbol.blank.char :: given) (position + 1) = cellsOf given position := by
  by_cases before : position < 0
  · rw [cellsOf_of_neg _ before]
    by_cases first : position + 1 = 0
    · rw [first]
      rfl
    · rw [cellsOf_of_neg _ (by omega)]
  · obtain ⟨place, rfl⟩ := Int.eq_ofNat_of_zero_le (Int.not_lt.mp before)
    rw [← Int.natCast_succ, cellsOf_natCast, cellsOf_natCast, List.getElem?_cons_succ]

theorem cellsOf_head (tape : Tape) : cellsOf tape.cells tape.head = tape.current := by
  rw [cellsOf_natCast, Tape.getElem?_cells_head, Option.getD_some]

/-- Writing on the tape is writing at the position of its head. -/
theorem cellsOf_write (tape : Tape) (c : Char) :
    cellsOf (tape.write c).cells = writeCell (cellsOf tape.cells) tape.head c := by
  funext position
  rw [writeCell]
  split
  · next here =>
    rw [here]
    exact cellsOf_head (tape.write c)
  · next elsewhere =>
    by_cases before : position < 0
    · rw [cellsOf_of_neg _ before, cellsOf_of_neg _ before]
    · obtain ⟨place, rfl⟩ := Int.eq_ofNat_of_zero_le (Int.not_lt.mp before)
      have apart : tape.head ≠ place := by
        intro same
        exact elsewhere (congrArg Nat.cast same.symm)
      rw [cellsOf_natCast, cellsOf_natCast, Tape.cells_write, List.getElem?_set_ne apart]

/-- The number of cells that a move adds on the left. -/
def addedLeft (tape : Tape) : Direction → Nat
  | .left => (tape.atEnd .left).toNat
  | .right => 0

theorem addedLeft_eq (tape : Tape) (direction : Direction) :
    addedLeft tape direction = (direction == .left && tape.atEnd .left).toNat := by
  cases direction <;> rfl

/-- A move shifts the cells by what it adds on the left. -/
theorem cellsOf_move (tape : Tape) (direction : Direction) (position : Int) :
    cellsOf (tape.move direction).cells (position + addedLeft tape direction) =
      cellsOf tape.cells position := by
  obtain ⟨before, current, after⟩ := tape
  cases direction with
  | left =>
      cases before with
      | nil =>
          rw [(Tape.cells_move_left rfl).1]
          exact cellsOf_cons_blank _ position
      | cons c before => simp [addedLeft, Tape.atEnd, Tape.move, Tape.cells]
  | right =>
      cases after with
      | nil =>
          rw [(Tape.cells_move_right rfl).1, cellsOf_append_blank]
          simp [addedLeft]
      | cons c after => simp [addedLeft, Tape.move, Tape.cells]

/-- A move takes the head one position on, counted with the shift. -/
theorem head_move (tape : Tape) (direction : Direction) :
    ((tape.move direction).head : Int) = tape.head + direction.offset + addedLeft tape direction := by
  obtain ⟨before, current, after⟩ := tape
  cases direction with
  | left =>
      cases before with
      | nil => rfl
      | cons c before =>
          have counted : ((c :: before).length : Int) = before.length + 1 := rfl
          have none : addedLeft ⟨c :: before, current, after⟩ .left = 0 := rfl
          rw [none, Tape.head, Tape.head, counted]
          simp only [Tape.move, Direction.offset]
          omega
  | right => cases after <;> simp [addedLeft, Tape.move, Tape.head, Direction.offset]

/-! ### One machine as a window on the other -/

section Steps

variable {table : Table} {u : Unbounded} {t : Transition}

theorem step_of_halted (halted : u.halted = true) : u.step table = u := if_pos halted

theorem step_of_stuck (running : u.halted = false)
    (stuck : table.lookup u.state (u.cells u.head) = none) :
    u.step table = { u with halted := true } := by
  simp [step, running, stuck]

theorem step_of_lookup (running : u.halted = false)
    (found : table.lookup u.state (u.cells u.head) = some t) :
    u.step table =
      { state := t.target, cells := writeCell u.cells u.head t.write.char,
        head := u.head + t.move.offset, steps := u.steps + 1, halted := false } := by
  simp [step, running, found]

/-- A run goes on with one more step. -/
theorem run_succ (count : Nat) (u : Unbounded) :
    run table (count + 1) u = (run table count u).step table := by
  induction count generalizing u with
  | zero => rfl
  | succ count ih => rw [run, ih, run]

end Steps

/-- A machine on a finite tape shows a machine on a tape without ends, when a number of cells was added to
the finite tape on its left. -/
structure Shows (u : Unbounded) (m : Machine) (added : Nat) : Prop where
  state : u.state = m.state
  steps : u.steps = m.steps
  halted : u.halted = m.halted
  head : u.head = m.tape.head - added
  cells : ∀ position, u.cells position = cellsOf m.tape.cells (position + added)

namespace Shows

variable {u : Unbounded} {m : Machine} {added : Nat}

/-- Both machines read the same character. -/
theorem read (shows : u.Shows m added) : u.cells u.head = m.read := by
  rw [shows.cells, shows.head, Int.sub_add_cancel, cellsOf_head, Machine.read]

/-- Applying a transition keeps the two machines together; the window is shifted further if the finite
tape grows on its left. -/
theorem apply (shows : u.Shows m added) (running : m.halted = false) (t : Transition) :
    Shows
      { state := t.target, cells := writeCell u.cells u.head t.write.char,
        head := u.head + t.move.offset, steps := u.steps + 1, halted := false }
      (m.apply t) (added + addedLeft m.tape t.move) where
  state := rfl
  steps := by rw [shows.steps, Machine.apply]
  halted := running.symm
  head := by
    have moved := head_move (m.tape.write t.write.char) t.move
    have sameHead : (m.tape.write t.write.char).head = m.tape.head := rfl
    have sameShift : addedLeft (m.tape.write t.write.char) t.move = addedLeft m.tape t.move := by
      rw [addedLeft_eq, addedLeft_eq, Tape.atEnd_write]
    rw [sameHead, sameShift] at moved
    simp only [Machine.apply, shows.head]
    omega
  cells := by
    intro position
    have sameShift : addedLeft m.tape t.move = addedLeft (m.tape.write t.write.char) t.move := by
      rw [addedLeft_eq, addedLeft_eq, Tape.atEnd_write]
    have here : position = (m.tape.head : Int) - added ↔ position + added = m.tape.head := by omega
    show (if position = u.head then t.write.char else u.cells position) =
      cellsOf ((m.tape.write t.write.char).move t.move).cells _
    rw [Int.natCast_add, ← Int.add_assoc, sameShift, cellsOf_move, cellsOf_write, writeCell,
      shows.head, shows.cells]
    simp only [here]

/-- Both machines take the same step. -/
theorem advance (shows : u.Shows m added) (table : Table) :
    (u.step table).Shows (m.advance table) (added + (m.grows table .left).toNat) := by
  cases halted : m.halted with
  | true =>
      rw [step_of_halted (shows.halted.trans halted), Machine.advance_of_halted halted,
        Machine.grows_of_halted halted]
      exact shows
  | false =>
      have running : u.halted = false := shows.halted.trans halted
      have same : table.lookup u.state (u.cells u.head) = table.lookup m.state m.read := by
        rw [shows.state, shows.read]
      cases found : table.lookup m.state m.read with
      | none =>
          rw [step_of_stuck running (same.trans found), Machine.advance_of_stuck halted found,
            Machine.grows_of_stuck halted found]
          exact ⟨shows.state, shows.steps, rfl, shows.head, shows.cells⟩
      | some t =>
          rw [step_of_lookup running (same.trans found), Machine.advance_of_lookup halted found,
            Machine.grows_of_lookup halted found, ← addedLeft_eq]
          exact shows.apply halted t

/-- Both machines stay together for any number of steps. -/
theorem iterate (shows : u.Shows m 0) (table : Table) (count : Nat) :
    (run table count u).Shows ((Machine.advance table)^[count] m)
      (Machine.growth table .left count m) := by
  induction count with
  | zero => exact shows
  | succ count ih =>
      rw [run_succ, Function.iterate_succ_apply', Machine.growth_succ]
      exact ih.advance table

/-- The head of the machine without ends is within the window. -/
theorem head_within (shows : u.Shows m added) :
    -(added : Int) ≤ u.head ∧ u.head < m.tape.length - added := by
  have inside := m.tape.head_lt_length
  rw [shows.head]
  omega

end Shows

/-- At the start the finite tape holds the given cells. -/
theorem shows_start {given : List Char} {head : Int} {state : String} {m : Machine}
    (started : Machine.start given head state = .ok m) :
    (start given head state).Shows m 0 ∧ m.tape.cells = given := by
  rw [Machine.start] at started
  split at started
  · next tape made =>
    cases started
    obtain ⟨cells, placed⟩ := Tape.cells_of_ofCells? made
    refine ⟨⟨rfl, rfl, rfl, ?_, ?_⟩, cells⟩
    · simp [start, placed]
    · intro position
      simp [start, cells]
  · cases started

/-! ### How far the window reaches -/

/-- From `first` on and before `limit` are all positions of some kind, and no smaller interval has them
all. -/
structure SmallestInterval (holds : Int → Prop) (first limit : Int) : Prop where
  covers : ∀ position, holds position → first ≤ position ∧ position < limit
  least : ∀ lower upper, (∀ position, holds position → lower ≤ position ∧ position < upper) →
    lower ≤ first ∧ limit ≤ upper

/-- A position that was given at the start, or on which the head has stood after at most some steps. -/
def Touched (table : Table) (given : List Char) (u : Unbounded) (count : Nat) (position : Int) : Prop :=
  (0 ≤ position ∧ position < given.length) ∨ ∃ earlier ≤ count, (run table earlier u).head = position

/-- The outermost position in a direction, when some cells were added to `length` ones. -/
def edge (length added : Nat) : Direction → Int
  | .left => -added
  | .right => length + added - 1

section Window

variable {table : Table} {given : List Char} {u : Unbounded} {m : Machine}

/-- The window ends on the right where the cells added there end. -/
theorem window_limit (table : Table) (whole : m.tape.length = given.length) (count : Nat) :
    (((Machine.advance table)^[count] m).tape.length : Int) - Machine.growth table .left count m =
      given.length + Machine.growth table .right count m := by
  rw [Machine.length_iterate, whole]
  omega

/-- The head that adds a cell stands on the edge of the window. -/
theorem head_of_grows (shows : u.Shows m 0) (whole : m.tape.length = given.length) {count : Nat}
    {direction : Direction}
    (grown : ((Machine.advance table)^[count] m).grows table direction = true) :
    (run table (count + 1) u).head =
      edge given.length (Machine.growth table direction (count + 1) m) direction := by
  have onEdge : ((Machine.advance table)^[count + 1] m).tape.atEnd direction = true := by
    rw [Function.iterate_succ_apply']
    exact Machine.atEnd_advance grown
  have limit := window_limit table whole (count + 1)
  rw [(shows.iterate table (count + 1)).head]
  cases direction with
  | left =>
      rw [Tape.head_of_atEnd_left onEdge, edge]
      omega
  | right =>
      have last := Tape.head_of_atEnd_right onEdge
      rw [edge]
      omega

/-- If cells were added in a direction, the head has stood on the outermost of them. -/
theorem exists_head_on_edge (table : Table) (shows : u.Shows m 0)
    (whole : m.tape.length = given.length) (direction : Direction) (count : Nat) :
    Machine.growth table direction count m = 0 ∨
      ∃ earlier ≤ count, (run table earlier u).head =
        edge given.length (Machine.growth table direction count m) direction := by
  induction count with
  | zero => exact Or.inl rfl
  | succ count ih =>
      cases grown : ((Machine.advance table)^[count] m).grows table direction with
      | true => exact Or.inr ⟨count + 1, Nat.le_refl _, head_of_grows shows whole grown⟩
      | false =>
          rw [Machine.growth_succ, grown]
          refine ih.imp_right ?_
          rintro ⟨earlier, before, stood⟩
          exact ⟨earlier, Nat.le_succ_of_le before, stood⟩

/-- The outermost positions of the window were touched. -/
theorem touched_edge (shows : u.Shows m 0) (whole : m.tape.length = given.length)
    (direction : Direction) (count : Nat) :
    Touched table given u count
      (edge given.length (Machine.growth table direction count m) direction) := by
  rcases exists_head_on_edge table shows whole direction count with none | stood
  · have nonempty : 0 < given.length := by
      rw [← whole]
      exact Nat.zero_lt_of_lt m.tape.head_lt_length
    left
    rw [none]
    cases direction with
    | left =>
        rw [edge]
        omega
    | right =>
        rw [edge]
        omega
  · exact Or.inr stood

/-- The window is the smallest interval with all positions that were touched. -/
theorem smallestInterval_iterate (shows : u.Shows m 0) (whole : m.tape.length = given.length)
    (count : Nat) :
    SmallestInterval (Touched table given u count) (-(Machine.growth table .left count m : Int))
      (((Machine.advance table)^[count] m).tape.length - Machine.growth table .left count m) := by
  rw [window_limit table whole count]
  constructor
  · rintro position (given | ⟨earlier, before, rfl⟩)
    · omega
    · have within := (shows.iterate table earlier).head_within
      have left := Machine.growth_mono table .left m before
      have right := Machine.growth_mono table .right m before
      rw [window_limit table whole earlier] at within
      dsimp only at left right
      omega
  · intro lower upper all
    have first := (all _ (touched_edge shows whole .left count)).1
    have last := (all _ (touched_edge shows whole .right count)).2
    simp only [edge] at first last
    omega

end Window

/-- The machine on a growing tape refines the machine on a tape without ends.  After any number of steps,
with as many cells added on the left as the growth says, both agree in state, steps and halting; the head
is shifted by the cells added on the left; the cells of the finite tape are those of the infinite one,
which is blank outside; and the finite tape is just long enough for the cells given at the start and all
head positions so far. -/
theorem shown_by_growing_tape (table : Table) (given : List Char) (head : Int) (state : String)
    (lower : 0 ≤ head) (upper : head < given.length) (count : Nat) :
    ∃ m, Machine.start given head state = .ok m ∧
      let final := (Machine.advance table)^[count] m
      let added := Machine.growth table .left count m
      let u := run table count (start given head state)
      u.state = final.state ∧ u.steps = final.steps ∧ u.halted = final.halted ∧
        u.head = final.tape.head - added ∧
        (∀ (place : Nat) (c : Char), final.tape.cells[place]? = some c → u.cells (place - added) = c) ∧
        (∀ position : Int, position < -added ∨ final.tape.length - added ≤ position →
          u.cells position = Symbol.blank.char) ∧
        SmallestInterval (Touched table given (start given head state) count) (-added)
          (final.tape.length - added) := by
  obtain ⟨tape, made⟩ := Tape.exists_ofCells? lower upper
  have started : Machine.start given head state =
      .ok { state, tape, steps := 0, halted := false } := by
    rw [Machine.start, made]
  obtain ⟨shows, cells⟩ := shows_start started
  have whole : tape.length = given.length := by
    rw [← Tape.length_cells, cells]
  have shown := shows.iterate table count
  refine ⟨_, started, shown.state, shown.steps, shown.halted, shown.head, ?_, ?_,
    smallestInterval_iterate shows whole count⟩
  · intro place c found
    rw [shown.cells, Int.sub_add_cancel, cellsOf_natCast, found, Option.getD_some]
  · rintro position (before | behind)
    · rw [shown.cells, cellsOf_of_neg _ (by omega)]
    · rw [shown.cells, cellsOf_of_length_le _ (by rw [Tape.length_cells]; omega)]

/-- A program that walks to the left over zeros. -/
def leftWalk : Table :=
  ⟨[{ source := "q0", read := .number, target := "q0", write := .number, move := .left }]⟩

/-- From the only given cell the walk goes to a cell that is added on the left. -/
theorem shown_by_growing_tape_leftWalk :
    ∃ m, Machine.start ['0'] 0 "q0" = .ok m ∧ Machine.growth leftWalk .left 2 m = 1 ∧
      (run leftWalk 2 (start ['0'] 0 "q0")).head = -1 ∧
      SmallestInterval (Touched leftWalk ['0'] (start ['0'] 0 "q0") 2) (-1) 1 := by
  obtain ⟨m, started, -, -, -, -, -, -, interval⟩ :=
    shown_by_growing_tape leftWalk ['0'] 0 "q0" (by decide) (by decide) 2
  cases started
  exact ⟨_, rfl, rfl, rfl, interval⟩

end Unbounded

end TapeMultiplier
