/-
Module: TapeMultiplier.Proofs.Table.Forms
Layer: Proofs
Purpose: The four forms of a program agree: the scan of the table, the dictionary, the dense matrices and the
  printed grid.  A dense cell and a printed action can each be read in one way only, so programs that are
  printed alike run alike.
Main exports: Dense.value?, Dense.Tells, Table.tells_dense_iff, GridTells, Table.actionText_inj,
  Table.tells_grid_iff, Table.forms_agree
-/
import Mathlib.Data.List.Basic
import Mathlib.Tactic.TFAE
import TapeMultiplier.Proofs.Dense
import TapeMultiplier.Proofs.Machine.Run

namespace TapeMultiplier

/-! ### Reading the matrices -/

namespace Dense

/-- The entry of a matrix in a row and a column. -/
def value? (matrix : List (List Int)) (row column : Nat) : Option Int :=
  matrix[row]?.bind fun entries => entries[column]?

/-- What the three matrices tell about a state and a letter: a transition, whose target is the state with the
number of the entry; nothing, if that entry is -1; and nothing, if the state has no row. -/
inductive Tells (dense : Dense) (state : String) (symbol : Symbol) : Option Transition → Prop where
  | rule {row next : Nat} {t : Transition} (numbered : dense.states[row]? = some state)
      (keyed : t.key = (state, symbol)) (target : dense.states[next]? = some t.target)
      (toNext : value? dense.nextMatrix row symbol.index = some (next : Int))
      (toWrite : value? dense.writeMatrix row symbol.index = some (t.write.index : Int))
      (toMove : value? dense.moveMatrix row symbol.index = some t.move.offset) :
      Tells dense state symbol (some t)
  | empty {row : Nat} (numbered : dense.states[row]? = some state)
      (toNext : value? dense.nextMatrix row symbol.index = some (-1)) : Tells dense state symbol none
  | absent (unknown : state ∉ dense.states) : Tells dense state symbol none

/-- The entries of a matrix are those of the cells. -/
theorem value?_matrix (dense : Dense) (entry : Option Action → Int) (row column : Nat) :
    value? (dense.matrix entry) row column = (dense.cell? row column).map entry := by
  rw [value?, matrix, cell?, List.getElem?_map, Array.getElem?_toList]
  cases dense.rows[row]? with
  | none => rfl
  | some cells =>
      simp only [Option.map_some, Option.bind_some, List.getElem?_map, Array.getElem?_toList]
      rfl

end Dense

/-- Letters are told apart by their columns. -/
theorem Symbol.index_inj {left right : Symbol} : left.index = right.index ↔ left = right := by
  cases left <;> cases right <;> decide

/-- A column has one letter. -/
theorem Symbol.index_of_all {column : Nat} {symbol : Symbol} (listed : all[column]? = some symbol) :
    symbol.index = column := by
  rcases column with _ | _ | _ | _ | _ | _ | column <;> cases listed <;> rfl

/-- Directions are told apart by their offsets. -/
theorem Direction.offset_inj {first second : Direction} :
    first.offset = second.offset ↔ first = second := by
  cases first <;> cases second <;> decide

/-! ### Reading the grid -/

/-- What a printed grid tells about a state and a letter: a transition, by its printed action; nothing, by the
word `HALT`; and nothing, if the state is not listed. -/
inductive GridTells (grid : List (String × List (Symbol × String))) (state : String)
    (symbol : Symbol) : Option Transition → Prop where
  | rule {actions : List (Symbol × String)} {t : Transition} (listed : grid.lookup state = some actions)
      (keyed : t.key = (state, symbol))
      (printed : actions.lookup symbol = some (Table.actionText t)) : GridTells grid state symbol (some t)
  | halt {actions : List (Symbol × String)} (listed : grid.lookup state = some actions)
      (printed : actions.lookup symbol = some "HALT") : GridTells grid state symbol none
  | absent (unlisted : grid.lookup state = none) : GridTells grid state symbol none

/-- A grid with the same line for the state tells the same. -/
theorem GridTells.congr {grid other : List (String × List (Symbol × String))} {state : String}
    {symbol : Symbol} {rule : Option Transition} (tells : GridTells grid state symbol rule)
    (same : other.lookup state = grid.lookup state) : GridTells other state symbol rule := by
  cases tells with
  | rule listed keyed printed => exact GridTells.rule (same.trans listed) keyed printed
  | halt listed printed => exact GridTells.halt (same.trans listed) printed
  | absent unlisted => exact GridTells.absent (same.trans unlisted)

namespace Table

variable {table : Table} {state : String} {symbol : Symbol} {t u : Transition}

/-- The letter of a direction. -/
def directionLetter : Direction → Char
  | .left => 'L'
  | .right => 'R'

/-- A printed action consists of a letter, the letter of a direction, and the target. -/
theorem toList_actionText (t : Transition) :
    (actionText t).toList = t.write.char :: directionLetter t.move :: t.target.toList := by
  cases moves : t.move <;> simp [actionText, Symbol.text, Direction.text, directionLetter, moves]

/-- An action is printed as no other one is. -/
theorem actionText_inj :
    actionText t = actionText u ↔ t.write = u.write ∧ t.move = u.move ∧ t.target = u.target := by
  constructor
  · intro same
    have letters := congrArg String.toList same
    rw [toList_actionText, toList_actionText, List.cons.injEq, List.cons.injEq] at letters
    obtain ⟨write, move, target⟩ := letters
    refine ⟨Symbol.char_inj.mp write, ?_, String.toList_inj.mp target⟩
    cases first : t.move <;> cases second : u.move <;> simp_all [directionLetter]
  · rintro ⟨write, move, target⟩
    rw [actionText, actionText, write, move, target]

/-- No action is printed as the word for halting, which starts with no letter of the alphabet. -/
theorem actionText_ne_halt (t : Transition) : actionText t ≠ "HALT" := by
  intro same
  have letters := congrArg String.toList same
  rw [toList_actionText] at letters
  have first : t.write.char = 'H' := (List.cons.inj letters).1
  cases write : t.write <;> simp [write, Symbol.char] at first

/-! ### What is found -/

/-- A transition that is found for a state and a letter has them as its key. -/
theorem key_of_lookup (found : table.lookup state symbol.char = some t) : t.key = (state, symbol) := by
  obtain ⟨sameState, sameLetter⟩ := of_lookup_eq_some found
  exact Prod.ext sameState (Symbol.char_inj.mp sameLetter)

/-- A transition starts from a state. -/
theorem lookup_of_notMem (unknown : state ∉ table.states) (read : Char) :
    table.lookup state read = none := by
  rw [Option.eq_none_iff_forall_not_mem]
  intro t found
  apply unknown
  rw [← (of_lookup_eq_some found).1]
  exact source_mem_states (List.mem_of_find?_eq_some found)

/-- Transitions with one key that agree in what they do are the same. -/
theorem transition_ext (keyed : t.key = u.key) (write : t.write = u.write) (move : t.move = u.move)
    (target : t.target = u.target) : t = u := by
  obtain ⟨source, read, _, _, _⟩ := t
  obtain ⟨_, _, _, _, _⟩ := u
  cases keyed
  cases write
  cases move
  cases target
  rfl

/-! ### The dense form -/

section Cells

variable {row : Nat}

/-- The entries for a transition that is found. -/
theorem entries_of_found (numbered : table.states[row]? = some state)
    (found : table.lookup state symbol.char = some t) :
    Dense.value? table.dense.nextMatrix row symbol.index = some (table.states.idxOf t.target : Int) ∧
      Dense.value? table.dense.writeMatrix row symbol.index = some (t.write.index : Int) ∧
      Dense.value? table.dense.moveMatrix row symbol.index = some t.move.offset := by
  rw [Dense.nextMatrix, Dense.writeMatrix, Dense.moveMatrix, Dense.value?_matrix, Dense.value?_matrix,
    Dense.value?_matrix, dense_cell? numbered, found]
  exact ⟨rfl, rfl, rfl⟩

/-- The entry where nothing is found. -/
theorem entry_of_stuck (numbered : table.states[row]? = some state)
    (stuck : table.lookup state symbol.char = none) :
    Dense.value? table.dense.nextMatrix row symbol.index = some (-1) := by
  rw [Dense.nextMatrix, Dense.value?_matrix, dense_cell? numbered, stuck]
  rfl

/-- An entry that is not negative is the number of a target. -/
theorem exists_of_entry {column : Nat} {next : Int}
    (entry : Dense.value? table.dense.nextMatrix row column = some next) (valid : 0 ≤ next) :
    ∃ state symbol t, table.states[row]? = some state ∧ Symbol.index symbol = column ∧
      table.lookup state symbol.char = some t ∧ table.states[next.toNat]? = some t.target := by
  rw [Dense.nextMatrix, Dense.value?_matrix, dense_cell?_eq] at entry
  cases numbered : table.states[row]? with
  | none =>
      rw [numbered] at entry
      cases entry
  | some state =>
      cases listed : Symbol.all[column]? with
      | none =>
          rw [numbered, listed] at entry
          cases entry
      | some symbol =>
          rw [numbered, listed] at entry
          cases found : table.lookup state symbol.char with
          | none =>
              -- The entry of an empty cell is -1, which the assumption on the entry excludes.
              rw [Option.bind_some, Option.map_some, Option.map_some, found] at entry
              obtain rfl : -1 = next := Option.some_inj.mp entry
              exact absurd valid (by decide)
          | some t =>
              rw [Option.bind_some, Option.map_some, Option.map_some, found] at entry
              cases entry
              exact ⟨state, symbol, t, rfl, Symbol.index_of_all listed, found, states_idxOf_target found⟩

end Cells

/-- The matrices tell what a scan finds. -/
theorem tells_dense_iff {rule : Option Transition} :
    table.dense.Tells state symbol rule ↔ table.lookup state symbol.char = rule := by
  constructor
  · intro tells
    cases tells with
    | rule numbered keyed target toNext toWrite toMove =>
        cases found : table.lookup state symbol.char with
        | none =>
            rw [entry_of_stuck numbered found] at toNext
            cases toNext
        | some u =>
            obtain ⟨next, write, move⟩ := entries_of_found numbered found
            rw [next, Option.some_inj, Int.natCast_inj] at toNext
            rw [write, Option.some_inj, Int.natCast_inj, Symbol.index_inj] at toWrite
            rw [move, Option.some_inj, Direction.offset_inj] at toMove
            have sameTarget := (states_idxOf_target found).symm
            rw [toNext] at sameTarget
            have targets := Option.some_inj.mp (sameTarget.trans target)
            rw [transition_ext ((key_of_lookup found).trans keyed.symm) toWrite toMove targets]
    | empty numbered toNext =>
        cases found : table.lookup state symbol.char with
        | none => rfl
        | some u =>
            rw [(entries_of_found numbered found).1] at toNext
            cases toNext
    | absent unknown => exact lookup_of_notMem unknown symbol.char
  · intro found
    by_cases listed : state ∈ table.states
    · obtain ⟨row, numbered⟩ := List.mem_iff_getElem?.mp listed
      cases rule with
      | none => exact Dense.Tells.empty numbered (entry_of_stuck numbered found)
      | some t =>
          obtain ⟨next, write, move⟩ := entries_of_found numbered found
          exact Dense.Tells.rule numbered (key_of_lookup found) (states_idxOf_target found) next write move
    · rw [lookup_of_notMem listed] at found
      rw [← found]
      exact Dense.Tells.absent listed

/-! ### The printed grid -/

/-- What the grid prints for a state and a letter. -/
def printed (table : Table) (state : String) (symbol : Symbol) : String :=
  match table.lookup state symbol.char with
  | some t => actionText t
  | none => "HALT"

/-- The grid lists every state with what it prints for every letter. -/
theorem grid_eq (table : Table) :
    table.grid = table.states.map fun state =>
      (state, Symbol.all.map fun symbol => (symbol, table.printed state symbol)) := by
  rw [grid]
  apply List.map_congr_left
  intro state listed
  rw [Prod.mk.injEq]
  refine ⟨rfl, List.map_congr_left ?_⟩
  intro symbol member
  rw [printed, ← find?_compiled]
  cases table.compiled.find? fun entry => entry.1 == (state, symbol) <;> rfl

/-- The line of a state. -/
theorem lookup_grid (listed : state ∈ table.states) :
    table.grid.lookup state =
      some (Symbol.all.map fun symbol => (symbol, table.printed state symbol)) := by
  rw [grid_eq, List.lookup_graph _ listed]

/-- What the line of a state shows for a letter. -/
theorem lookup_line (table : Table) (state : String) (symbol : Symbol) :
    (Symbol.all.map fun other => (other, table.printed state other)).lookup symbol =
      some (table.printed state symbol) := by
  have member : symbol ∈ Symbol.all := List.mem_of_getElem? (Symbol.all_index symbol)
  rw [List.lookup_graph _ member]

/-- The grid has a line for every state only. -/
theorem lookup_grid_of_notMem (unknown : state ∉ table.states) : table.grid.lookup state = none := by
  rw [grid_eq, List.lookup_eq_none_iff]
  intro line member
  obtain ⟨other, listed, rfl⟩ := List.mem_map.mp member
  rw [bne_iff_ne]
  rintro rfl
  exact unknown listed

/-- A line of the grid shows what the grid prints for its state. -/
theorem printed_of_line {actions : List (Symbol × String)} {text : String}
    (line : table.grid.lookup state = some actions) (shown : actions.lookup symbol = some text) :
    table.printed state symbol = text := by
  by_cases listed : state ∈ table.states
  · rw [lookup_grid listed, Option.some_inj] at line
    rw [← line, lookup_line, Option.some_inj] at shown
    exact shown
  · rw [lookup_grid_of_notMem listed] at line
    cases line

/-- A printed action is that of the transition which a scan finds. -/
theorem lookup_of_printed (keyed : t.key = (state, symbol))
    (shown : table.printed state symbol = actionText t) :
    table.lookup state symbol.char = some t := by
  rw [printed] at shown
  cases found : table.lookup state symbol.char with
  | none =>
      rw [found] at shown
      exact absurd shown.symm (actionText_ne_halt t)
  | some u =>
      rw [found] at shown
      obtain ⟨write, move, target⟩ := actionText_inj.mp shown
      rw [transition_ext ((key_of_lookup found).trans keyed.symm) write move target]

/-- The word for halting is printed where a scan finds nothing. -/
theorem lookup_of_printed_halt (shown : table.printed state symbol = "HALT") :
    table.lookup state symbol.char = none := by
  rw [printed] at shown
  cases found : table.lookup state symbol.char with
  | none => rfl
  | some u =>
      rw [found] at shown
      exact absurd shown (actionText_ne_halt u)

/-- The grid tells what a scan finds. -/
theorem tells_grid_iff {rule : Option Transition} :
    GridTells table.grid state symbol rule ↔ table.lookup state symbol.char = rule := by
  constructor
  · intro tells
    cases tells with
    | rule line keyed shown => exact lookup_of_printed keyed (printed_of_line line shown)
    | halt line shown => exact lookup_of_printed_halt (printed_of_line line shown)
    | absent unlisted =>
        apply lookup_of_notMem
        intro listed
        rw [lookup_grid listed] at unlisted
        cases unlisted
  · intro found
    by_cases listed : state ∈ table.states
    · have shown := lookup_line table state symbol
      rw [printed, found] at shown
      cases rule with
      | none => exact GridTells.halt (lookup_grid listed) shown
      | some t => exact GridTells.rule (lookup_grid listed) (key_of_lookup found) shown
    · rw [lookup_of_notMem listed] at found
      rw [← found]
      exact GridTells.absent (lookup_grid_of_notMem listed)

/-- A character that is no letter is read by no transition. -/
theorem lookup_of_noLetter {read : Char} (noLetter : ∀ symbol : Symbol, symbol.char ≠ read)
    (table : Table) (state : String) : table.lookup state read = none := by
  rw [Option.eq_none_iff_forall_not_mem]
  intro t found
  exact noLetter t.read (of_lookup_eq_some found).2

/-- Programs with the same grid find the same transitions. -/
theorem lookup_of_grid {other : Table}
    (same : ∀ state, other.grid.lookup state = table.grid.lookup state) (state : String) (read : Char) :
    other.lookup state read = table.lookup state read := by
  by_cases letter : ∃ symbol : Symbol, symbol.char = read
  · obtain ⟨symbol, rfl⟩ := letter
    exact tells_grid_iff.mp ((tells_grid_iff.mpr rfl).congr (same state))
  · have noLetter : ∀ symbol : Symbol, symbol.char ≠ read := not_exists.mp letter
    rw [lookup_of_noLetter noLetter, lookup_of_noLetter noLetter]

/-- The four forms of a program agree.  Every state is listed once, the start state first, and sources
and targets are states.  For any state name and letter, the scan, the dictionary, the matrices and the
grid give the same transition, or none of them gives one.  An entry of the matrices that is not negative
is the number of the target of the transition that a scan finds there.  And programs with the same grid
find the same, and run every machine alike. -/
theorem forms_agree (table : Table) :
    (table.states.Nodup ∧ table.states.head? = some startState ∧
        ∀ t ∈ table.transitions, t.source ∈ table.states ∧ t.target ∈ table.states) ∧
      (∀ (state : String) (symbol : Symbol) (rule : Option Transition), List.TFAE [
        table.lookup state symbol.char = rule,
        table.fires (state, symbol) = rule,
        table.dense.Tells state symbol rule,
        GridTells table.grid state symbol rule]) ∧
      (∀ row column next, Dense.value? table.dense.nextMatrix row column = some next → 0 ≤ next →
        ∃ state symbol t, table.states[row]? = some state ∧ Symbol.index symbol = column ∧
          table.lookup state symbol.char = some t ∧ table.states[next.toNat]? = some t.target) ∧
      ∀ other : Table, (∀ state, other.grid.lookup state = table.grid.lookup state) →
        (∀ state read, other.lookup state read = table.lookup state read) ∧
          ∀ (m : Machine) (budget : Nat), m.run other budget = m.run table budget ∧
            m.events other budget = m.events table budget := by
  refine ⟨⟨nodup_states table, ?_, ?_⟩, ?_, ?_, ?_⟩
  · rw [List.head?_eq_getElem?, states_zero]
  · intro t member
    exact ⟨source_mem_states member, target_mem_states member⟩
  · intro state symbol rule
    tfae_have 1 ↔ 2 := by rw [fires, find?_compiled]
    tfae_have 3 ↔ 1 := tells_dense_iff
    tfae_have 4 ↔ 1 := tells_grid_iff
    tfae_finish
  · intro row column next entry valid
    exact exists_of_entry entry valid
  · intro other same
    have alike := lookup_of_grid same
    exact ⟨alike, fun m budget =>
      ⟨Machine.run_congr alike budget m, Machine.events_congr alike budget m⟩⟩

/-- A program with one transition. -/
def walking : Table :=
  ⟨[{ source := "q0", read := .number, target := "q0", write := .split, move := .right }]⟩

/-- The same program with a second transition behind the first, for the same state and letter. -/
def hesitating : Table :=
  ⟨walking.transitions ++
    [{ source := "q0", read := .number, target := "q0", write := .blank, move := .left }]⟩

/-- The two programs differ, but they are printed alike, so they run alike. -/
theorem forms_agree_walking :
    hesitating ≠ walking ∧ hesitating.grid = walking.grid ∧
      walking.dense.Tells "q0" .number walking.transitions.head? ∧
      ∀ (m : Machine) (budget : Nat), m.run hesitating budget = m.run walking budget := by
  obtain ⟨-, agree, -, alike⟩ := forms_agree walking
  have same : hesitating.grid = walking.grid := by decide
  refine ⟨by decide, same, ?_, ?_⟩
  · exact ((agree "q0" .number walking.transitions.head?).out 0 2).mp (by decide)
  · intro m budget
    have sameLines : ∀ state, hesitating.grid.lookup state = walking.grid.lookup state := by
      intro state
      rw [same]
    exact ((alike hesitating sameLines).2 m budget).1

end Table

end TapeMultiplier
