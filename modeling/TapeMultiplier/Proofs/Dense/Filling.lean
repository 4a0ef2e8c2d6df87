/-
Module: TapeMultiplier.Proofs.Dense.Filling
Layer: Proofs
Purpose: The arrays that are filled entry by entry from the dictionary hold what the dense form of the
  program holds.  An entry changes the cell of its own key only, and no two entries have one key.
Main exports: Matrices.tabulated, Matrices.put_tabulated, Matrices.foldl_put_tabulated,
  Table.filled_eq_dense
-/
import Mathlib.Data.List.Nodup
import TapeMultiplier.Proofs.Table.Shadowing

namespace TapeMultiplier

/-! ### Arrays given by a function

A cell is named by its key, so an array is a function of keys, and to put a number in a cell is to update the
function at a key.
-/

namespace Matrices

variable {states : List String}

/-- The array with a row for each state and a column for each letter that holds a number for every key. -/
def tabulated (states : List String) (number : Transition.Key → Int) : Array (Array Int) :=
  (states.map fun state => (Symbol.all.map fun symbol => number (state, symbol)).toArray).toArray

/-- One number everywhere. -/
theorem replicate_eq_tabulated (states : List String) (number : Int) :
    Array.replicate states.length (Array.replicate Symbol.all.length number) =
      tabulated states fun _ => number := by
  rw [tabulated, List.map_const', List.map_const', List.toArray_replicate, List.toArray_replicate]

/-- A number that is put in a row changes the number of one letter. -/
theorem set_row (number : Symbol → Int) (symbol : Symbol) (new : Int) :
    (Symbol.all.map number).set symbol.index new =
      Symbol.all.map (Function.update number symbol new) := by
  have distinct : Symbol.all.Nodup := by decide
  have member : symbol ∈ Symbol.all := List.mem_of_getElem? (Symbol.all_index symbol)
  have place : Symbol.all.idxOf symbol = symbol.index := by cases symbol <;> rfl
  rw [distinct.map_update, if_pos member, place]

/-- A number that is put in the cell of a key changes the number of that key only. -/
theorem put_tabulated (distinct : states.Nodup) (number : Transition.Key → Int) {key : Transition.Key}
    (member : key.1 ∈ states) (new : Int) :
    put (tabulated states number) (states.idxOf key.1) key.2.index new =
      tabulated states (Function.update number key new) := by
  obtain ⟨own, symbol⟩ := key
  have rows : (fun state => (Symbol.all.map fun read =>
        Function.update number (own, symbol) new (state, read)).toArray) =
      Function.update (fun state => (Symbol.all.map fun read => number (state, read)).toArray) own
        ((Symbol.all.map fun read => number (own, read)).set symbol.index new).toArray := by
    funext state
    by_cases same : state = own
    · subst same
      rw [Function.update_self, set_row]
      congr 2
      funext read
      simp [Function.update_apply]
    · simp [same]
  have place : states[states.idxOf own]? = some own := by
    rw [List.getElem?_eq_getElem (List.idxOf_lt_length_iff.mpr member), List.getElem_idxOf]
  rw [put, tabulated, tabulated, rows, distinct.map_update, if_pos member, List.modify_toArray,
    List.modify_eq_set_getElem?, List.getElem?_map, place]
  simp only [Option.map_some, Option.map_eq_map, Option.getD_some, List.setIfInBounds_toArray]

/-- Entries with distinct keys that are put in one after the other: a cell holds the number of the entry
for its key, if there is one. -/
theorem foldl_put_tabulated (distinct : states.Nodup) (value : Transition → Int)
    {entries : List (Transition.Key × Transition)} (fresh : (entries.map (·.1)).Nodup)
    (members : ∀ entry ∈ entries, entry.1.1 ∈ states) (number : Transition.Key → Int) :
    entries.foldl (fun cells entry =>
        put cells (states.idxOf entry.1.1) entry.1.2.index (value entry.2))
        (tabulated states number) =
      tabulated states fun key =>
        ((entries.find? fun entry => entry.1 == key).map fun entry => value entry.2).getD (number key) := by
  induction entries generalizing number with
  | nil => rfl
  | cons entry rest ih =>
      rw [List.map_cons, List.nodup_cons] at fresh
      obtain ⟨member, later⟩ := List.forall_mem_cons.mp members
      rw [List.foldl_cons, put_tabulated distinct number member, ih fresh.2 later]
      congr 1
      funext key
      rw [List.find?_cons]
      by_cases same : entry.1 = key
      · -- No later entry has the key, so the number that was put in stays.
        subst same
        have none : rest.find? (fun other => other.1 == entry.1) = none := by
          rw [List.find?_eq_none]
          intro other later again
          exact fresh.1 (List.mem_map.mpr ⟨other, later, beq_iff_eq.mp again⟩)
        simp [none]
      · have other : (entry.1 == key) = false := beq_eq_false_iff_ne.mpr same
        rw [other, Function.update_of_ne (Ne.symm same)]

end Matrices

namespace Table

open Matrices (tabulated replicate_eq_tabulated foldl_put_tabulated)

/-- The arrays are filled independently of each other. -/
theorem foldl_enter (states : List String) (entries : List (Transition.Key × Transition))
    (arrays : Matrices) :
    entries.foldl (fun arrays entry =>
        arrays.enter (states.idxOf entry.1.1) entry.1.2.index (actionOf states entry.2)) arrays =
      { next := entries.foldl (fun cells entry => Matrices.put cells (states.idxOf entry.1.1)
          entry.1.2.index (actionOf states entry.2).next) arrays.next
        write := entries.foldl (fun cells entry => Matrices.put cells (states.idxOf entry.1.1)
          entry.1.2.index (actionOf states entry.2).write) arrays.write
        move := entries.foldl (fun cells entry => Matrices.put cells (states.idxOf entry.1.1)
          entry.1.2.index (actionOf states entry.2).move.offset) arrays.move } := by
  induction entries generalizing arrays with
  | nil => rfl
  | cons entry rest ih => exact ih (arrays.enter _ _ _)

/-- The dictionary has one entry for a key. -/
theorem nodup_keys_compiled (table : Table) : (table.compiled.map (·.1)).Nodup := by
  rw [compiled_eq_map, List.map_map]
  exact nodup_keys_unshadowed table

/-- The entries of the dictionary are for states of the table. -/
theorem mem_states_of_mem_compiled {table : Table} {entry : Transition.Key × Transition}
    (member : entry ∈ table.compiled) : entry.1.1 ∈ table.states := by
  rw [compiled_eq_map] at member
  obtain ⟨t, unshadowed, rfl⟩ := List.mem_map.mp member
  have found : table.lookup t.source t.read.char = some t := by
    rw [← lookup_unshadowed, lookup_eq_some_iff (nodup_keys_unshadowed table)]
    exact ⟨unshadowed, rfl, rfl⟩
  exact source_mem_states (List.mem_of_find?_eq_some found)

/-- The array that is filled with the numbers of the actions, from the number of an empty cell on, has
those of the dense form. -/
theorem foldl_put_compiled (table : Table) (number : Option Action → Int) :
    (table.compiled.foldl (fun cells entry =>
        Matrices.put cells (table.states.idxOf entry.1.1) entry.1.2.index
          (number (some (actionOf table.states entry.2))))
        (Array.replicate table.states.length
          (Array.replicate Symbol.all.length (number none)))).toList.map Array.toList =
      table.dense.matrix number := by
  have filled := foldl_put_tabulated (nodup_states table)
    (fun t => number (some (actionOf table.states t))) (nodup_keys_compiled table)
    (fun entry member => mem_states_of_mem_compiled member) fun _ => number none
  have gathered : ∀ key,
      ((table.compiled.find? fun entry => entry.1 == key).map fun entry =>
          number (some (actionOf table.states entry.2))).getD (number none) =
        number ((table.compiled.find? fun entry => entry.1 == key).map fun entry =>
          actionOf table.states entry.2) := by
    intro key
    cases table.compiled.find? fun entry => entry.1 == key <;> rfl
  rw [replicate_eq_tabulated, filled]
  simp only [gathered, Dense.matrix, dense, tabulated, List.map_map, Function.comp_def]

/-- The arrays that are filled from the dictionary are those of the dense form. -/
theorem filled_eq_dense (table : Table) :
    table.filled.next.toList.map Array.toList = table.dense.nextMatrix ∧
      table.filled.write.toList.map Array.toList = table.dense.writeMatrix ∧
      table.filled.move.toList.map Array.toList = table.dense.moveMatrix := by
  rw [filled, foldl_enter, Dense.nextMatrix, Dense.writeMatrix, Dense.moveMatrix]
  simp only [← foldl_put_compiled]
  exact ⟨rfl, rfl, rfl⟩

end Table

end TapeMultiplier
