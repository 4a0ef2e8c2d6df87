/-
Module: TapeMultiplier.Proofs.Dense
Layer: Proofs
Purpose: The dense form of a program says what its table says.  The dictionary behind it keeps the first
  transition of every key, which is the one that a scan of the table finds, and rows are numbered by the
  list of states, in which every target occurs.
Main exports: Table.find?_compiled, Table.source_mem_states, Table.target_mem_states, Table.nodup_states,
  Table.dense_cell?_eq
-/
import TapeMultiplier.Dense

namespace TapeMultiplier

/-- Every letter stands in the alphabet at the place of its column. -/
theorem Symbol.all_index (symbol : Symbol) : Symbol.all[symbol.index]? = some symbol := by
  cases symbol <;> rfl

namespace Table

/-! ### The dictionary -/

section Dictionary

variable {α β : Type}

/-- Add an item to a dictionary under a key, unless the key is taken. -/
def insertFresh (dictionary : List (Transition.Key × β)) (key : Transition.Key) (item : β) :
    List (Transition.Key × β) :=
  if dictionary.any fun entry => entry.1 == key then dictionary else dictionary ++ [(key, item)]

/-- Adding an item changes what is found for its own key only, and only if nothing was there. -/
theorem find?_insertFresh (dictionary : List (Transition.Key × β)) (own : Transition.Key) (item : β)
    (key : Transition.Key) :
    (insertFresh dictionary own item).find? (fun entry => entry.1 == key) =
      (dictionary.find? fun entry => entry.1 == key).or
        (if own == key then some (own, item) else none) := by
  rw [insertFresh]
  split
  next taken =>
    -- The key is taken, so an item for it is found before the new one is asked for.
    by_cases same : own = key
    · subst same
      obtain ⟨entry, member, equal⟩ := List.any_eq_true.1 taken
      have found : (dictionary.find? fun entry => entry.1 == own).isSome :=
        List.find?_isSome.2 ⟨entry, member, equal⟩
      rw [Option.or_of_isSome found]
    · simp [same]
  next free =>
    rw [List.find?_append]
    by_cases same : own == key
    · simp [same]
    · simp [same]

/-- What is found in a dictionary after further items. -/
theorem find?_foldl_insertFresh (keyOf : α → Transition.Key) (itemOf : α → β) (items : List α)
    (dictionary : List (Transition.Key × β)) (key : Transition.Key) :
    (items.foldl (fun known item => insertFresh known (keyOf item) (itemOf item)) dictionary).find?
        (fun entry => entry.1 == key) =
      (dictionary.find? fun entry => entry.1 == key).or
        ((items.find? fun item => keyOf item == key).map fun item => (keyOf item, itemOf item)) := by
  induction items generalizing dictionary with
  | nil => simp
  | cons item rest ih =>
      rw [List.foldl_cons, ih, find?_insertFresh, Option.or_assoc, List.find?_cons]
      by_cases same : keyOf item == key
      · simp [same]
      · simp [same]

end Dictionary

/-- The dictionary of transitions has every transition as the item of its key. -/
theorem compiled_eq_foldl (table : Table) :
    table.compiled = table.transitions.foldl (fun known t => insertFresh known t.key t) [] := rfl

/-- A scan for a state and the character of a letter is a search for their key. -/
theorem lookup_char (table : Table) (state : String) (symbol : Symbol) :
    table.lookup state symbol.char = table.transitions.find? fun t => t.key == (state, symbol) := by
  have agree : (fun t : Transition => t.source == state && t.read.char == symbol.char) =
      fun t => t.key == (state, symbol) := by
    funext t
    rw [Bool.eq_iff_iff]
    simp [Transition.key, Symbol.char_inj]
  rw [lookup, agree]

/-- The dictionary holds, for every key, the transition that a scan of the table finds. -/
theorem find?_compiled (table : Table) (state : String) (symbol : Symbol) :
    (table.compiled.find? fun entry => entry.1 == (state, symbol)).map (·.2) =
      table.lookup state symbol.char := by
  rw [compiled_eq_foldl, find?_foldl_insertFresh, lookup_char]
  cases table.transitions.find? fun t => t.key == (state, symbol) <;> rfl

/-! ### The states -/

/-- The names that are known stay known. -/
theorem mem_insertState {seen : List String} {name state : String} :
    name ∈ insertState seen state ↔ name ∈ seen ∨ name = state := by
  rw [insertState]
  split
  next known =>
    constructor
    · exact Or.inl
    · rintro (old | rfl)
      · exact old
      · exact known
  next fresh => simp

/-- The names after further transitions: those that were known, and those of the transitions. -/
theorem mem_foldl_insertState (transitions : List Transition) (seen : List String) (name : String) :
    name ∈ transitions.foldl
        (fun seen t => insertState (insertState seen t.source) t.target) seen ↔
      name ∈ seen ∨ ∃ t ∈ transitions, name = t.source ∨ name = t.target := by
  induction transitions generalizing seen with
  | nil => simp
  | cons t rest ih =>
      rw [List.foldl_cons, ih, mem_insertState, mem_insertState]
      simp only [List.mem_cons, exists_eq_or_imp, or_assoc]

/-- Every state that a transition starts from is a state. -/
theorem source_mem_states {table : Table} {t : Transition} (member : t ∈ table.transitions) :
    t.source ∈ table.states :=
  (mem_foldl_insertState _ _ _).2 (Or.inr ⟨t, member, Or.inl rfl⟩)

/-- Every target of a transition is a state. -/
theorem target_mem_states {table : Table} {t : Transition} (member : t ∈ table.transitions) :
    t.target ∈ table.states :=
  (mem_foldl_insertState _ _ _).2 (Or.inr ⟨t, member, Or.inr rfl⟩)

/-- A name that is added was not known. -/
theorem nodup_insertState {seen : List String} (distinct : seen.Nodup) (state : String) :
    (insertState seen state).Nodup := by
  rw [insertState]
  split
  · exact distinct
  next fresh =>
    rw [List.nodup_append]
    refine ⟨distinct, List.pairwise_singleton _ state, ?_⟩
    intro name known other single same
    rw [same, List.mem_singleton.1 single] at known
    exact fresh known

/-- The names stay distinct. -/
theorem nodup_foldl_insertState (transitions : List Transition) {seen : List String}
    (distinct : seen.Nodup) :
    (transitions.foldl (fun seen t => insertState (insertState seen t.source) t.target) seen).Nodup := by
  induction transitions generalizing seen with
  | nil => exact distinct
  | cons t rest ih =>
      rw [List.foldl_cons]
      exact ih (nodup_insertState (nodup_insertState distinct t.source) t.target)

/-- No state is listed twice. -/
theorem nodup_states (table : Table) : table.states.Nodup :=
  nodup_foldl_insertState table.transitions (List.pairwise_singleton _ startState)

/-- New names go to the end. -/
theorem states_extend (seen : List String) (state : String) :
    seen <+: insertState seen state := by
  rw [insertState]
  split
  · exact List.prefix_rfl
  · exact List.prefix_append seen [state]

/-- The names that are known keep their numbers. -/
theorem states_extend_foldl (transitions : List Transition) (seen : List String) :
    seen <+: transitions.foldl
      (fun seen t => insertState (insertState seen t.source) t.target) seen := by
  induction transitions generalizing seen with
  | nil => exact List.prefix_rfl
  | cons t rest ih =>
      rw [List.foldl_cons]
      exact ((states_extend seen t.source).trans (states_extend _ t.target)).trans (ih _)

/-- The start state has the number zero. -/
theorem states_zero (table : Table) : table.states[0]? = some startState := by
  obtain ⟨rest, equal⟩ := states_extend_foldl table.transitions [startState]
  rw [states, ← equal]
  rfl

/-- The number of the target of a transition that fires leads back to the target. -/
theorem states_idxOf_target {table : Table} {state : String} {c : Char} {t : Transition}
    (found : table.lookup state c = some t) :
    table.states[table.states.idxOf t.target]? = some t.target := by
  have member : t.target ∈ table.states := target_mem_states (List.mem_of_find?_eq_some found)
  rw [List.getElem?_eq_getElem (List.idxOf_lt_length_iff.2 member), List.getElem_idxOf]

/-! ### The cells -/

/-- The cells are those of the states and the letters, and each holds the action of the transition that
fires. -/
theorem dense_cell?_eq (table : Table) (row column : Nat) :
    table.dense.cell? row column =
      table.states[row]?.bind fun state => Symbol.all[column]?.map fun symbol =>
        (table.lookup state symbol.char).map (actionOf table.states) := by
  rw [Dense.cell?, dense]
  simp only [List.getElem?_toArray, List.getElem?_map, Option.bind_eq_bind, ← find?_compiled,
    Option.map_map]
  cases table.states[row]? with
  | none => rfl
  | some state =>
      simp only [Option.map_some, Option.bind_some, List.getElem?_toArray, List.getElem?_map]
      rfl

/-- The cell of a state and a letter holds the action of the transition that fires. -/
theorem dense_cell? {table : Table} {row : Nat} {state : String}
    (numbered : table.states[row]? = some state) (symbol : Symbol) :
    table.dense.cell? row symbol.index =
      some ((table.lookup state symbol.char).map (actionOf table.states)) := by
  rw [dense_cell?_eq, numbered, Symbol.all_index, Option.bind_some, Option.map_some]

end Table

end TapeMultiplier
