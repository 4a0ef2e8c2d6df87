/-
Module: TapeMultiplier.Proofs.Table.Shadowing
Layer: Proofs
Purpose: The shadowed transitions of a table are exactly those that never fire.  Without them the keys are
  distinct, so the order of the others is of no account either: lookups and runs stay the same.
Main exports: Table.holds, Table.split_eq_filter, Table.compiled_eq_map, Table.nodup_keys_unshadowed,
  Table.lookup_unshadowed, Table.lookup_eq_some_iff, Table.lookup_of_perm, Table.unshadowed_runs_alike
-/
import Mathlib.Data.List.Nodup
import TapeMultiplier.Proofs.Dense
import TapeMultiplier.Proofs.Machine.Run

namespace TapeMultiplier

/-!
A transition is shadowed if the dictionary of the table holds another transition for its key.  An equal one is
another one here, so a transition is told by its place: the dictionary of places is filled in the same way as
the dictionary of transitions, and it holds a transition if it leads from its key to its own place.
-/

namespace Table

/-- The place that the dictionary of places has for a key. -/
def holder (table : Table) (key : Transition.Key) : Option Nat :=
  let places := table.transitions.zipIdx.foldl
    (fun known entry => insertFresh known entry.1.key entry.2) []
  (places.find? fun entry => entry.1 == key).map (·.2)

/-- Whether the dictionary holds the transition at a place for its key, and no other one. -/
def holds (table : Table) (entry : Transition × Nat) : Bool :=
  table.holder entry.1.key == some entry.2

/-- The dictionary of places has the first place of every key. -/
theorem holder_eq (table : Table) (key : Transition.Key) :
    table.holder key = table.transitions.findIdx? fun t => t.key == key := by
  rw [holder, find?_foldl_insertFresh, List.find?_nil, Option.none_or, Option.map_map,
    List.findIdx?_eq_fst_find?_zipIdx]
  rfl

/-- The place of a key is that of the transition which the dictionary of transitions holds for it. -/
theorem fires_eq (table : Table) (key : Transition.Key) :
    table.fires key = (table.holder key).bind fun place => table.transitions[place]? := by
  obtain ⟨state, symbol⟩ := key
  rw [fires, find?_compiled, lookup_char, holder_eq, List.find?_eq_bind_findIdx?_getElem?]

/-! ### Transitions after others

`seen` has the keys of the transitions that came before.
-/

section After

variable {before transitions : List Transition} {seen : List Transition.Key}

/-- A key that was seen is seen after its second occurrence. -/
theorem known_of_taken {keys : List Transition.Key} (known : ∀ key, key ∈ seen ↔ key ∈ keys)
    {again : Transition.Key} (taken : again ∈ seen) : ∀ key, key ∈ seen ↔ key ∈ keys ++ [again] := by
  intro key
  rw [List.mem_append, ← known, List.mem_singleton]
  constructor
  · exact Or.inl
  · intro either
    rcases either with old | rfl
    · exact old
    · exact taken

/-- A new key is seen after its first occurrence. -/
theorem known_of_free {keys : List Transition.Key} (known : ∀ key, key ∈ seen ↔ key ∈ keys)
    (new : Transition.Key) : ∀ key, key ∈ new :: seen ↔ key ∈ keys ++ [new] := by
  intro key
  rw [List.mem_append, ← known, List.mem_singleton, List.mem_cons, or_comm]

/-- A transition is held if its key was not seen before it. -/
theorem holds_next (known : ∀ key, key ∈ seen ↔ key ∈ before.map Transition.key) (t : Transition)
    (rest : List Transition) :
    holds ⟨before ++ t :: rest⟩ (t, before.length) = decide (t.key ∉ seen) := by
  rw [holds, holder_eq, Bool.eq_iff_iff, beq_iff_eq, decide_eq_true_iff, known, List.findIdx?_append]
  by_cases taken : t.key ∈ before.map Transition.key
  · obtain ⟨u, member, same⟩ := List.mem_map.mp taken
    have earlier : ∃ u ∈ before, (u.key == t.key) = true := ⟨u, member, beq_iff_eq.mpr same⟩
    have first := List.findIdx_lt_length_of_exists earlier
    rw [List.findIdx?_eq_some_of_exists earlier, Option.some_or, Option.some_inj]
    exact ⟨fun equal => absurd equal (Nat.ne_of_lt first), fun free => absurd taken free⟩
  · have missing : before.findIdx? (fun u => u.key == t.key) = none := by
      rw [List.findIdx?_eq_none_iff]
      intro u member
      rw [beq_eq_false_iff_ne]
      intro same
      exact taken (List.mem_map.mpr ⟨u, member, same⟩)
    simp [missing, taken, List.findIdx?_cons]

/-- The shadowed transitions are those that the dictionary does not hold, and the others are those that it
holds. -/
theorem split_eq_filter (known : ∀ key, key ∈ seen ↔ key ∈ before.map Transition.key)
    (rest : List Transition) :
    shadowedAfter seen rest = ((rest.zipIdx before.length).filter fun entry =>
        !holds ⟨before ++ rest⟩ entry).map (·.1) ∧
      unshadowedAfter seen rest = ((rest.zipIdx before.length).filter fun entry =>
        holds ⟨before ++ rest⟩ entry).map (·.1) := by
  induction rest generalizing before seen with
  | nil => exact ⟨rfl, rfl⟩
  | cons t rest ih =>
      have held := holds_next known t rest
      -- The transition at hand goes over to those that came before.
      have whole : before ++ t :: rest = (before ++ [t]) ++ rest := by
        rw [List.append_assoc, List.singleton_append]
      have counted : before.length + 1 = (before ++ [t]).length := by
        rw [List.length_append, List.length_singleton]
      rw [List.zipIdx_cons, shadowedAfter, unshadowedAfter]
      by_cases taken : t.key ∈ seen
      · have knownAfter : ∀ key, key ∈ seen ↔ key ∈ (before ++ [t]).map Transition.key := by
          rw [List.map_append]
          exact known_of_taken known taken
        obtain ⟨shadowed, unshadowed⟩ := ih knownAfter
        simp only [List.filter_cons, held, taken, not_true_eq_false, decide_false,
          Bool.not_false, if_true, Bool.false_eq_true, if_false, List.map_cons]
        rw [whole, counted, ← shadowed, ← unshadowed]
        exact ⟨rfl, rfl⟩
      · have knownAfter : ∀ key, key ∈ t.key :: seen ↔ key ∈ (before ++ [t]).map Transition.key := by
          rw [List.map_append]
          exact known_of_free known t.key
        obtain ⟨shadowed, unshadowed⟩ := ih knownAfter
        simp only [List.filter_cons, held, taken, not_false_eq_true, decide_true,
          Bool.not_true, if_true, Bool.false_eq_true, if_false, List.map_cons]
        rw [whole, counted, ← shadowed, ← unshadowed]
        exact ⟨rfl, rfl⟩

/-- Every transition is shadowed or it is not. -/
theorem length_split (seen : List Transition.Key) (transitions : List Transition) :
    (unshadowedAfter seen transitions).length + (shadowedAfter seen transitions).length =
      transitions.length := by
  induction transitions generalizing seen with
  | nil => rfl
  | cons t rest ih =>
      rw [unshadowedAfter, shadowedAfter]
      split
      · rw [List.length_cons, List.length_cons, ← ih seen, Nat.add_assoc]
      · rw [List.length_cons, List.length_cons, ← ih (t.key :: seen), Nat.add_right_comm]

/-- The dictionary takes in the transitions that are not shadowed, in order. -/
theorem foldl_insertNew {dictionary : List (Transition.Key × Transition)}
    (known : ∀ key, key ∈ seen ↔ key ∈ dictionary.map (·.1)) (transitions : List Transition) :
    transitions.foldl insertNew dictionary =
      dictionary ++ (unshadowedAfter seen transitions).map fun t => (t.key, t) := by
  induction transitions generalizing dictionary seen with
  | nil => exact (List.append_nil dictionary).symm
  | cons t rest ih =>
      have asked : (dictionary.any fun entry => entry.1 == t.key) = decide (t.key ∈ seen) := by
        rw [Bool.eq_iff_iff, decide_eq_true_iff, known, List.any_eq_true, List.mem_map]
        simp only [beq_iff_eq]
      rw [List.foldl_cons, insertNew, asked, unshadowedAfter]
      by_cases taken : t.key ∈ seen
      · simp only [taken, decide_true, if_true]
        exact ih known
      · have knownAfter : ∀ key, key ∈ t.key :: seen ↔
            key ∈ (dictionary ++ [(t.key, t)]).map (·.1) := by
          rw [List.map_append]
          exact known_of_free known t.key
        simp only [taken, decide_false, Bool.false_eq_true, if_false]
        rw [ih knownAfter, List.map_cons, List.append_assoc, List.singleton_append]

/-- The transitions that are not shadowed have new keys. -/
theorem key_notMem_of_mem_unshadowedAfter {t : Transition}
    (member : t ∈ unshadowedAfter seen transitions) : t.key ∉ seen := by
  induction transitions generalizing seen with
  | nil => cases member
  | cons u rest ih =>
      rw [unshadowedAfter] at member
      split at member
      · exact ih member
      next free =>
        rcases List.mem_cons.mp member with rfl | later
        · exact free
        · intro taken
          exact ih later (List.mem_cons_of_mem u.key taken)

/-- The transitions that are not shadowed have distinct keys. -/
theorem nodup_keys_unshadowedAfter (seen : List Transition.Key) (transitions : List Transition) :
    ((unshadowedAfter seen transitions).map Transition.key).Nodup := by
  induction transitions generalizing seen with
  | nil => exact List.nodup_nil
  | cons t rest ih =>
      rw [unshadowedAfter]
      split
      · exact ih seen
      · rw [List.map_cons, List.nodup_cons]
        refine ⟨?_, ih (t.key :: seen)⟩
        intro again
        obtain ⟨u, member, same⟩ := List.mem_map.mp again
        apply key_notMem_of_mem_unshadowedAfter member
        rw [same]
        exact List.mem_cons_self

/-- Of transitions with distinct new keys none is shadowed. -/
theorem split_of_nodup (distinct : (transitions.map Transition.key).Nodup)
    (fresh : ∀ t ∈ transitions, t.key ∉ seen) :
    shadowedAfter seen transitions = [] ∧ unshadowedAfter seen transitions = transitions := by
  induction transitions generalizing seen with
  | nil => exact ⟨rfl, rfl⟩
  | cons t rest ih =>
      rw [List.map_cons, List.nodup_cons] at distinct
      have freshAfter : ∀ u ∈ rest, u.key ∉ t.key :: seen := by
        intro u member again
        rcases List.mem_cons.mp again with same | taken
        · exact distinct.1 (List.mem_map.mpr ⟨u, member, same⟩)
        · exact fresh u (List.mem_cons_of_mem t member) taken
      have free : t.key ∉ seen := fresh t List.mem_cons_self
      obtain ⟨shadowed, unshadowed⟩ := ih distinct.2 freshAfter
      rw [shadowedAfter, unshadowedAfter, if_neg free, if_neg free, unshadowed]
      exact ⟨shadowed, rfl⟩

/-- A search for a key that was not seen finds the same without the shadowed transitions. -/
theorem find?_unshadowedAfter {test : Transition.Key → Bool} (unseen : ∀ key ∈ seen, test key = false)
    (transitions : List Transition) :
    (unshadowedAfter seen transitions).find? (fun t => test t.key) =
      transitions.find? fun t => test t.key := by
  induction transitions generalizing seen with
  | nil => rfl
  | cons t rest ih =>
      rw [unshadowedAfter, List.find?_cons]
      cases wanted : test t.key with
      | true =>
          have free : t.key ∉ seen := by
            intro taken
            rw [unseen t.key taken] at wanted
            cases wanted
          rw [if_neg free, List.find?_cons, wanted]
      | false =>
          split
          · exact ih unseen
          · have unseenAfter : ∀ key ∈ t.key :: seen, test key = false :=
              List.forall_mem_cons.mpr ⟨wanted, unseen⟩
            rw [List.find?_cons, wanted]
            exact ih unseenAfter

end After

/-! ### The table without its shadowed transitions -/

variable {table other : Table}

/-- The dictionary consists of the transitions that are not shadowed, under their keys. -/
theorem compiled_eq_map (table : Table) :
    table.compiled = table.unshadowed.transitions.map fun t => (t.key, t) := by
  have nothing : ∀ key, key ∈ ([] : List Transition.Key) ↔
      key ∈ ([] : List (Transition.Key × Transition)).map (·.1) := fun _ => Iff.rfl
  rw [compiled, foldl_insertNew nothing, List.nil_append, unshadowed]

theorem nodup_keys_unshadowed (table : Table) :
    (table.unshadowed.transitions.map Transition.key).Nodup :=
  nodup_keys_unshadowedAfter [] table.transitions

/-- A table with distinct keys has no shadowed transitions. -/
theorem unshadowed_of_nodup (distinct : (table.transitions.map Transition.key).Nodup) :
    table.shadowed = [] ∧ table.unshadowed = table := by
  have fresh : ∀ t ∈ table.transitions, t.key ∉ ([] : List Transition.Key) :=
    fun t _ => List.not_mem_nil
  obtain ⟨shadowed, unshadowed⟩ := split_of_nodup distinct fresh
  refine ⟨shadowed, ?_⟩
  rw [Table.unshadowed, unshadowed]

/-- A scan finds the same without the shadowed transitions. -/
theorem lookup_unshadowed (table : Table) (state : String) (read : Char) :
    table.unshadowed.lookup state read = table.lookup state read := by
  have unseen : ∀ key ∈ ([] : List Transition.Key),
      (fun key : Transition.Key => key.1 == state && key.2.char == read) key = false :=
    fun key member => absurd member List.not_mem_nil
  exact find?_unshadowedAfter unseen table.transitions

/-- With distinct keys, a scan finds the one transition for the state and the character. -/
theorem lookup_eq_some_iff (distinct : (table.transitions.map Transition.key).Nodup) {state : String}
    {read : Char} {t : Transition} :
    table.lookup state read = some t ↔
      t ∈ table.transitions ∧ t.source = state ∧ t.read.char = read := by
  constructor
  · intro found
    exact ⟨List.mem_of_find?_eq_some found, of_lookup_eq_some found⟩
  · intro fitting
    rcases fitting with ⟨member, rfl, rfl⟩
    have present : (table.lookup t.source t.read.char).isSome := by
      rw [lookup, List.find?_isSome]
      exact ⟨t, member, by simp⟩
    obtain ⟨u, found⟩ := Option.isSome_iff_exists.mp present
    obtain ⟨sameState, sameLetter⟩ := of_lookup_eq_some found
    have same : u.key = t.key := Prod.ext sameState (Symbol.char_inj.mp sameLetter)
    rw [found, List.inj_on_of_nodup_map distinct (List.mem_of_find?_eq_some found) member same]

/-- With distinct keys, the order of the transitions is of no account. -/
theorem lookup_of_perm (distinct : (table.transitions.map Transition.key).Nodup)
    (reordered : other.transitions.Perm table.transitions) (state : String) (read : Char) :
    other.lookup state read = table.lookup state read := by
  have distinctAfter : (other.transitions.map Transition.key).Nodup :=
    (reordered.map Transition.key).nodup_iff.mpr distinct
  apply Option.ext
  intro t
  rw [lookup_eq_some_iff distinctAfter, lookup_eq_some_iff distinct, reordered.mem_iff]

/-- Shadowed transitions are exactly the dead ones.  They are those that the dictionary does not hold, also
where it holds an equal one.  With the dictionary they make up the table.  Without them nothing is shadowed,
the dictionary is the same in the same order, and every transition is found for its own state and letter.  And
no lookup, run or trace can tell the table from the other transitions, in whatever order these are. -/
theorem unshadowed_runs_alike (table : Table) :
    (∀ key, table.fires key = (table.holder key).bind fun place => table.transitions[place]?) ∧
      table.shadowed =
        (table.transitions.zipIdx.filter fun entry => !table.holds entry).map (·.1) ∧
      table.unshadowed.transitions =
        (table.transitions.zipIdx.filter fun entry => table.holds entry).map (·.1) ∧
      table.size = table.compiled.length + table.shadowed.length ∧
      table.unshadowed.shadowed = [] ∧ table.unshadowed.compiled = table.compiled ∧
      (∀ t ∈ table.unshadowed.transitions, table.lookup t.source t.read.char = some t) ∧
      ∀ other : Table, other.transitions.Perm table.unshadowed.transitions →
        (∀ state read, other.lookup state read = table.lookup state read) ∧
          ∀ (m : Machine) (budget : Nat), m.run other budget = m.run table budget ∧
            m.events other budget = m.events table budget := by
  have distinct := nodup_keys_unshadowed table
  obtain ⟨none, same⟩ := unshadowed_of_nodup distinct
  have nothing : ∀ key, key ∈ ([] : List Transition.Key) ↔
      key ∈ ([] : List Transition).map Transition.key := fun _ => Iff.rfl
  obtain ⟨shadowed, unshadowed⟩ := split_eq_filter nothing table.transitions
  refine ⟨fires_eq table, shadowed, unshadowed, ?_, none, ?_, ?_, ?_⟩
  · rw [compiled_eq_map, List.length_map]
    exact (length_split [] table.transitions).symm
  · rw [compiled_eq_map, same, ← compiled_eq_map]
  · intro t member
    rw [← lookup_unshadowed, lookup_eq_some_iff distinct]
    exact ⟨member, rfl, rfl⟩
  · intro other reordered
    have alike : ∀ state read, other.lookup state read = table.lookup state read := by
      intro state read
      rw [lookup_of_perm distinct reordered, lookup_unshadowed]
    exact ⟨alike, fun m budget =>
      ⟨Machine.run_congr alike budget m, Machine.events_congr alike budget m⟩⟩

/-- A table in which one transition is shadowed by another one, and one by its own equal. -/
def repeating : Table :=
  let first : Transition :=
    { source := "q0", read := .number, target := "q0", write := .split, move := .right }
  ⟨[first, { first with target := "q1" }, first, { first with source := "q1" }]⟩

/-- The two transitions that are left, in the other order, run every machine as the four do. -/
theorem unshadowed_runs_alike_repeating :
    repeating.shadowed = [repeating.transitions[1], repeating.transitions[0]] ∧
      repeating.unshadowed.transitions = [repeating.transitions[0], repeating.transitions[3]] ∧
      ∀ (m : Machine) (budget : Nat),
        m.run ⟨repeating.unshadowed.transitions.reverse⟩ budget = m.run repeating budget := by
  obtain ⟨-, -, -, -, -, -, -, alike⟩ := unshadowed_runs_alike repeating
  refine ⟨by decide, by decide, ?_⟩
  intro m budget
  exact ((alike _ (List.reverse_perm _)).2 m budget).1

end Table

end TapeMultiplier
