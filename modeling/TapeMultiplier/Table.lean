/-
Module: TapeMultiplier.Table
Layer: Model
Purpose: Transitions and ordered transition tables.  The order of a table is its meaning: when two
  transitions share a key (state and letter read), the earlier one fires and the later one is
  shadowed.
Main exports: Transition, Table, Table.item, Table.lookup, Table.compiled, Table.states,
  Table.shadowed, Table.unshadowed, Table.flip
-/
import TapeMultiplier.Index
import TapeMultiplier.Symbol
import TapeMultiplier.Text.Quoted

namespace TapeMultiplier

/-- A word of a table given as data that names no letter or no direction. -/
inductive WordError where
  | unknownCharacter (word : String)
  | unknownDirection (word : String)
deriving Repr, DecidableEq

/-- The wording of the error. -/
def WordError.message : WordError → String
  | unknownCharacter word => "Unknown tape character: " ++ Text.quoted word
  | unknownDirection word => Text.quoted word ++ " is not a valid Direction"

/-- One rule: in state `source`, reading `read`, write `write`, move, and go on in `target`. -/
structure Transition where
  source : String
  read : Symbol
  target : String
  write : Symbol
  move : Direction
deriving Repr, Inhabited, DecidableEq

namespace Transition

/-- What selects a rule: the state and the letter under the head. -/
abbrev Key := String × Symbol

/-- The key under which the rule fires. -/
def key (transition : Transition) : Key :=
  (transition.source, transition.read)

/-- The rule's line in listings. -/
def render (t : Transition) : String :=
  s!"({t.source} ; {t.read.text}) = ({t.target} ; {t.write.text} ; {t.move.text})"

/-- The five words of the rule: source, letter read, target, letter written, direction. -/
def words (t : Transition) : List String :=
  [t.source, t.read.text, t.target, t.write.text, t.move.text]

/-- A rule from its five words; the letters are checked before the direction. -/
def ofWords (source read target write move : String) : Except WordError Transition := do
  let some read := Symbol.ofText? read | throw (.unknownCharacter read)
  let some write := Symbol.ofText? write | throw (.unknownCharacter write)
  let some move := Direction.ofText? move | throw (.unknownDirection move)
  return { source, read, target, write, move }

/-- The rule with its direction reversed. -/
def flip (t : Transition) : Transition :=
  { t with move := t.move.flip }

end Transition

/-- A program: transitions in program order. -/
structure Table where
  transitions : List Transition
deriving Repr, Inhabited, DecidableEq

namespace Table

/-- The state in which every run of a program begins. -/
def startState : String := "q0"

/-- The number of transitions. -/
def size (table : Table) : Nat :=
  table.transitions.length

/-- The transition at a position, where negative positions count from the end. -/
def at? (table : Table) (position : Int) : Option Transition := do
  let place ← resolveIndex? table.size position
  table.transitions[place]?

/-- The transition at a position, or why there is none. -/
def item (table : Table) (position : Int) : Except IndexFault Transition :=
  match table.at? position with
  | some transition => .ok transition
  | none => .error (.ofPosition position)

/-- The first transition for a state and the character under the head. -/
def lookup (table : Table) (state : String) (read : Char) : Option Transition :=
  table.transitions.find? fun t => t.source == state && t.read.char == read

/-- Add a transition to a dictionary of firing transitions, unless its key is taken. -/
def insertNew (dictionary : List (Transition.Key × Transition)) (t : Transition) :
    List (Transition.Key × Transition) :=
  if dictionary.any fun entry => entry.1 == t.key then dictionary
  else dictionary ++ [(t.key, t)]

/-- The dictionary from keys to the transition that fires, in order of first appearance. -/
def compiled (table : Table) : List (Transition.Key × Transition) :=
  table.transitions.foldl insertNew []

/-- The transition that the dictionary holds for a key. -/
def fires (table : Table) (key : Transition.Key) : Option Transition :=
  (table.compiled.find? fun entry => entry.1 == key).map (·.2)

/-- Add a state name at the end unless it is known. -/
def insertState (seen : List String) (state : String) : List String :=
  if state ∈ seen then seen else seen ++ [state]

/-- All state names in order of first appearance, the start state first. -/
def states (table : Table) : List String :=
  table.transitions.foldl
    (fun seen t => insertState (insertState seen t.source) t.target) [startState]

/-- The transitions whose key occurs earlier, given the keys already seen. -/
def shadowedAfter (seen : List Transition.Key) : List Transition → List Transition
  | [] => []
  | t :: rest =>
      if t.key ∈ seen then t :: shadowedAfter seen rest
      else shadowedAfter (t.key :: seen) rest

/-- The transitions that can never fire because an earlier one has the same key. -/
def shadowed (table : Table) : List Transition :=
  shadowedAfter [] table.transitions

/-- The transitions whose key is new, given the keys already seen. -/
def unshadowedAfter (seen : List Transition.Key) : List Transition → List Transition
  | [] => []
  | t :: rest =>
      if t.key ∈ seen then unshadowedAfter seen rest
      else t :: unshadowedAfter (t.key :: seen) rest

/-- The table without its shadowed transitions. -/
def unshadowed (table : Table) : Table :=
  ⟨unshadowedAfter [] table.transitions⟩

/-- The table with every direction reversed. -/
def flip (table : Table) : Table :=
  ⟨table.transitions.map Transition.flip⟩

end Table

end TapeMultiplier
