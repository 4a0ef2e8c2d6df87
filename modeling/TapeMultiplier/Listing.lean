/-
Module: TapeMultiplier.Listing
Layer: Report
Purpose: The printed listing of a program: its transitions, those that never fire, the grid of
  actions, and the same grid as a typeset array.
Main exports: Table.listing
-/
import TapeMultiplier.Dense
import TapeMultiplier.Text.Integer

namespace TapeMultiplier

namespace Table

/-- A number right-aligned in three columns. -/
def lineNumber (number : Nat) : String :=
  let digits := Text.decimal number
  String.ofList (List.replicate (3 - digits.length) ' ') ++ digits

/-- The transitions, numbered from 1. -/
def transitionLines (table : Table) : List String :=
  table.transitions.mapIdx fun i t => lineNumber (i + 1) ++ "  " ++ t.render

/-- The transitions that never fire, if there are any. -/
def shadowedLines (table : Table) : List String :=
  match table.shadowed with
  | [] => []
  | shadowed =>
      "\n=== Unreachable (shadowed by an earlier transition) ===" ::
        shadowed.map fun t => "     " ++ t.render

/-- The grid of actions with tabs between columns. -/
def gridLines (table : Table) : List String :=
  "\t".intercalate (" " :: Symbol.all.map Symbol.text) ::
    table.grid.map fun (state, actions) =>
      "\t".intercalate (("State " ++ state) :: actions.map (·.2))

/-- The grid of actions as a typeset array. -/
def arrayLines (table : Table) : List String :=
  let columns := String.ofList (Symbol.all.map fun _ => 'c')
  let heading := " & ".intercalate (Symbol.all.map fun symbol =>
    "\\text\x7b" ++ symbol.text ++ "\x7d")
  ["\\begin\x7barray\x7d\x7bc|" ++ columns ++ "\x7d",
    "State/Symbol & " ++ heading ++ " \\\\ \\hline"] ++
  (table.grid.map fun (state, actions) =>
    " & ".intercalate (state :: actions.map (·.2)) ++ " \\\\") ++
  ["\\end\x7barray\x7d"]

/-- The lines of the listing. -/
def listingLines (table : Table) : List String :=
  "\n=== Transitions ===" :: table.transitionLines ++ table.shadowedLines ++
    "\n=== Transition Table ===" :: table.gridLines ++
    "\n=== LaTeX Table ===" :: table.arrayLines

/-- The listing of a program. -/
def listing (table : Table) : String :=
  String.join (table.listingLines.map fun line => line ++ "\n")

end Table

end TapeMultiplier
