/-
Module: TapeMultiplier.Index
Layer: Data
Purpose: Positions in a sequence, counted from either end, and the positions that a machine word holds.
Main exports: fitsIndex, resolveIndex?, IndexFault
-/

namespace TapeMultiplier

/-- Whether a number fits a signed machine word of 64 bits, in which lengths and positions are kept. -/
def fitsIndex (value : Int) : Bool :=
  decide (-9223372036854775808 ≤ value) && decide (value ≤ 9223372036854775807)

/-- The place of a position in a sequence of a given size: from 0 on it counts from the start, below
0 from the end. -/
def resolveIndex? (size : Nat) (position : Int) : Option Nat :=
  if 0 ≤ position then
    if position < size then some position.toNat else none
  else if 0 ≤ position + size then some (position + size).toNat
  else none

/-- A position from the start stands for itself. -/
theorem resolveIndex?_natCast {size place : Nat} (inside : place < size) :
    resolveIndex? size (place : Int) = some place := by
  unfold resolveIndex?
  rw [if_pos (Int.natCast_nonneg place), if_pos (by omega), Int.toNat_natCast]

/-- Why nothing stands at a position. -/
inductive IndexFault where
  /-- The sequence ends before it. -/
  | outside
  /-- No machine word holds it. -/
  | noWord
deriving Repr, Inhabited, DecidableEq

namespace IndexFault

/-- The fault of a position that was not resolved. -/
def ofPosition (position : Int) : IndexFault :=
  if fitsIndex position then outside else noWord

/-- What is said of a number that no machine word holds. -/
def noWordText : String :=
  "cannot fit 'int' into an index-sized integer"

/-- The wording of the fault for a sequence of a kind. -/
def message (sequence : String) : IndexFault → String
  | outside => sequence ++ " index out of range"
  | noWord => noWordText

end IndexFault

end TapeMultiplier
