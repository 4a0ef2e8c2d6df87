/-
Module: TapeMultiplier.Proofs.Product
Layer: Proofs
Purpose: Reading a product off a tape that is known in parts: a block without blanks behind the last blank
  is the product, unless two blanks stand side by side.
Main exports: BlankFree, fragments_append, hasDoubleBlank_append, extractProduct_block
-/
import TapeMultiplier.Operands

namespace TapeMultiplier

/-- None of the cells is blank. -/
def BlankFree (cells : List Char) : Prop :=
  ∀ c ∈ cells, isBlankCell c = false

/-- A run of a character that is not the blank has no blanks. -/
theorem blankFree_replicate {c : Char} (count : Nat) (visible : isBlankCell c = false) :
    BlankFree (List.replicate count c) := by
  intro d member
  rw [List.eq_of_mem_replicate member]
  exact visible

/-- Cells without blanks are one piece. -/
theorem fragments_of_blankFree {cells : List Char} (free : BlankFree cells) :
    fragments cells = [cells] := by
  induction cells with
  | nil => rfl
  | cons c rest ih =>
      have visible : isBlankCell c = false := free c List.mem_cons_self
      have restFree : BlankFree rest := fun d member => free d (List.mem_cons_of_mem c member)
      simp [fragments, visible, ih restFree]

/-- There is always a piece, be it empty. -/
theorem fragments_ne_nil (cells : List Char) : fragments cells ≠ [] := by
  cases cells with
  | nil => simp [fragments]
  | cons c rest =>
      rw [fragments]
      split
      · simp
      · split <;> simp

/-- A blank separates the pieces before it from those behind it. -/
theorem fragments_append (front rest : List Char) :
    fragments (front ++ Symbol.blank.char :: rest) = fragments front ++ fragments rest := by
  induction front with
  | nil => rfl
  | cons c front ih =>
      rw [List.cons_append, fragments, fragments, ih]
      split
      · rfl
      · cases pieces : fragments front with
        | nil => exact absurd pieces (fragments_ne_nil front)
        | cons piece pieces => rfl

/-- Cells without blanks in front make no double blank. -/
theorem hasDoubleBlank_append {front : List Char} (free : BlankFree front) (rest : List Char) :
    hasDoubleBlank (front ++ rest) = hasDoubleBlank rest := by
  induction front with
  | nil => rfl
  | cons c front ih =>
      have visible : isBlankCell c = false := free c List.mem_cons_self
      have frontFree : BlankFree front := fun d member => free d (List.mem_cons_of_mem c member)
      rw [List.cons_append, ← ih frontFree]
      cases front ++ rest <;> simp [hasDoubleBlank, visible]

/-- A blank in front of a block makes no double blank. -/
theorem hasDoubleBlank_blank_block {block : List Char} (free : BlankFree block) (present : block ≠ [])
    (rest : List Char) :
    hasDoubleBlank (Symbol.blank.char :: (block ++ rest)) = hasDoubleBlank rest := by
  cases block with
  | nil => exact absurd rfl present
  | cons c block =>
      have visible : isBlankCell c = false := free c List.mem_cons_self
      rw [← hasDoubleBlank_append free rest, List.cons_append, hasDoubleBlank, visible]
      simp

/-- On a tape without a double blank, the block behind the last blank is the product. -/
theorem extractProduct_block {front block : List Char} (free : BlankFree block)
    (present : block ≠ [])
    (apart : hasDoubleBlank (front ++ Symbol.blank.char :: block) = false) :
    extractProduct (front ++ Symbol.blank.char :: block) = block.length := by
  rw [extractProduct, apart, fragments_append, fragments_of_blankFree free]
  simp [present]

end TapeMultiplier
