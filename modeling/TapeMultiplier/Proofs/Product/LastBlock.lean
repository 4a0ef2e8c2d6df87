/-
Module: TapeMultiplier.Proofs.Product.LastBlock
Layer: Proofs
Purpose: What is read off a tape: 0 if two blanks stand side by side on it, otherwise the length of its last
  maximal block of cells that are not blank.  A block is described by what stands on either side of it, and
  a tape is cut around its last one; both the scan for that block and the pieces between blanks are
  computed from the cut.
Main exports: Collapsed, IsBlock, IsLastBlock, Bare, bare_or_exists_isBlock, lastBlock_eq_of_isBlock,
  isLastBlock_iff_bare, extractProduct_eq_lastBlock, extractProduct_reference
-/
import Mathlib.Data.List.Infix
import Mathlib.Data.List.TakeWhile
import TapeMultiplier.Proofs.Product

namespace TapeMultiplier

/-! ### Collapsed tapes -/

/-- Two blanks stand side by side somewhere on the tape. -/
def Collapsed (tape : List Char) : Prop :=
  [Symbol.blank.char, Symbol.blank.char] <:+: tape

theorem isBlankCell_iff {c : Char} : isBlankCell c = true ↔ c = Symbol.blank.char := by
  rw [isBlankCell, beq_iff_eq]

theorem hasDoubleBlank_iff_collapsed (tape : List Char) : hasDoubleBlank tape = true ↔ Collapsed tape := by
  induction tape with
  | nil => simp [hasDoubleBlank, Collapsed]
  | cons c tape ih =>
      rw [Collapsed, List.infix_cons_iff, ← Collapsed, ← ih]
      cases tape with
      | nil => simp [hasDoubleBlank]
      | cons d rest =>
          rw [hasDoubleBlank, Bool.or_eq_true, Bool.and_eq_true, isBlankCell_iff, isBlankCell_iff,
            List.cons_prefix_cons, List.cons_prefix_cons]
          simp only [List.nil_prefix, and_true, @eq_comm _ Symbol.blank.char]

instance : DecidablePred Collapsed :=
  fun tape => decidable_of_iff _ (hasDoubleBlank_iff_collapsed tape)

/-- A block keeps the blanks on its two sides apart. -/
theorem hasDoubleBlank_around_block {block : List Char} (free : BlankFree block) (present : block ≠ [])
    (front rest : List Char) :
    hasDoubleBlank (front ++ (block ++ rest)) = (hasDoubleBlank front || hasDoubleBlank rest) := by
  induction front with
  | nil => exact hasDoubleBlank_append free rest
  | cons c front ih =>
      cases front with
      | nil =>
          cases blank : isBlankCell c with
          | true =>
              rw [isBlankCell_iff] at blank
              subst blank
              exact hasDoubleBlank_blank_block free present rest
          | false =>
              have visible : BlankFree [c] := by simpa [BlankFree] using blank
              rw [hasDoubleBlank_append visible, hasDoubleBlank_append free]
              rfl
      | cons d front =>
          rw [List.cons_append, List.cons_append, hasDoubleBlank, hasDoubleBlank, ← List.cons_append, ih,
            Bool.or_assoc]

/-! ### Blocks -/

/-- What stands before a block: nothing, or cells that end in a blank. -/
def EndsBlank (front : List Char) : Prop :=
  front = [] ∨ [Symbol.blank.char] <:+ front

/-- What stands behind a block: nothing, or cells that start with a blank. -/
def StartsBlank (back : List Char) : Prop :=
  back = [] ∨ [Symbol.blank.char] <+: back

/-- A maximal block of a tape: cells that are not blank, with a blank or an end of the tape on either side. -/
structure IsBlock (tape front block back : List Char) : Prop where
  cut : front ++ (block ++ back) = tape
  opened : EndsBlank front
  present : block ≠ []
  free : BlankFree block
  closed : StartsBlank back

/-- The last maximal block of a tape: every other one starts before it. -/
def IsLastBlock (tape block : List Char) : Prop :=
  ∃ front back, IsBlock tape front block back ∧
    ∀ otherFront other otherBack, IsBlock tape otherFront other otherBack →
      otherFront.length ≤ front.length

/-- A part at the end of cells that end in a blank ends in a blank. -/
theorem EndsBlank.of_append {front part : List Char} (ends : EndsBlank (front ++ part)) : EndsBlank part := by
  rcases ends with empty | suffix
  · exact .inl (List.append_eq_nil_iff.mp empty).2
  · by_cases present : part = []
    · exact .inl present
    · have filled := List.length_pos_of_ne_nil present
      exact .inr (List.suffix_of_suffix_length_le suffix (List.suffix_append front part) filled)

/-- All of the cells are blank. -/
def Bare (cells : List Char) : Prop :=
  ∀ c ∈ cells, isBlankCell c = true

theorem Bare.startsBlank {cells : List Char} (bare : Bare cells) : StartsBlank cells := by
  cases cells with
  | nil => exact .inl rfl
  | cons c rest =>
      have blank := isBlankCell_iff.mp (bare c List.mem_cons_self)
      exact .inr ⟨rest, by rw [blank]; rfl⟩

theorem BlankFree.blank_not_mem {cells : List Char} (free : BlankFree cells) : Symbol.blank.char ∉ cells := by
  intro member
  have visible := free _ member
  rw [isBlankCell_iff.mpr rfl] at visible
  cases visible

theorem Bare.eq_nil {cells : List Char} (bare : Bare cells) (free : BlankFree cells) : cells = [] := by
  rw [List.eq_nil_iff_forall_not_mem]
  intro c member
  have blank := isBlankCell_iff.mp (bare c member)
  exact free.blank_not_mem (blank ▸ member)

/-- A blank does not start a block. -/
theorem not_startsBlank_append {block : List Char} (free : BlankFree block) (present : block ≠ [])
    (rest : List Char) : ¬StartsBlank (block ++ rest) := by
  cases block with
  | nil => exact absurd rfl present
  | cons c block =>
      rintro (empty | starts)
      · cases empty
      · rw [List.cons_append, List.cons_prefix_cons] at starts
        exact free.blank_not_mem (starts.1 ▸ List.mem_cons_self)

/-- A blank does not end a part of a block. -/
theorem BlankFree.eq_nil_of_endsBlank {cells : List Char} (free : BlankFree cells) (ends : EndsBlank cells) :
    cells = [] := by
  rcases ends with empty | suffix
  · exact empty
  · exact absurd (suffix.subset List.mem_cons_self) free.blank_not_mem

namespace IsBlock

variable {tape front block back : List Char}

/-- A cell in front of the tape leaves a block in place if what stands before the block still ends in a
blank. -/
theorem cons (isBlock : IsBlock tape front block back) {c : Char} (opened : EndsBlank (c :: front)) :
    IsBlock (c :: tape) (c :: front) block back :=
  { isBlock with cut := by rw [List.cons_append, isBlock.cut], opened }

/-- A cell that is not blank extends the block at the start of the tape. -/
theorem extend (isBlock : IsBlock tape [] block back) {c : Char} (visible : isBlankCell c = false) :
    IsBlock (c :: tape) [] (c :: block) back where
  cut := by rw [← isBlock.cut, List.nil_append, List.nil_append, List.cons_append]
  opened := .inl rfl
  present := List.cons_ne_nil c block
  free := List.forall_mem_cons.mpr ⟨visible, isBlock.free⟩
  closed := isBlock.closed

/-- A block of what stands behind a block is a block of the tape. -/
theorem behind (isBlock : IsBlock tape front block back) {between later rest : List Char}
    (inBack : IsBlock back between later rest) :
    IsBlock tape (front ++ (block ++ between)) later rest := by
  refine { inBack with cut := ?_, opened := ?_ }
  · rw [← isBlock.cut, ← inBack.cut, List.append_assoc, List.append_assoc]
  · rcases inBack.opened with rfl | suffix
    · -- Two blocks do not touch.
      have starts := isBlock.closed
      rw [← inBack.cut] at starts
      exact absurd starts (not_startsBlank_append inBack.free inBack.present rest)
    · exact .inr ((suffix.trans (List.suffix_append block between)).trans (List.suffix_append front _))

end IsBlock

/-- The cut around the last block: a tape has only blanks, or there is a block with only blanks behind it. -/
theorem bare_or_exists_isBlock (tape : List Char) :
    Bare tape ∨ ∃ front block back, IsBlock tape front block back ∧ Bare back := by
  induction tape with
  | nil => exact .inl (by simp [Bare])
  | cons c tape ih =>
      cases blank : isBlankCell c with
      | true =>
          rcases ih with bare | ⟨front, block, back, isBlock, bare⟩
          · exact .inl (by simpa [Bare, blank] using bare)
          · -- A blank in front leaves the last block where it is, and may be what opens it.
            have opened : EndsBlank (c :: front) := by
              rcases isBlock.opened with rfl | suffix
              · exact .inr (by rw [isBlankCell_iff.mp blank])
              · exact .inr (suffix.trans (List.suffix_cons c front))
            exact .inr ⟨c :: front, block, back, isBlock.cons opened, bare⟩
      | false =>
          have visible : BlankFree [c] := by simpa [BlankFree] using blank
          rcases ih with bare | ⟨front, block, back, isBlock, bare⟩
          · -- Before blanks the cell is a block by itself.
            exact .inr ⟨[], [c], tape, ⟨rfl, .inl rfl, by simp, visible, bare.startsBlank⟩, bare⟩
          · rcases isBlock.opened with rfl | suffix
            · exact .inr ⟨[], c :: block, back, isBlock.extend blank, bare⟩
            · have opened : EndsBlank (c :: front) := .inr (suffix.trans (List.suffix_cons c front))
              exact .inr ⟨c :: front, block, back, isBlock.cons opened, bare⟩

/-- The last block is the one with only blanks behind it. -/
theorem isLastBlock_iff_bare {tape block : List Char} :
    IsLastBlock tape block ↔ ∃ front back, IsBlock tape front block back ∧ Bare back := by
  constructor
  · rintro ⟨front, back, isBlock, last⟩
    refine ⟨front, back, isBlock, ?_⟩
    rcases bare_or_exists_isBlock back with bare | ⟨between, later, rest, inBack, -⟩
    · exact bare
    · -- A block behind this one starts later.
      have earlier := last _ _ _ (isBlock.behind inBack)
      have filled := List.length_pos_of_ne_nil isBlock.present
      rw [List.length_append, List.length_append] at earlier
      omega
  · rintro ⟨front, back, isBlock, bare⟩
    refine ⟨front, back, isBlock, fun otherFront other otherBack isOther => ?_⟩
    by_contra later
    -- The other block starts later, behind the cells `within`, which reach into this block or beyond it.
    obtain ⟨within, rfl⟩ : front <+: otherFront :=
      List.prefix_of_prefix_length_le ⟨_, isBlock.cut⟩ ⟨_, isOther.cut⟩ (by omega)
    have same : block ++ back = within ++ (other ++ otherBack) := by
      have cuts := isBlock.cut.trans isOther.cut.symm
      rwa [List.append_assoc, List.append_cancel_left_eq] at cuts
    rcases List.append_eq_append_iff.mp same with ⟨rest, -, behind⟩ | ⟨rest, parts, -⟩
    · -- It lies behind this block, where there are only blanks.
      have blank : Bare other := fun c member => bare c (by simp [behind, member])
      exact isOther.present (blank.eq_nil isOther.free)
    · -- It opens inside this block, where there is no blank to open it.
      have free : BlankFree within := fun c member => isBlock.free c (by simp [parts, member])
      rw [free.eq_nil_of_endsBlank isOther.opened.of_append] at later
      simp at later

/-! ### The scan for the last block -/

theorem lastBlockFrom_bare {cells : List Char} (bare : Bare cells) (latest current : List Char) :
    lastBlockFrom latest current cells = if current.isEmpty then latest else current := by
  induction cells generalizing latest current with
  | nil => rfl
  | cons c cells ih =>
      obtain ⟨blank, rest⟩ := List.forall_mem_cons.mp bare
      rw [lastBlockFrom, blank, ih rest]
      rfl

/-- A block is read into the current one. -/
theorem lastBlockFrom_append_of_blankFree {block : List Char} (free : BlankFree block)
    (latest current rest : List Char) :
    lastBlockFrom latest current (block ++ rest) = lastBlockFrom latest (current ++ block) rest := by
  induction block generalizing current with
  | nil => rw [List.nil_append, List.append_nil]
  | cons c block ih =>
      obtain ⟨visible, others⟩ := List.forall_mem_cons.mp free
      rw [List.cons_append, lastBlockFrom, visible, if_neg Bool.false_ne_true, ih others,
        List.append_assoc, List.singleton_append]

/-- At a blank, what is known of the cells before it is their last block. -/
theorem lastBlockFrom_append_blank (front latest current rest : List Char) :
    lastBlockFrom latest current (front ++ Symbol.blank.char :: rest) =
      lastBlockFrom (lastBlockFrom latest current front) [] rest := by
  induction front generalizing latest current with
  | nil => rfl
  | cons c front ih =>
      rw [List.cons_append, lastBlockFrom, lastBlockFrom, ih, ih]
      split <;> rfl

theorem lastBlock_eq_nil_of_bare {tape : List Char} (bare : Bare tape) : lastBlock tape = [] :=
  lastBlockFrom_bare bare [] []

/-- The scan finds the block with only blanks behind it. -/
theorem lastBlock_eq_of_isBlock {tape front block back : List Char} (isBlock : IsBlock tape front block back)
    (bare : Bare back) : lastBlock tape = block := by
  have fromStart : ∀ latest, lastBlockFrom latest [] (block ++ back) = block := by
    intro latest
    rw [lastBlockFrom_append_of_blankFree isBlock.free, lastBlockFrom_bare bare, List.nil_append,
      if_neg (by simpa using isBlock.present)]
  rw [← isBlock.cut, lastBlock]
  rcases isBlock.opened with rfl | ⟨shorter, rfl⟩
  · exact fromStart []
  · rw [List.append_assoc, List.singleton_append, lastBlockFrom_append_blank]
    exact fromStart _

/-- The scan finds the last block. -/
theorem isLastBlock_iff {tape block : List Char} :
    IsLastBlock tape block ↔ block ≠ [] ∧ lastBlock tape = block := by
  rw [isLastBlock_iff_bare]
  constructor
  · rintro ⟨front, back, isBlock, bare⟩
    exact ⟨isBlock.present, lastBlock_eq_of_isBlock isBlock bare⟩
  · rintro ⟨present, rfl⟩
    rcases bare_or_exists_isBlock tape with bare | ⟨front, block, back, isBlock, bare⟩
    · exact absurd (lastBlock_eq_nil_of_bare bare) present
    · rw [lastBlock_eq_of_isBlock isBlock bare]
      exact ⟨front, back, isBlock, bare⟩

/-- The scan finds nothing just on a tape of blanks. -/
theorem lastBlock_eq_nil_iff_bare {tape : List Char} : lastBlock tape = [] ↔ Bare tape := by
  refine ⟨fun none => ?_, lastBlock_eq_nil_of_bare⟩
  rcases bare_or_exists_isBlock tape with bare | ⟨front, block, back, isBlock, bare⟩
  · exact bare
  · exact absurd ((lastBlock_eq_of_isBlock isBlock bare).symm.trans none) isBlock.present

/-- A tape of blanks has no block, and every other tape has one. -/
theorem bare_iff_not_isBlock {tape : List Char} :
    Bare tape ↔ ¬∃ front block back, IsBlock tape front block back := by
  constructor
  · rintro bare ⟨front, block, back, isBlock⟩
    have blank : Bare block := fun c member => bare c (by simp [← isBlock.cut, member])
    exact isBlock.present (blank.eq_nil isBlock.free)
  · intro none
    rcases bare_or_exists_isBlock tape with bare | ⟨front, block, back, isBlock, -⟩
    · exact bare
    · exact absurd ⟨front, block, back, isBlock⟩ none

/-! ### The pieces between blanks -/

theorem fragments_of_bare {cells : List Char} (bare : Bare cells) : ∀ piece ∈ fragments cells, piece = [] := by
  induction cells with
  | nil => simp [fragments]
  | cons c cells ih =>
      obtain ⟨blank, rest⟩ := List.forall_mem_cons.mp bare
      rw [fragments, blank, if_pos rfl]
      exact List.forall_mem_cons.mpr ⟨rfl, ih rest⟩

/-- The block with only blanks behind it is a piece, and the pieces behind it are empty. -/
theorem fragments_of_isBlock {tape front block back : List Char} (isBlock : IsBlock tape front block back)
    (bare : Bare back) :
    ∃ earlier later, fragments tape = earlier ++ block :: later ∧ ∀ piece ∈ later, piece = [] := by
  have fromStart : ∃ later, fragments (block ++ back) = block :: later ∧ ∀ piece ∈ later, piece = [] := by
    rcases isBlock.closed with rfl | ⟨rest, rfl⟩
    · exact ⟨[], by rw [List.append_nil, fragments_of_blankFree isBlock.free], by simp⟩
    · have blank : Bare rest := fun c member => bare c (by simp [member])
      refine ⟨fragments rest, ?_, fragments_of_bare blank⟩
      rw [List.singleton_append, fragments_append, fragments_of_blankFree isBlock.free, List.singleton_append]
  obtain ⟨later, pieces, empty⟩ := fromStart
  rw [← isBlock.cut]
  rcases isBlock.opened with rfl | ⟨shorter, rfl⟩
  · exact ⟨[], later, pieces, empty⟩
  · refine ⟨fragments shorter, later, ?_, empty⟩
    rw [List.append_assoc, List.singleton_append, fragments_append, pieces]

/-- The last piece that is not dropped is the last block. -/
theorem extractProduct_eq_lastBlock (tape : List Char) :
    extractProduct tape = if Collapsed tape then 0 else (lastBlock tape).length := by
  rw [extractProduct]
  simp only [hasDoubleBlank_iff_collapsed]
  split
  · rfl
  · rcases bare_or_exists_isBlock tape with bare | ⟨front, block, back, isBlock, bare⟩
    · have dropped : (fragments tape).reverse.dropWhile List.isEmpty = [] := by
        rw [List.dropWhile_eq_nil_iff]
        intro piece member
        rw [List.isEmpty_iff, fragments_of_bare bare piece (List.mem_reverse.mp member)]
      rw [dropped, lastBlock_eq_nil_of_bare bare]
      rfl
    · obtain ⟨earlier, later, pieces, empty⟩ := fragments_of_isBlock isBlock bare
      have dropped : (fragments tape).reverse.dropWhile List.isEmpty = block :: earlier.reverse := by
        rw [pieces, List.reverse_append, List.reverse_cons, List.append_assoc, List.dropWhile_append_of_pos,
          List.singleton_append, List.dropWhile_cons_of_neg]
        · simpa using isBlock.present
        · intro piece member
          rw [List.isEmpty_iff, empty piece (List.mem_reverse.mp member)]
      rw [dropped, lastBlock_eq_of_isBlock isBlock bare]

/-! ### Reading tapes -/

/-- A block behind cells that are not collapsed is the product, with or without a blank behind it. -/
theorem extractProduct_append_block {front block : List Char} (opened : EndsBlank front)
    (apart : ¬Collapsed front) (present : block ≠ []) (free : BlankFree block) {back : List Char}
    (closed : Bare back) (single : ¬Collapsed back) :
    extractProduct (front ++ (block ++ back)) = block.length := by
  have isBlock : IsBlock (front ++ (block ++ back)) front block back :=
    ⟨rfl, opened, present, free, closed.startsBlank⟩
  have notCollapsed : ¬Collapsed (front ++ (block ++ back)) := by
    rw [← hasDoubleBlank_iff_collapsed] at apart single ⊢
    rw [hasDoubleBlank_around_block free present]
    simp [apart, single]
  rw [extractProduct_eq_lastBlock, if_neg notCollapsed, lastBlock_eq_of_isBlock isBlock closed]

theorem extractProduct_pos_iff {tape : List Char} :
    0 < extractProduct tape ↔ (∃ c ∈ tape, c ≠ Symbol.blank.char) ∧ ¬Collapsed tape := by
  have filled : 0 < (lastBlock tape).length ↔ ∃ c ∈ tape, c ≠ Symbol.blank.char := by
    rw [List.length_pos_iff, Ne, lastBlock_eq_nil_iff_bare, Bare]
    simp [isBlankCell_iff]
  rw [extractProduct_eq_lastBlock, ← filled]
  split <;> simp_all

theorem collapsed_append_blanks (tape : List Char) :
    Collapsed (tape ++ [Symbol.blank.char, Symbol.blank.char]) :=
  (List.suffix_append tape _).isInfix

/-- The product on a tape is 0 if two blanks stand side by side somewhere, and otherwise the length of the
last maximal block of cells that are not blank, which is 0 if there is no block.  So a block behind nothing or
behind a blank is the product, with or without a blank behind it, as long as the cells before it are not
collapsed; the product is positive just on tapes that are not collapsed and not all blank; and two more
blanks bring it to 0. -/
theorem extractProduct_reference (tape : List Char) :
    extractProduct tape = (if Collapsed tape then 0 else (lastBlock tape).length) ∧
    (∀ block, IsLastBlock tape block ↔ block ≠ [] ∧ lastBlock tape = block) ∧
    (lastBlock tape = [] ↔ ¬∃ front block back, IsBlock tape front block back) ∧
    (∀ front block, EndsBlank front → ¬Collapsed front → block ≠ [] → BlankFree block →
      extractProduct (front ++ block) = block.length ∧
      extractProduct (front ++ block ++ [Symbol.blank.char]) = block.length) ∧
    (0 < extractProduct tape ↔ (∃ c ∈ tape, c ≠ Symbol.blank.char) ∧ ¬Collapsed tape) ∧
    extractProduct (tape ++ [Symbol.blank.char, Symbol.blank.char]) = 0 := by
  refine ⟨extractProduct_eq_lastBlock tape, fun block => isLastBlock_iff,
    lastBlock_eq_nil_iff_bare.trans bare_iff_not_isBlock, ?_, extractProduct_pos_iff, ?_⟩
  · intro front block opened apart present free
    have none : Bare [] := by simp [Bare]
    have single : Bare [Symbol.blank.char] := by simp [Bare, isBlankCell_iff]
    have atEnd := extractProduct_append_block opened apart present free none (by decide)
    have beforeBlank := extractProduct_append_block opened apart present free single (by decide)
    rw [List.append_nil] at atEnd
    rw [List.append_assoc]
    exact ⟨atEnd, beforeBlank⟩
  · rw [extractProduct_eq_lastBlock, if_pos (collapsed_append_blanks tape)]

theorem extractProduct_reference_six :
    EndsBlank "_XXC000_".toList ∧ ¬Collapsed "_XXC000_".toList ∧ "000000".toList ≠ [] ∧
      BlankFree "000000".toList ∧ extractProduct "_XXC000_000000".toList = 6 ∧
      extractProduct "_XXC000_000000_".toList = 6 := by
  have opened : EndsBlank "_XXC000_".toList := .inr ⟨"_XXC000".toList, rfl⟩
  have apart : ¬Collapsed "_XXC000_".toList := by decide
  have present : "000000".toList ≠ [] := by decide
  have free : BlankFree (List.replicate 6 Symbol.number.char) := blankFree_replicate 6 rfl
  have product := (extractProduct_reference []).2.2.2.1 _ _ opened apart present free
  exact ⟨opened, apart, present, free, product.1, product.2⟩

end TapeMultiplier
