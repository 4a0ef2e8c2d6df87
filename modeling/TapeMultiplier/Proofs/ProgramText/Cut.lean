/-
Module: TapeMultiplier.Proofs.ProgramText.Cut
Layer: Proofs
Purpose: What cutting a program text means, apart from how it is scanned.  The pieces of a text end at its
  first separator, the first separator behind that one, and so on; the fields of a chunk are what stands
  between its marks.
Main exports: ProgramText.IsCut, ProgramText.cutPairs_eq_iff, ProgramText.IsCut.append,
  ProgramText.length_cutFields, ProgramText.cutFields_eq_iff
-/
import TapeMultiplier.Proofs.ProgramText

namespace TapeMultiplier

namespace ProgramText

/-! ### Separators -/

/-- The two marks that end a transition. -/
abbrev separator : List Char :=
  ['1', '1']

/-- The pieces of a text between its separators.  A text without a separator is one piece; otherwise the
first piece ends where the first separator starts, and what follows that separator is cut in the same
way. -/
inductive IsCut : List Char → List (List Char) → Prop where
  | last {text : List Char} (whole : ¬separator <:+: text) : IsCut text [text]
  /-- No separator starts in front of the one behind the piece. -/
  | next {piece rest : List Char} {pieces : List (List Char)}
      (first : ¬separator <:+: piece ++ ['1']) (others : IsCut rest pieces) :
      IsCut (piece ++ '1' :: '1' :: rest) (piece :: pieces)

theorem separator_prefix_cons {c : Char} {rest : List Char} :
    separator <+: c :: rest ↔ c = '1' ∧ ∃ behind, rest = '1' :: behind := by
  rw [separator, List.cons_prefix_cons]
  constructor
  · rintro ⟨rfl, behind, rfl⟩
    exact ⟨rfl, behind, rfl⟩
  · rintro ⟨rfl, behind, rfl⟩
    exact ⟨rfl, behind, rfl⟩

theorem not_separator_infix_cons {c : Char} {rest : List Char}
    (apart : ∀ behind, c = '1' → rest = '1' :: behind → False) (whole : ¬separator <:+: rest) :
    ¬separator <:+: c :: rest := by
  rw [List.infix_cons_iff, separator_prefix_cons]
  rintro (⟨mark, behind, marked⟩ | inside)
  · exact apart behind mark marked
  · exact whole inside

/-- The scan cuts a text into its pieces. -/
theorem isCut_cutPairs (text : List Char) : IsCut text (cutPairs text) := by
  induction text using cutPairs.induct with
  | case1 rest ih =>
      rw [cutPairs]
      exact @IsCut.next [] rest _ (by decide) ih
  | case2 c rest apart ih =>
      rw [cutPairs.eq_2 c rest apart]
      generalize cutPairs rest = pieces at ih
      cases ih with
      | last whole => exact .last (not_separator_infix_cons apart whole)
      | @next piece behind pieces first others =>
          refine @IsCut.next (c :: piece) behind pieces (not_separator_infix_cons ?_ first) others
          -- A mark in front of the piece is followed in it as it is in the text.
          intro more mark marked
          cases piece with
          | nil => exact apart _ mark rfl
          | cons d piece => exact apart _ mark (congrArg (· :: _) (List.cons.inj marked).1)
  | case3 => exact .last (by decide)

theorem cutPairs_of_whole {text : List Char} (whole : ¬separator <:+: text) :
    cutPairs text = [text] := by
  induction text using cutPairs.induct with
  | case1 rest ih => exact absurd ⟨[], rest, rfl⟩ whole
  | case2 c rest apart ih =>
      rw [cutPairs.eq_2 c rest apart, ih fun inside => whole (List.infix_cons inside), consFirst]
  | case3 => rfl

theorem cutPairs_piece {piece : List Char} (first : ¬separator <:+: piece ++ ['1'])
    (rest : List Char) : cutPairs (piece ++ '1' :: '1' :: rest) = piece :: cutPairs rest := by
  induction piece with
  | nil => rfl
  | cons c piece ih =>
      rw [List.cons_append, List.infix_cons_iff, not_or, separator_prefix_cons] at first
      have apart : ∀ more, c = '1' → piece ++ '1' :: '1' :: rest = '1' :: more → False := by
        intro more mark marked
        refine first.1 ⟨mark, ?_⟩
        cases piece with
        | nil => exact ⟨[], rfl⟩
        | cons d piece =>
            rw [List.cons_append, (List.cons.inj marked).1]
            exact ⟨_, rfl⟩
      rw [List.cons_append, cutPairs.eq_2 _ _ apart, ih first.2, consFirst]

/-- A text has one cut, and the scan finds it. -/
theorem cutPairs_eq_iff {text : List Char} {pieces : List (List Char)} :
    cutPairs text = pieces ↔ IsCut text pieces := by
  constructor
  · rintro rfl
    exact isCut_cutPairs text
  · intro cut
    induction cut with
    | last whole => exact cutPairs_of_whole whole
    | next first _ ih => rw [cutPairs_piece first, ih]

namespace IsCut

theorem ne_nil {text : List Char} {pieces : List (List Char)} (cut : IsCut text pieces) :
    pieces ≠ [] := by
  cases cut with
  | last _ => exact List.cons_ne_nil _ _
  | next _ _ => exact List.cons_ne_nil _ _

/-- A text without marks joins the first piece of what follows it. -/
theorem of_unmarked {front text piece : List Char} {pieces : List (List Char)} (unmarked : '1' ∉ front)
    (cut : IsCut text (piece :: pieces)) : IsCut (front ++ text) ((front ++ piece) :: pieces) := by
  rw [← cutPairs_eq_iff] at cut ⊢
  rw [cutPairs_append unmarked, cut, foldr_consFirst]

/-- Two texts are cut one after the other if no mark stands in the last piece of the first: that piece
joins the first piece of the second. -/
theorem append {text other last piece : List Char} {pieces others : List (List Char)}
    (cut : IsCut text (pieces ++ [last])) (unmarked : '1' ∉ last) (behind : IsCut other (piece :: others)) :
    IsCut (text ++ other) (pieces ++ (last ++ piece) :: others) := by
  induction pieces generalizing text with
  | nil =>
      obtain rfl : text = last := by
        cases cut with
        | last _ => rfl
        | next _ more => exact absurd rfl more.ne_nil
      exact of_unmarked unmarked behind
  | cons first pieces ih =>
      generalize all : first :: pieces ++ [last] = allPieces at cut
      cases cut with
      | last _ => exact absurd (List.cons.inj all).2 (by simp)
      | next separated more =>
          obtain ⟨rfl, rfl⟩ := List.cons.inj all
          rw [List.append_assoc, List.cons_append, List.cons_append, List.cons_append]
          exact .next separated (ih more)

end IsCut

/-! ### Marks -/

theorem joined_cons (first second : List Char) (rest : List (List Char)) :
    joined first (second :: rest) = first ++ '1' :: joined second rest := by
  simp [joined]

/-- The fields of a chunk are what stands between its marks. -/
theorem exists_joined (chunk : List Char) :
    ∃ first rest, cutFields chunk = first :: rest ∧ chunk = joined first rest ∧
      ∀ field ∈ first :: rest, '1' ∉ field := by
  induction chunk using cutFields.induct with
  | case1 more ih =>
      obtain ⟨first, rest, cut, rfl, unmarked⟩ := ih
      refine ⟨[], first :: rest, by rw [cutFields, cut], by rw [joined_cons, List.nil_append], ?_⟩
      exact List.forall_mem_cons.mpr ⟨List.not_mem_nil, unmarked⟩
  | case2 c more other ih =>
      obtain ⟨first, rest, cut, rfl, unmarked⟩ := ih
      obtain ⟨unmarkedFirst, unmarkedRest⟩ := List.forall_mem_cons.mp unmarked
      refine ⟨c :: first, rest, by rw [cutFields.eq_2 c _ other, cut, consFirst], rfl, ?_⟩
      refine List.forall_mem_cons.mpr ⟨?_, unmarkedRest⟩
      rw [List.mem_cons, not_or]
      exact ⟨fun same => other same.symm, unmarkedFirst⟩
  | case3 => exact ⟨[], [], rfl, rfl, by simp⟩

theorem cutFields_eq_iff {chunk first : List Char} {rest : List (List Char)} :
    cutFields chunk = first :: rest ↔
      chunk = joined first rest ∧ ∀ field ∈ first :: rest, '1' ∉ field := by
  constructor
  · intro cut
    obtain ⟨_, _, cut', chunk_eq, unmarked⟩ := exists_joined chunk
    obtain ⟨rfl, rfl⟩ := List.cons.inj (cut.symm.trans cut')
    exact ⟨chunk_eq, unmarked⟩
  · rintro ⟨rfl, unmarked⟩
    exact cutFields_joined unmarked

/-- Joined fields have a mark for each field but the first. -/
theorem count_joined {first : List Char} {rest : List (List Char)}
    (unmarked : ∀ field ∈ first :: rest, '1' ∉ field) : (joined first rest).count '1' = rest.length := by
  induction rest generalizing first with
  | nil =>
      rw [joined, List.flatMap_nil, List.append_nil, List.length_nil, List.count_eq_zero]
      exact unmarked first List.mem_cons_self
  | cons second rest ih =>
      obtain ⟨unmarkedFirst, unmarkedRest⟩ := List.forall_mem_cons.mp unmarked
      rw [joined_cons, List.count_append, List.count_cons_self, ih unmarkedRest,
        List.count_eq_zero.mpr unmarkedFirst, List.length_cons, Nat.zero_add]

/-- A chunk has one field more than it has marks. -/
theorem length_cutFields (chunk : List Char) : (cutFields chunk).length = chunk.count '1' + 1 := by
  obtain ⟨first, rest, cut, rfl, unmarked⟩ := exists_joined chunk
  rw [cut, count_joined unmarked, List.length_cons]

end ProgramText

end TapeMultiplier
