/-
Module: TapeMultiplier.Proofs.ProgramText.LineBreaks
Layer: Proofs
Purpose: Line breaks are layout.  Wherever one is put into a program text, its chunks and so its table or its
  error stay the same, unless the break comes between the two marks of a separator.
Main exports: ProgramText.separators, ProgramText.BreakAdded, ProgramText.IsCut.exists_broken,
  ProgramText.BreakAdded.chunks_eq, ProgramText.decode_of_breaksAdded
-/
import TapeMultiplier.Proofs.ProgramText.Cut
import Mathlib.Logic.Relation

namespace TapeMultiplier

namespace ProgramText

/-- The places at which the separators behind pieces start, when the first piece starts at a given
place. -/
def separatorsFrom (place : Nat) : List (List Char) → List Nat
  | piece :: next :: rest =>
      (place + piece.length) :: separatorsFrom (place + piece.length + 2) (next :: rest)
  | _ => []

/-- The places in a text at which the separators start that its cut uses up. -/
def separators (text : List Char) : List Nat :=
  separatorsFrom 1 (cutPairs (text.drop 1))

/-- A line break is put into a text behind its first character, but not between the two marks of a
separator. -/
inductive BreakAdded : List Char → List Char → Prop where
  | insert (front back : List Char) {c : Char} (nonempty : front ≠ [])
      (outside : ∀ start ∈ separators (front ++ back), front.length ≠ start + 1)
      (layout : c = '\n' ∨ c = '\r') : BreakAdded (front ++ back) (front ++ c :: back)

/-- A piece without its line breaks. -/
def unbroken (piece : List Char) : List Char :=
  piece.filter fun c => !isLineBreak c

theorem chunks_eq (text : List Char) :
    chunks text = (cutPairs (text.drop 1)).dropLast.map unbroken :=
  rfl

theorem unbroken_append (front back : List Char) :
    unbroken (front ++ back) = unbroken front ++ unbroken back :=
  List.filter_append front back

theorem unbroken_cons_of_break {c : Char} (layout : isLineBreak c = true) (rest : List Char) :
    unbroken (c :: rest) = unbroken rest :=
  List.filter_cons_of_neg (by rw [layout]; decide)

theorem separatorsFrom_cons {pieces : List (List Char)} (nonempty : pieces ≠ []) (place : Nat)
    (piece : List Char) :
    separatorsFrom place (piece :: pieces) =
      (place + piece.length) :: separatorsFrom (place + piece.length + 2) pieces := by
  obtain ⟨next, rest, rfl⟩ := List.exists_cons_of_ne_nil nonempty
  rfl

/-- No separator reaches over a character that is no mark. -/
theorem separator_infix_append_cons {front back : List Char} {c : Char} (unmarked : c ≠ '1') :
    separator <:+: front ++ c :: back ↔ separator <:+: front ∨ separator <:+: back := by
  induction front with
  | nil =>
      rw [List.nil_append, List.infix_cons_iff, separator_prefix_cons]
      simp [unmarked]
  | cons d front ih =>
      have start : separator <+: d :: (front ++ c :: back) ↔ separator <+: d :: front := by
        rw [separator_prefix_cons, separator_prefix_cons]
        cases front with
        | nil => simp [unmarked]
        | cons e front => simp
      rw [List.cons_append, List.infix_cons_iff, start, ih, List.infix_cons_iff, or_assoc]

theorem not_separator_infix_broken {front back : List Char} {c : Char} (unmarked : c ≠ '1')
    (whole : ¬separator <:+: front ++ back) : ¬separator <:+: front ++ c :: back := by
  rw [separator_infix_append_cons unmarked]
  rintro (inside | inside)
  · exact whole (inside.trans (List.prefix_append _ _).isInfix)
  · exact whole (inside.trans (List.suffix_append _ _).isInfix)

/-- A place that does not part the marks of a separator lies in front of both or behind both. -/
theorem outside_separator {front back piece rest : List Char}
    (whole : front ++ back = piece ++ '1' :: '1' :: rest) (outside : front.length ≠ piece.length + 1) :
    (∃ more, piece = front ++ more ∧ back = more ++ '1' :: '1' :: rest) ∨
      ∃ more, front = piece ++ '1' :: '1' :: more ∧ rest = more ++ back := by
  rcases List.append_eq_append_iff.mp whole with ⟨more, rfl, rfl⟩ | ⟨more, rfl, marks⟩
  · exact .inl ⟨more, rfl, rfl⟩
  · match more, marks with
    | [], marks => exact .inl ⟨[], by simp, by simpa using marks.symm⟩
    | [_], _ => simp at outside
    | _ :: _ :: more, marks =>
        simp only [List.cons_append, List.cons.injEq] at marks
        obtain ⟨rfl, rfl, rfl⟩ := marks
        exact .inr ⟨more, rfl, rfl⟩

/-- Where a break is added outside the separators, the text is cut as before: the break goes into one
piece, and all others stay. -/
theorem IsCut.exists_broken {front back : List Char} {pieces : List (List Char)} {c : Char} (place : Nat)
    (cut : IsCut (front ++ back) pieces) (layout : isLineBreak c = true)
    (outside : ∀ start ∈ separatorsFrom place pieces, place + front.length ≠ start + 1) :
    ∃ others, IsCut (front ++ c :: back) others ∧
      others.dropLast.map unbroken = pieces.dropLast.map unbroken := by
  have unmarked : c ≠ '1' := by
    rintro rfl
    cases layout
  generalize whole : front ++ back = text at cut
  induction cut generalizing front place with
  | last noSeparator =>
      subst whole
      exact ⟨_, .last (not_separator_infix_broken unmarked noSeparator), rfl⟩
  | @next piece rest pieces first others ih =>
      rw [separatorsFrom_cons others.ne_nil, List.forall_mem_cons] at outside
      obtain ⟨apart, outside⟩ := outside
      rcases outside_separator whole (by omega) with ⟨more, rfl, rfl⟩ | ⟨more, rfl, rfl⟩
      · refine ⟨(front ++ c :: more) :: pieces, ?_, ?_⟩
        · rw [List.append_assoc] at first
          have kept := not_separator_infix_broken unmarked first
          rw [← List.cons_append, ← List.append_assoc] at kept
          rw [← List.cons_append, ← List.append_assoc]
          exact .next kept others
        · rw [List.dropLast_cons_of_ne_nil others.ne_nil, List.dropLast_cons_of_ne_nil others.ne_nil,
            List.map_cons, List.map_cons, unbroken_append, unbroken_append,
            unbroken_cons_of_break layout]
      · have behind : ∀ start ∈ separatorsFrom (place + piece.length + 2) pieces,
            place + piece.length + 2 + more.length ≠ start + 1 := by
          intro start member
          have elsewhere := outside start member
          simp only [List.length_append, List.length_cons] at elsewhere
          omega
        obtain ⟨broken, cutBroken, same⟩ := ih _ behind rfl
        refine ⟨piece :: broken, ?_, ?_⟩
        · rw [List.append_assoc, List.cons_append, List.cons_append]
          exact .next first cutBroken
        · rw [List.dropLast_cons_of_ne_nil cutBroken.ne_nil, List.dropLast_cons_of_ne_nil others.ne_nil,
            List.map_cons, List.map_cons, same]

/-- A break that is added leaves the chunks as they are. -/
theorem BreakAdded.chunks_eq {text other : List Char} (added : BreakAdded text other) :
    chunks other = chunks text := by
  obtain @⟨front, back, c, nonempty, outside, layout⟩ := added
  obtain ⟨header, front, rfl⟩ := List.exists_cons_of_ne_nil nonempty
  have break_c : isLineBreak c = true := by
    rcases layout with rfl | rfl <;> rfl
  have cut := isCut_cutPairs (front ++ back)
  obtain ⟨others, cutOther, same⟩ := IsCut.exists_broken 1 cut break_c (by
    intro start member
    have elsewhere := outside start member
    rw [List.length_cons] at elsewhere
    omega)
  rw [ProgramText.chunks_eq, ProgramText.chunks_eq]
  simp only [List.cons_append, List.drop_succ_cons, List.drop_zero]
  rw [cutPairs_eq_iff.mpr cutOther, same]

theorem decode_congr {text other : List Char} (same : chunks other = chunks text) :
    decode other = decode text := by
  rw [decode, decode, same]

/-- Layout does not matter.  A break that is added outside the separators leaves the chunks and so the table
or the error of a text as they are, and any number of breaks that are added one after the other do. -/
theorem decode_of_breaksAdded {text other : List Char}
    (added : Relation.ReflTransGen BreakAdded text other) :
    chunks other = chunks text ∧ decode other = decode text := by
  have same : chunks other = chunks text := by
    induction added with
    | refl => rfl
    | tail _ step ih => exact step.chunks_eq.trans ih
  exact ⟨same, decode_congr same⟩

/-- Four marks behind the header are two separators: a break between the two and a break behind both change
nothing. -/
theorem decode_of_breaks_between_separators :
    BreakAdded ['1', '1', '1', '1', '1'] ['1', '1', '1', '\n', '1', '1'] ∧
      BreakAdded ['1', '1', '1', '\n', '1', '1'] ['1', '1', '1', '\n', '1', '1', '\r'] ∧
      chunks ['1', '1', '1', '\n', '1', '1', '\r'] = chunks ['1', '1', '1', '1', '1'] ∧
      decode ['1', '1', '1', '\n', '1', '1', '\r'] = decode ['1', '1', '1', '1', '1'] := by
  have between : BreakAdded ['1', '1', '1', '1', '1'] ['1', '1', '1', '\n', '1', '1'] :=
    .insert ['1', '1', '1'] ['1', '1'] (by decide) (by decide) (.inl rfl)
  have behind : BreakAdded ['1', '1', '1', '\n', '1', '1'] ['1', '1', '1', '\n', '1', '1', '\r'] :=
    .insert ['1', '1', '1', '\n', '1', '1'] [] (by decide) (by decide) (.inr rfl)
  exact ⟨between, behind, decode_of_breaksAdded ((Relation.ReflTransGen.single between).tail behind)⟩

end ProgramText

end TapeMultiplier
