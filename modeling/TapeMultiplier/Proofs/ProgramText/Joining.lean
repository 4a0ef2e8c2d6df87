/-
Module: TapeMultiplier.Proofs.ProgramText.Joining
Layer: Proofs
Purpose: Program texts are put one behind the other.  Where only line breaks stand behind the last separator
  of a text, whatever follows is cut as it would be behind a header of its own, so tables are put one behind
  the other and errors keep their order.
Main exports: ProgramText.BreaksBehind, ProgramText.chunks_append, ProgramText.decodeFrom_append,
  ProgramText.decodeFrom_add, DecodeError.behind, Transition.Canonical, ProgramText.decode_append
-/
import TapeMultiplier.Proofs.ProgramText.Grammar
import TapeMultiplier.Proofs.ProgramText.LineBreaks

namespace TapeMultiplier

/-- The error as it is where a number of transitions stand in front of the text. -/
def DecodeError.behind (count : Nat) (error : DecodeError) : DecodeError :=
  { error with index := error.index + count }

/-- The states of the transition are named by plain numbers, none with more digits than can be read. -/
def Transition.Canonical (t : Transition) : Prop :=
  ∃ numbered : NumberedTransition, numbered.source < 10 ^ Text.digitLimit ∧
    numbered.target < 10 ^ Text.digitLimit ∧ numbered.named = t

namespace ProgramText

/-! ### Chunks -/

/-- What stands behind the last separator of a text, or behind its header if it has none, is only line
breaks. -/
def BreaksBehind (text : List Char) : Prop :=
  ∃ pieces last, IsCut (text.drop 1) (pieces ++ [last]) ∧ ∀ c ∈ last, c = '\n' ∨ c = '\r'

theorem unbroken_eq_nil {piece : List Char} (breaks : ∀ c ∈ piece, c = '\n' ∨ c = '\r') :
    unbroken piece = [] := by
  rw [unbroken, List.filter_eq_nil_iff]
  intro c member
  rcases breaks c member with rfl | rfl <;> decide

/-- The chunks of a text that only line breaks end are followed by those that the rest has behind a header
of its own. -/
theorem chunks_append {first : List Char} (nonempty : first ≠ []) (breaks : BreaksBehind first)
    (rest : List Char) : chunks (first ++ rest) = chunks first ++ chunks ('1' :: rest) := by
  obtain ⟨header, body, rfl⟩ := List.exists_cons_of_ne_nil nonempty
  obtain ⟨pieces, last, cut, breaks⟩ := breaks
  rw [List.drop_succ_cons, List.drop_zero] at cut
  have unmarked : '1' ∉ last := by
    intro member
    rcases breaks _ member with same | same <;> cases same
  obtain ⟨piece, others, found⟩ := List.exists_cons_of_ne_nil (isCut_cutPairs rest).ne_nil
  have behind := isCut_cutPairs rest
  rw [found] at behind
  -- The breaks join the first piece of the rest, or the piece that is thrown away if it is the only one.
  have layout : unbroken (last ++ piece) = unbroken piece := by
    rw [unbroken_append, unbroken_eq_nil breaks, List.nil_append]
  simp only [chunks_eq, List.cons_append, List.drop_succ_cons, List.drop_zero]
  rw [cutPairs_eq_iff.mpr cut, cutPairs_eq_iff.mpr (cut.append unmarked behind), found,
    List.dropLast_concat, List.dropLast_append_of_ne_nil (List.cons_ne_nil _ _), List.map_append]
  cases others with
  | nil => rfl
  | cons second others =>
      rw [List.dropLast_cons_of_ne_nil (List.cons_ne_nil _ _),
        List.dropLast_cons_of_ne_nil (List.cons_ne_nil _ _), List.map_cons, List.map_cons, layout]

/-! ### Transitions -/

theorem decodeNumbered_add (index : Int) (count : Nat) (chunk : List Char) :
    decodeNumbered (index + count) chunk = (decodeNumbered index chunk).mapError (.behind count) := by
  rw [decodeNumbered, decodeNumbered]
  cases decodeChunk chunk <;> rfl

/-- Chunks that are counted from a later number on have the same transitions or the same fault, under a later
number. -/
theorem decodeFrom_add (index : Int) (count : Nat) (pieces : List (List Char)) :
    decodeFrom (index + count) pieces = (decodeFrom index pieces).mapError (.behind count) := by
  induction pieces generalizing index with
  | nil => rfl
  | cons chunk rest ih =>
      rw [decodeFrom, decodeFrom, decodeNumbered_add, Int.add_right_comm, ih]
      cases decodeNumbered index chunk with
      | error error => rfl
      | ok t => cases decodeFrom (index + 1) rest <;> rfl

/-- Chunks are decoded from left to right, each with its own number. -/
theorem decodeFrom_append (index : Int) (front back : List (List Char)) :
    decodeFrom index (front ++ back) = do
      let transitions ← decodeFrom index front
      let others ← decodeFrom (index + front.length) back
      return transitions ++ others := by
  induction front generalizing index with
  | nil =>
      rw [List.nil_append, List.length_nil, Int.natCast_zero, Int.add_zero]
      cases decodeFrom index back <;> rfl
  | cons chunk front ih =>
      rw [List.cons_append, decodeFrom, decodeFrom, ih, List.length_cons, Int.natCast_succ,
        Int.add_right_comm, Int.add_assoc]
      cases decodeNumbered index chunk with
      | error error => rfl
      | ok t =>
          cases decodeFrom (index + 1) front with
          | error error => rfl
          | ok ts => cases decodeFrom (index + (front.length + 1)) back <;> rfl

/-! ### Programs -/

theorem decode_eq (text : List Char) : decode text = Table.mk <$> decodeFrom 1 (chunks text) := by
  rw [decode]
  cases decodeFrom 1 (chunks text) <;> rfl

/-- A text whose chunks are those of two others has the table of the first followed by that of the second,
or the first error. -/
theorem decode_of_chunks_append {text first second : List Char}
    (joined : chunks text = chunks first ++ chunks second) :
    decode text = do
      let table ← decode first
      let others ← (decode second).mapError (.behind table.transitions.length)
      return ⟨table.transitions ++ others.transitions⟩ := by
  have length : ∀ ts, decodeFrom 1 (chunks first) = .ok ts → (chunks first).length = ts.length :=
    fun ts found => (decodeFrom_eq_ok_iff.mp found).length_eq
  rw [decode_eq, decode_eq, decode_eq, joined, decodeFrom_append, decodeFrom_add]
  cases found : decodeFrom 1 (chunks first) with
  | error error => rfl
  | ok ts =>
      rw [length ts found]
      cases decodeFrom 1 (chunks second) <;> rfl

theorem breaksBehind_programText (ts : List NumberedTransition) :
    BreaksBehind (NumberedTransition.programText ts) := by
  cases ts with
  | nil =>
      refine ⟨[], ['\n', '\n'], .last (by decide), ?_⟩
      simp
  | cons t rest =>
      have lines := NumberedTransition.cutPairs_lines (t :: rest)
      rw [List.map_cons, ← NumberedTransition.intercalate_breaks] at lines
      refine ⟨_, ['\n'], cutPairs_eq_iff.mp lines, ?_⟩
      simp

/-- Canonical transitions are encoded. -/
theorem encode_of_canonical {ts : List Transition} (canonical : ∀ t ∈ ts, t.Canonical) :
    ∃ numbered : List NumberedTransition, ts = numbered.map NumberedTransition.named ∧
      encode ts = .ok (NumberedTransition.programText numbered) := by
  choose! number source target plain using canonical
  have same : ts = (ts.map number).map NumberedTransition.named := by
    rw [List.map_map, List.map_congr_left (f := NumberedTransition.named ∘ number) plain, List.map_id']
  refine ⟨ts.map number, same, ?_⟩
  have found : ts.mapM Transition.numbered = .ok (ts.map number) := by
    conv_lhs => rw [same]
    refine NumberedTransition.mapM_numbered_named (List.forall_mem_map.mpr fun t member => ?_)
    exact ⟨source t member, target t member⟩
  rw [NumberedTransition.encode_eq, found]
  rfl

/-- Putting program texts one behind the other.  Where only line breaks stand behind the last separator of a
text that is not empty, the chunks of any rest follow its own as they stand behind a header.  So the table of
the rest follows that of the text, or the rest has its error under a later number; and an error of the text
stays what it is.  In particular the text of one program and that of another without its header are the
text of both. -/
theorem decode_append :
    (∀ first rest, first ≠ [] → BreaksBehind first →
      chunks (first ++ rest) = chunks first ++ chunks ('1' :: rest) ∧
      (∀ table, decode first = .ok table →
        (∀ others, decode ('1' :: rest) = .ok others →
          decode (first ++ rest) = .ok ⟨table.transitions ++ others.transitions⟩) ∧
        ∀ error, decode ('1' :: rest) = .error error →
          decode (first ++ rest) = .error (error.behind table.transitions.length)) ∧
      ∀ error, decode first = .error error → decode (first ++ rest) = .error error) ∧
    ∀ us vs, (∀ t ∈ us ++ vs, t.Canonical) →
      ∃ first second, encode us = .ok first ∧ encode vs = .ok second ∧
        decode (first ++ second.drop 1) = .ok ⟨us ++ vs⟩ := by
  constructor
  · intro first rest nonempty breaks
    have joined := chunks_append nonempty breaks rest
    refine ⟨joined, fun table found => ⟨fun others behind => ?_, fun error behind => ?_⟩,
      fun error failed => ?_⟩
    · rw [decode_of_chunks_append joined, found, behind]
      rfl
    · rw [decode_of_chunks_append joined, found, behind]
      rfl
    · rw [decode_of_chunks_append joined, failed]
      rfl
  · intro us vs canonical
    obtain ⟨canonicalUs, canonicalVs⟩ := List.forall_mem_append.mp canonical
    obtain ⟨numberedUs, plainUs, encodedUs⟩ := encode_of_canonical canonicalUs
    obtain ⟨numberedVs, plainVs, encodedVs⟩ := encode_of_canonical canonicalVs
    refine ⟨_, _, encodedUs, encodedVs, ?_⟩
    -- The header of the second text is the one that its rest is given.
    have nonempty : NumberedTransition.programText numberedUs ≠ [] := List.cons_ne_nil _ _
    have joined := chunks_append nonempty (breaksBehind_programText numberedUs)
      ((NumberedTransition.programText numberedVs).drop 1)
    have header : '1' :: (NumberedTransition.programText numberedVs).drop 1 =
        NumberedTransition.programText numberedVs := rfl
    rw [header] at joined
    rw [decode_of_chunks_append joined, NumberedTransition.decode_programText,
      NumberedTransition.decode_programText, plainUs, plainVs]
    rfl

/-- Behind the text of a program with one transition, what follows has its errors counted from the second on;
and the programs of two texts are read as one. -/
theorem decode_append_single :
    ∃ first, encode (markBlank "q7") = .ok first ∧
      decode (first ++ ['0', '1', '1']) = .error ⟨2, .fieldCount 1 "0"⟩ ∧
      decode (first ++ first.drop 1) = .ok ⟨markBlank "q7" ++ markBlank "q7"⟩ := by
  have canonical : ∀ t ∈ markBlank "q7", t.Canonical := by
    have small : ∀ number < 8, number < 10 ^ Text.digitLimit := fun number below =>
      lt_digitLimit_of_fitsIndex (by decide) below
    intro t member
    rw [markBlank, List.mem_singleton] at member
    exact ⟨{ source := 7, read := .blank, target := 0, write := .split, move := .right },
      small 7 (by decide), small 0 (by decide), by rw [member]; rfl⟩
  obtain ⟨numbered, plain, text⟩ := encode_of_canonical canonical
  obtain ⟨first, second, encoded, encoded', both⟩ :=
    decode_append.2 _ _ (List.forall_mem_append.mpr ⟨canonical, canonical⟩)
  obtain rfl : first = second := Except.ok.inj (encoded.symm.trans encoded')
  obtain rfl : first = NumberedTransition.programText numbered :=
    Except.ok.inj (encoded.symm.trans text)
  have decoded := NumberedTransition.decode_programText numbered
  rw [← plain] at decoded
  have alone : decode ['1', '0', '1', '1'] = .error ⟨1, .fieldCount 1 "0"⟩ := rfl
  obtain ⟨-, later, -⟩ := decode_append.1 _ ['0', '1', '1'] (List.cons_ne_nil _ _)
    (breaksBehind_programText numbered)
  exact ⟨_, encoded, (later _ decoded).2 _ alone, both⟩

end ProgramText

end TapeMultiplier
