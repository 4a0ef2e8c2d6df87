/-
Module: TapeMultiplier.Proofs.ProgramText
Layer: Proofs
Purpose: Program texts are written and read back.  No separator of an encoded program is cut in the wrong
  place, so decoding gives the encoded transitions with their states named by plain numbers; and
  everything that can be decoded can be encoded again.
Main exports: ProgramText.joined, ProgramText.cutFields_joined, ProgramText.cutPairs_line,
  ProgramText.decode_programText, stateNumber_stateName, Transition.normalized, decode_encode
-/
import TapeMultiplier.Index
import TapeMultiplier.ProgramText
import TapeMultiplier.Proofs.Bind
import TapeMultiplier.Proofs.Text.Decimal

namespace TapeMultiplier

namespace ProgramText

/-!
The marks of an encoded transition stand alone: each is between two runs that are not empty.  Reading from
left to right, the first two marks in a row are therefore those of the separator, and the character in
front of them is the end of a run.
-/

/-- Fields with a mark between each two of them. -/
def joined (first : List Char) (rest : List (List Char)) : List Char :=
  first ++ rest.flatMap ('1' :: ·)

/-! ### Cutting -/

theorem foldr_consFirst (front piece : List Char) (pieces : List (List Char)) :
    front.foldr consFirst (piece :: pieces) = (front ++ piece) :: pieces := by
  induction front with
  | nil => rfl
  | cons c rest ih => rw [List.foldr_cons, ih, consFirst, List.cons_append]

theorem cutFields_append {field : List Char} (unmarked : '1' ∉ field) (rest : List Char) :
    cutFields (field ++ rest) = field.foldr consFirst (cutFields rest) := by
  induction field with
  | nil => rfl
  | cons c field ih =>
      simp only [List.mem_cons, not_or] at unmarked
      obtain ⟨other, unmarked⟩ := unmarked
      rw [List.cons_append, cutFields.eq_2 _ _ (fun same => other same.symm), ih unmarked,
        List.foldr_cons]

/-- Cutting at the marks gives the fields that were joined. -/
theorem cutFields_joined {first : List Char} {rest : List (List Char)}
    (unmarked : ∀ field ∈ first :: rest, '1' ∉ field) :
    cutFields (joined first rest) = first :: rest := by
  induction rest generalizing first with
  | nil =>
      rw [joined, cutFields_append (unmarked first List.mem_cons_self), List.flatMap_nil, cutFields,
        foldr_consFirst, List.append_nil]
  | cons second rest ih =>
      have tail := ih fun field member => unmarked field (List.mem_cons_of_mem first member)
      rw [joined] at tail
      rw [joined, cutFields_append (unmarked first List.mem_cons_self), List.flatMap_cons,
        List.cons_append, cutFields, tail, foldr_consFirst, List.append_nil]

theorem cutPairs_append {field : List Char} (unmarked : '1' ∉ field) (rest : List Char) :
    cutPairs (field ++ rest) = field.foldr consFirst (cutPairs rest) := by
  induction field with
  | nil => rfl
  | cons c field ih =>
      simp only [List.mem_cons, not_or] at unmarked
      obtain ⟨other, unmarked⟩ := unmarked
      rw [List.cons_append, cutPairs.eq_2 _ _ (fun _ same _ => other same.symm), ih unmarked,
        List.foldr_cons]

theorem cutPairs_mark_append {field : List Char} (nonempty : field ≠ []) (unmarked : '1' ∉ field)
    (rest : List Char) :
    cutPairs ('1' :: field ++ rest) = ('1' :: field).foldr consFirst (cutPairs rest) := by
  obtain ⟨c, tail, rfl⟩ := List.exists_cons_of_ne_nil nonempty
  have single : ∀ more, '1' = '1' → c :: tail ++ rest = '1' :: more → False := by
    intro more _ same
    rw [List.cons_append, List.cons.injEq] at same
    exact unmarked (same.1 ▸ List.mem_cons_self)
  rw [List.cons_append, cutPairs.eq_2 _ _ single, cutPairs_append unmarked]
  rfl

theorem cutPairs_flatMap_append {fields : List (List Char)}
    (runs : ∀ field ∈ fields, field ≠ [] ∧ '1' ∉ field) (rest : List Char) :
    cutPairs (fields.flatMap ('1' :: ·) ++ rest) =
      (fields.flatMap ('1' :: ·)).foldr consFirst (cutPairs rest) := by
  induction fields with
  | nil => rfl
  | cons first fields ih =>
      obtain ⟨nonempty, unmarked⟩ := runs first List.mem_cons_self
      have tail := ih fun field member => runs field (List.mem_cons_of_mem first member)
      rw [List.flatMap_cons, List.append_assoc, cutPairs_mark_append nonempty unmarked, tail,
        List.foldr_append]

/-- The first two marks in a row behind joined fields are the separator. -/
theorem cutPairs_joined {first : List Char} {rest : List (List Char)} (unmarked : '1' ∉ first)
    (runs : ∀ field ∈ rest, field ≠ [] ∧ '1' ∉ field) (after : List Char) :
    cutPairs (joined first rest ++ '1' :: '1' :: after) = joined first rest :: cutPairs after := by
  rw [joined, List.append_assoc, cutPairs_append unmarked, cutPairs_flatMap_append runs, cutPairs,
    foldr_consFirst, foldr_consFirst, List.append_nil]

end ProgramText

/-! ### Numbers of names, and names of numbers -/

/-- The name of a state whose number is not too large gives the number back. -/
theorem stateNumber_stateName {number : Nat} (small : number < 10 ^ Text.digitLimit) :
    stateNumber (stateName number) = .ok number := by
  have characters : (stateName number).toList = 'q' :: Text.decimalDigits number := by
    simp [stateName, Text.decimal]
  have digits : (Text.decimalDigits number).all Text.isDigitLike = true := by
    rw [List.all_eq_true]
    intro c member
    exact Text.isDigitLike_of_isDigit (Text.isDigit_of_mem_decimalDigits member)
  have nonempty : (Text.decimalDigits number).isEmpty = false := by
    rw [List.isEmpty_eq_false_iff]
    exact Nat.toDigits_ne_nil
  have read : Text.readInteger (String.ofList (Text.decimalDigits number)) = .ok (number : Int) :=
    Text.readInteger_decimal small
  simp [stateNumber, characters, digits, nonempty, read]

/-- Whether a state name is `q` followed by a number without superfluous leading zeros. -/
def isPlainName (name : String) : Bool :=
  match name.toList with
  | 'q' :: digits => Text.isPlainNumeral digits
  | _ => false

/-- A plain name is the name of its number. -/
theorem stateName_of_stateNumber {name : String} {number : Nat} (plain : isPlainName name = true)
    (numbered : stateNumber name = .ok number) : stateName number = name := by
  unfold isPlainName at plain
  split at plain
  · next digits characters =>
    have allDigits := Text.isDigit_of_isPlainNumeral plain
    have nonempty : digits ≠ [] := by
      rintro rfl
      simp [Text.isPlainNumeral] at plain
    have likeDigits : digits.all Text.isDigitLike = true := by
      rw [List.all_eq_true]
      exact fun c member => Text.isDigitLike_of_isDigit (allDigits c member)
    have read := Text.readInteger_digits digits nonempty allDigits
    simp only [stateNumber, characters, List.isEmpty_eq_false_iff.mpr nonempty, likeDigits, read,
      Bool.not_true, Bool.or_self, Bool.false_eq_true, if_false] at numbered
    by_cases long : Text.digitLimit < digits.length
    · rw [if_pos long] at numbered
      cases numbered
    · rw [if_neg long] at numbered
      cases numbered
      rw [Int.toNat_natCast, stateName, Text.decimal, Text.decimalDigits_ofDigitChars plain]
      apply String.toList_injective
      simp [characters]
  · contradiction

/-! ### Transitions between numbered states -/

/-- A transition whose states are given by their numbers. -/
structure NumberedTransition where
  source : Nat
  read : Symbol
  target : Nat
  write : Symbol
  move : Direction
deriving Repr, Inhabited, DecidableEq

/-- The transition with numbers for its states. -/
def Transition.numbered (t : Transition) : Except StateNameError NumberedTransition := do
  let source ← stateNumber t.source
  let target ← stateNumber t.target
  return { source, read := t.read, target, write := t.write, move := t.move }

namespace NumberedTransition

open ProgramText

/-- The transition with its states named by plain numbers. -/
def named (t : NumberedTransition) : Transition :=
  { source := stateName t.source, read := t.read, target := stateName t.target, write := t.write,
    move := t.move }

/-- The runs that follow the first one. -/
def laterRuns (t : NumberedTransition) : List (List Char) :=
  [run t.read.code, run (t.target + 1), run t.write.code, run t.move.code]

/-- The chunk of the transition. -/
def chunk (t : NumberedTransition) : List Char :=
  joined (run (t.source + 1)) t.laterRuns

theorem not_mem_run (length : Nat) : '1' ∉ run length := by
  rw [run, List.mem_replicate]
  rintro ⟨-, same⟩
  revert same
  decide

theorem run_ne_nil {length : Nat} (positive : 0 < length) : run length ≠ [] := by
  rw [run, Ne, List.replicate_eq_nil_iff]
  omega

theorem laterRuns_runs (t : NumberedTransition) :
    ∀ field ∈ t.laterRuns, field ≠ [] ∧ '1' ∉ field := by
  have readCode : 0 < t.read.code := by cases t.read <;> decide
  have writeCode : 0 < t.write.code := by cases t.write <;> decide
  have moveCode : 0 < t.move.code := by cases t.move <;> decide
  intro field member
  simp only [laterRuns, List.mem_cons, List.not_mem_nil, or_false] at member
  rcases member with rfl | rfl | rfl | rfl
  · exact ⟨run_ne_nil readCode, not_mem_run _⟩
  · exact ⟨run_ne_nil (Nat.succ_pos _), not_mem_run _⟩
  · exact ⟨run_ne_nil writeCode, not_mem_run _⟩
  · exact ⟨run_ne_nil moveCode, not_mem_run _⟩

theorem encodeTransition_eq (t : Transition) : encodeTransition t = chunk <$> t.numbered := by
  unfold encodeTransition Transition.numbered
  cases stateNumber t.source with
  | error error => rfl
  | ok source =>
      cases stateNumber t.target with
      | error error => rfl
      | ok target => simp [chunk, joined, laterRuns, bind, Except.bind, pure, Except.pure, Functor.map, Except.map]

/-- The chunk of a transition is decoded to the transition. -/
theorem decodeChunk_chunk (t : NumberedTransition) : decodeChunk t.chunk = .ok t.named := by
  have cut : cutFields t.chunk = run (t.source + 1) :: t.laterRuns := by
    refine cutFields_joined ?_
    intro field member
    rcases List.mem_cons.mp member with rfl | member
    · exact not_mem_run _
    · exact (t.laterRuns_runs field member).2
  simp only [decodeChunk, cut, laterRuns, decodeState, decodeSymbol, run, List.length_replicate,
    Symbol.ofCode?_code, Direction.ofCode_code]
  rfl

theorem isLineBreak_of_mem_run {c : Char} {length : Nat} (member : c ∈ run length) :
    isLineBreak c = false := by
  rw [run, List.mem_replicate] at member
  rw [member.2]
  decide

theorem isLineBreak_of_mem_chunk {t : NumberedTransition} {c : Char} (member : c ∈ t.chunk) :
    isLineBreak c = false := by
  simp only [chunk, joined, laterRuns, List.flatMap_cons, List.flatMap_nil, List.mem_append,
    List.mem_cons, List.not_mem_nil, or_false] at member
  rcases member with member | (rfl | member) | (rfl | member) | (rfl | member) | rfl | member
  all_goals first | exact isLineBreak_of_mem_run member | decide

theorem filter_line (t : NumberedTransition) :
    ('\n' :: t.chunk).filter (fun c => !isLineBreak c) = t.chunk := by
  rw [List.filter_cons_of_neg (by decide), List.filter_eq_self]
  intro c member
  rw [isLineBreak_of_mem_chunk member]
  rfl

/-- The text of a program. -/
def programText (ts : List NumberedTransition) : List Char :=
  '1' :: '\n' :: ['\n'].intercalate (ts.map fun t => t.chunk ++ ['1', '1']) ++ ['\n']

theorem intercalate_breaks (first : List Char) (rest : List (List Char)) :
    '\n' :: ['\n'].intercalate (first :: rest) = (first :: rest).flatMap ('\n' :: ·) := by
  induction rest generalizing first with
  | nil => simp [List.intercalate]
  | cons second rest ih =>
      rw [List.flatMap_cons, ← ih second]
      simp [List.intercalate]

theorem cutPairs_line (t : NumberedTransition) (after : List Char) :
    cutPairs ('\n' :: (t.chunk ++ '1' :: '1' :: after)) = ('\n' :: t.chunk) :: cutPairs after := by
  have unmarked : '1' ∉ '\n' :: run (t.source + 1) := by
    rw [List.mem_cons, not_or]
    exact ⟨by decide, not_mem_run _⟩
  exact cutPairs_joined unmarked t.laterRuns_runs after

theorem cutPairs_lines (ts : List NumberedTransition) :
    cutPairs ((ts.map fun t => t.chunk ++ ['1', '1']).flatMap ('\n' :: ·) ++ ['\n']) =
      ts.map (fun t => '\n' :: t.chunk) ++ [['\n']] := by
  induction ts with
  | nil => rfl
  | cons t rest ih =>
      simp only [List.map_cons, List.flatMap_cons, List.append_assoc, List.cons_append, List.nil_append]
      rw [cutPairs_line, ih]

/-- The chunks of a program are those of its transitions. -/
theorem chunks_programText (ts : List NumberedTransition) : chunks (programText ts) = ts.map chunk := by
  cases ts with
  | nil => decide
  | cons t rest =>
      have lines := cutPairs_lines (t :: rest)
      rw [List.map_cons] at lines
      rw [chunks, programText, List.map_cons, List.cons_append, List.drop_succ_cons, List.drop_zero,
        intercalate_breaks, lines, List.dropLast_concat, List.map_map]
      exact List.map_congr_left fun t _ => filter_line t

theorem decodeFrom_chunks (index : Int) (ts : List NumberedTransition) :
    decodeFrom index (ts.map chunk) = .ok (ts.map named) := by
  induction ts generalizing index with
  | nil => rfl
  | cons t rest ih =>
      rw [List.map_cons, decodeFrom, decodeNumbered, decodeChunk_chunk]
      simp only [bind, Except.bind, ih]
      rfl

/-- The text of a program is decoded to the program. -/
theorem decode_programText (ts : List NumberedTransition) :
    decode (programText ts) = .ok ⟨ts.map named⟩ := by
  rw [decode, chunks_programText, decodeFrom_chunks]
  rfl

/-- Encoding is numbering, followed by writing the text. -/
theorem encode_eq (ts : List Transition) :
    encode ts = programText <$> ts.mapM Transition.numbered := by
  have line (t : Transition) : (do return (← encodeTransition t) ++ ['1', '1']) =
      (fun t => t.chunk ++ ['1', '1']) <$> t.numbered := by
    rw [encodeTransition_eq]
    cases t.numbered with
    | error error => rfl
    | ok numbered => rfl
  rw [encode, funext line, Except.mapM_map]
  cases ts.mapM Transition.numbered with
  | error error => rfl
  | ok numbered => rfl

end NumberedTransition

/-! ### Lengths of what is cut -/

namespace ProgramText

theorem length_le_of_mem_consFirst {c : Char} {pieces : List (List Char)} {bound : Nat}
    (short : ∀ piece ∈ pieces, piece.length ≤ bound) :
    ∀ piece ∈ consFirst c pieces, piece.length ≤ bound + 1 := by
  intro piece member
  cases pieces with
  | nil =>
      rw [consFirst, List.mem_singleton] at member
      rw [member, List.length_singleton]
      omega
  | cons first rest =>
      rcases List.mem_cons.mp member with rfl | member
      · have first := short first List.mem_cons_self
        rw [List.length_cons]
        omega
      · have other := short piece (List.mem_cons_of_mem first member)
        omega

theorem length_le_of_mem_cutPairs {text : List Char} :
    ∀ piece ∈ cutPairs text, piece.length ≤ text.length := by
  induction text using cutPairs.induct with
  | case1 rest ih =>
      intro piece member
      rw [cutPairs] at member
      rcases List.mem_cons.mp member with rfl | member
      · exact Nat.zero_le _
      · have shorter := ih piece member
        simp only [List.length_cons]
        omega
  | case2 c rest other ih =>
      rw [cutPairs.eq_2 c rest other]
      exact length_le_of_mem_consFirst ih
  | case3 => simp [cutPairs]

theorem length_le_of_mem_cutFields {chunk : List Char} :
    ∀ field ∈ cutFields chunk, field.length ≤ chunk.length := by
  induction chunk using cutFields.induct with
  | case1 rest ih =>
      intro field member
      rw [cutFields] at member
      rcases List.mem_cons.mp member with rfl | member
      · exact Nat.zero_le _
      · have shorter := ih field member
        rw [List.length_cons]
        omega
  | case2 c rest other ih =>
      rw [cutFields.eq_2 c rest other]
      exact length_le_of_mem_consFirst ih
  | case3 => simp [cutFields]

theorem length_le_of_mem_chunks {text chunk : List Char} (member : chunk ∈ chunks text) :
    chunk.length ≤ text.length := by
  rw [chunks, List.mem_map] at member
  obtain ⟨piece, inside, rfl⟩ := member
  have cut := length_le_of_mem_cutPairs piece (List.dropLast_subset _ inside)
  have filtered := List.length_filter_le (fun c => !isLineBreak c) piece
  rw [List.length_drop] at cut
  omega

/-! ### What decoding gives -/

theorem decodeState_eq_ok {field : FieldName} {run : List Char} {name : String}
    (decoded : decodeState field run = .ok name) :
    ∃ number, number < run.length ∧ name = stateName number := by
  unfold decodeState at decoded
  split at decoded
  · cases decoded
  · next number length =>
    cases decoded
    exact ⟨number, by omega, rfl⟩

/-- A decoded transition has states that are named by numbers below the length of the chunk. -/
theorem decodeChunk_eq_ok {chunk : List Char} {t : Transition} (decoded : decodeChunk chunk = .ok t) :
    ∃ numbered : NumberedTransition, t = numbered.named ∧ numbered.source < chunk.length ∧
      numbered.target < chunk.length := by
  unfold decodeChunk at decoded
  split at decoded
  · next source read target write move fields =>
    have short : ∀ field ∈ [source, read, target, write, move], field.length ≤ chunk.length := by
      rw [← fields]
      exact length_le_of_mem_cutFields
    obtain ⟨_, sourceName, decoded⟩ := Except.bind_eq_ok.mp decoded
    obtain ⟨readSymbol, -, decoded⟩ := Except.bind_eq_ok.mp decoded
    obtain ⟨_, targetName, decoded⟩ := Except.bind_eq_ok.mp decoded
    obtain ⟨writeSymbol, -, decoded⟩ := Except.bind_eq_ok.mp decoded
    obtain ⟨sourceNumber, sourceBelow, rfl⟩ := decodeState_eq_ok sourceName
    obtain ⟨targetNumber, targetBelow, rfl⟩ := decodeState_eq_ok targetName
    cases decoded
    have sourceShort := short source (by simp)
    have targetShort := short target (by simp)
    exact ⟨⟨sourceNumber, readSymbol, targetNumber, writeSymbol, Direction.ofCode move.length⟩, rfl,
      Nat.lt_of_lt_of_le sourceBelow sourceShort, Nat.lt_of_lt_of_le targetBelow targetShort⟩
  · cases decoded

theorem decodeFrom_eq_ok {index : Int} {pieces : List (List Char)} {ts : List Transition} {bound : Nat}
    (short : ∀ piece ∈ pieces, piece.length ≤ bound) (decoded : decodeFrom index pieces = .ok ts) :
    ∃ numbered : List NumberedTransition, ts = numbered.map NumberedTransition.named ∧
      ∀ t ∈ numbered, t.source < bound ∧ t.target < bound := by
  induction pieces generalizing index ts with
  | nil =>
      cases decoded
      exact ⟨[], rfl, by simp⟩
  | cons piece rest ih =>
      rw [decodeFrom] at decoded
      obtain ⟨first, firstDecoded, decoded⟩ := Except.bind_eq_ok.mp decoded
      obtain ⟨others, othersDecoded, decoded⟩ := Except.bind_eq_ok.mp decoded
      cases decoded
      obtain ⟨numberedRest, rfl, restBelow⟩ := ih (fun other member =>
        short other (List.mem_cons_of_mem piece member)) othersDecoded
      rw [decodeNumbered] at firstDecoded
      split at firstDecoded
      · next t chunkDecoded =>
        cases firstDecoded
        obtain ⟨numberedFirst, rfl, sourceBelow, targetBelow⟩ := decodeChunk_eq_ok chunkDecoded
        have firstShort := short piece List.mem_cons_self
        refine ⟨numberedFirst :: numberedRest, rfl, ?_⟩
        intro t member
        rcases List.mem_cons.mp member with rfl | member
        · exact ⟨by omega, by omega⟩
        · exact restBelow t member
      · cases firstDecoded

/-- A decoded program is a program between numbered states. -/
theorem decode_eq_ok {text : List Char} {table : Table} (decoded : decode text = .ok table) :
    ∃ numbered : List NumberedTransition,
      table.transitions = numbered.map NumberedTransition.named ∧
      ∀ t ∈ numbered, t.source < text.length ∧ t.target < text.length := by
  rw [decode] at decoded
  obtain ⟨ts, found, rest⟩ := Except.bind_eq_ok.mp decoded
  cases rest
  exact decodeFrom_eq_ok (fun piece member => length_le_of_mem_chunks member) found

end ProgramText

namespace NumberedTransition

theorem numbered_named {t : NumberedTransition} (source : t.source < 10 ^ Text.digitLimit)
    (target : t.target < 10 ^ Text.digitLimit) : t.named.numbered = .ok t := by
  simp only [Transition.numbered, named, stateNumber_stateName source, stateNumber_stateName target]
  rfl

theorem mapM_numbered_named {ts : List NumberedTransition}
    (small : ∀ t ∈ ts, t.source < 10 ^ Text.digitLimit ∧ t.target < 10 ^ Text.digitLimit) :
    (ts.map named).mapM Transition.numbered = .ok ts := by
  induction ts with
  | nil => rfl
  | cons t rest ih =>
      obtain ⟨source, target⟩ := small t List.mem_cons_self
      have others := ih fun other member => small other (List.mem_cons_of_mem t member)
      rw [List.map_cons, List.mapM_cons, numbered_named source target, others]
      rfl

theorem named_of_plain {t : Transition} {numbered : NumberedTransition}
    (found : t.numbered = .ok numbered) (source : isPlainName t.source = true)
    (target : isPlainName t.target = true) : numbered.named = t := by
  obtain ⟨sourceNumber, sourceFound, found⟩ := Except.bind_eq_ok.mp found
  obtain ⟨targetNumber, targetFound, found⟩ := Except.bind_eq_ok.mp found
  cases found
  rw [named, stateName_of_stateNumber source sourceFound, stateName_of_stateNumber target targetFound]

theorem map_named_of_plain {ts : List Transition} {numbered : List NumberedTransition}
    (found : ts.mapM Transition.numbered = .ok numbered)
    (plain : ∀ t ∈ ts, isPlainName t.source = true ∧ isPlainName t.target = true) :
    numbered.map named = ts := by
  induction ts generalizing numbered with
  | nil =>
      cases found
      rfl
  | cons t rest ih =>
      rw [List.mapM_cons] at found
      obtain ⟨first, firstFound, found⟩ := Except.bind_eq_ok.mp found
      obtain ⟨others, othersFound, found⟩ := Except.bind_eq_ok.mp found
      cases found
      obtain ⟨source, target⟩ := plain t List.mem_cons_self
      rw [List.map_cons, named_of_plain firstFound source target,
        ih othersFound fun other member => plain other (List.mem_cons_of_mem t member)]

end NumberedTransition

/-- The transition with its states renamed to `q` and the plain form of their numbers. -/
def Transition.normalized (t : Transition) : Except StateNameError Transition :=
  NumberedTransition.named <$> t.numbered

theorem mapM_normalized (ts : List Transition) :
    ts.mapM Transition.normalized =
      List.map NumberedTransition.named <$> ts.mapM Transition.numbered :=
  Except.mapM_map NumberedTransition.named ts

-- A run as long as the largest machine word has a number of nineteen digits, far below the limit.
theorem lt_digitLimit_of_fitsIndex {number length : Nat} (fits : fitsIndex length = true)
    (below : number < length) : number < 10 ^ Text.digitLimit := by
  have word : length ≤ 9223372036854775807 := by
    simp only [fitsIndex, Bool.and_eq_true, decide_eq_true_eq] at fits
    omega
  calc
    number < length := below
    _ ≤ 9223372036854775807 := word
    _ ≤ 10 ^ 19 := by decide
    _ ≤ 10 ^ Text.digitLimit := Nat.pow_le_pow_right (by decide) (by decide)

/-- Writing and reading programs.  What is encoded is decoded to the same transitions in the same order,
with states renamed to `q` and the plain form of their numbers; if all names are plain, to the very
transitions.  And everything that is decoded from a text, whose length is a machine word, is encoded again,
to a text of the same table. -/
theorem ProgramText.decode_encode :
    (∀ ts text, encode ts = .ok text →
      (∃ normal, ts.mapM Transition.normalized = .ok normal ∧ decode text = .ok ⟨normal⟩) ∧
      ((∀ t ∈ ts, isPlainName t.source = true ∧ isPlainName t.target = true) →
        decode text = .ok ⟨ts⟩)) ∧
    ∀ text table, fitsIndex text.length = true → decode text = .ok table →
      ∃ again, encode table.transitions = .ok again ∧ decode again = .ok table := by
  constructor
  · intro ts text encoded
    rw [NumberedTransition.encode_eq] at encoded
    cases found : ts.mapM Transition.numbered with
    | error error =>
        rw [found] at encoded
        cases encoded
    | ok numbered =>
        rw [found] at encoded
        cases encoded
        constructor
        · refine ⟨numbered.map NumberedTransition.named, ?_, ?_⟩
          · rw [mapM_normalized, found]
            rfl
          · exact NumberedTransition.decode_programText numbered
        · intro plain
          rw [NumberedTransition.decode_programText,
            NumberedTransition.map_named_of_plain found plain]
  · intro text table fits decoded
    obtain ⟨numbered, transitions, below⟩ := decode_eq_ok decoded
    have found : table.transitions.mapM Transition.numbered = .ok numbered := by
      rw [transitions]
      refine NumberedTransition.mapM_numbered_named ?_
      intro t member
      obtain ⟨source, target⟩ := below t member
      exact ⟨lt_digitLimit_of_fitsIndex fits source, lt_digitLimit_of_fitsIndex fits target⟩
    refine ⟨NumberedTransition.programText numbered, ?_, ?_⟩
    · rw [NumberedTransition.encode_eq, found]
      rfl
    · rw [NumberedTransition.decode_programText, ← transitions]

/-- A program that marks the blank under the head. -/
def markBlank (state : String) : List Transition :=
  [{ source := state, read := .blank, target := "q0", write := .split, move := .right }]

/-- A padded state number comes back as a plain one, and the plain one is kept. -/
theorem ProgramText.decode_encode_padded :
    ∃ text, encode (markBlank "q007") = .ok text ∧ decode text = .ok ⟨markBlank "q7"⟩ ∧
      ∃ again, encode (markBlank "q7") = .ok again ∧ decode again = .ok ⟨markBlank "q7"⟩ := by
  have encoded : encode (markBlank "q007") =
      .ok "1\n0000000010001010010011\n".toList := by
    rfl
  obtain ⟨⟨normal, normalized, decoded⟩, -⟩ := decode_encode.1 _ _ encoded
  have plain : normal = markBlank "q7" := by
    have renamed : (markBlank "q007").mapM Transition.normalized = .ok (markBlank "q7") := by
      rfl
    rw [renamed] at normalized
    cases normalized
    rfl
  rw [plain] at decoded
  exact ⟨_, encoded, decoded, decode_encode.2 _ _ (by decide) decoded⟩

end TapeMultiplier
