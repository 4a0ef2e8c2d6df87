/-
Module: TapeMultiplier.Proofs.ProgramText.Grammar
Layer: Proofs
Purpose: The grammar of program texts.  A text has a table if each of its chunks has five fields whose
  lengths stand for states and letters; the table holds what the chunks spell, in their order.  Any other
  text is refused with the first check that its first faulty chunk fails.
Main exports: ProgramText.Fields, ProgramText.Spells, ProgramText.FirstFault,
  ProgramText.decodeChunk_eq_ok_iff, ProgramText.decodeChunk_eq_error_iff, ProgramText.decode_grammar
-/
import TapeMultiplier.Proofs.ProgramText.Cut

namespace TapeMultiplier

/-! ### Lengths and letters -/

/-- The lengths that stand for letters are those from 1 to 6. -/
theorem Symbol.exists_code_iff {length : Nat} :
    (∃ symbol : Symbol, symbol.code = length) ↔ 1 ≤ length ∧ length ≤ 6 := by
  constructor
  · rintro ⟨symbol, rfl⟩
    cases symbol <;> decide
  · rintro ⟨positive, small⟩
    match length, positive, small with
    | 1, _, _ => exact ⟨number, rfl⟩
    | 2, _, _ => exact ⟨split, rfl⟩
    | 3, _, _ => exact ⟨blank, rfl⟩
    | 4, _, _ => exact ⟨calculation, rfl⟩
    | 5, _, _ => exact ⟨replacedOne, rfl⟩
    | 6, _, _ => exact ⟨replacedZero, rfl⟩

theorem Symbol.ofCode?_eq_some_iff {length : Nat} {symbol : Symbol} :
    ofCode? length = some symbol ↔ symbol.code = length := by
  constructor
  · intro found
    unfold ofCode? at found
    split at found <;> cases found <;> rfl
  · rintro rfl
    exact ofCode?_code symbol

/-- A single mark moves to the left. -/
theorem Direction.ofCode_eq_left_iff {length : Nat} : ofCode length = left ↔ length = 1 := by
  rw [ofCode]
  split
  · next one => exact iff_of_true rfl (by exact_mod_cast one)
  · next other => exact iff_of_false nofun (by exact_mod_cast other)

/-- The message of a decoding error starts with the number of the transition. -/
theorem DecodeError.names_index (error : DecodeError) :
    ("Transition " ++ Text.decimalInt error.index ++ ": ").toList <+: error.message.toList := by
  simp only [message, String.toList_append]
  exact List.prefix_append _ _

namespace ProgramText

/-! ### Chunks -/

/-- The fields of a transition, of which only the lengths count. -/
structure Fields where
  source : List Char
  read : List Char
  target : List Char
  write : List Char
  move : List Char

namespace Fields

/-- A chunk has these fields, with a mark between each two of them. -/
structure Of (fields : Fields) (chunk : List Char) : Prop where
  chunk_eq : chunk = fields.source ++ '1' :: (fields.read ++ '1' :: (fields.target ++ '1' ::
    (fields.write ++ '1' :: fields.move)))
  unmarked : ∀ field ∈ [fields.source, fields.read, fields.target, fields.write, fields.move],
    '1' ∉ field

/-- The lengths of the fields stand for something.  Every length of the last field does. -/
structure Legible (fields : Fields) : Prop where
  source : 1 ≤ fields.source.length
  read : 1 ≤ fields.read.length ∧ fields.read.length ≤ 6
  target : 1 ≤ fields.target.length
  write : 1 ≤ fields.write.length ∧ fields.write.length ≤ 6

/-- The transition that the lengths of the fields stand for. -/
structure StandFor (fields : Fields) (t : Transition) : Prop where
  source : t.source = "q" ++ Text.decimal (fields.source.length - 1)
  read : t.read.code = fields.read.length
  target : t.target = "q" ++ Text.decimal (fields.target.length - 1)
  write : t.write.code = fields.write.length
  move : t.move = .left ↔ fields.move.length = 1

end Fields

/-- A chunk is well formed: it has four marks, and the five fields around them are legible. -/
def WellFormed (chunk : List Char) : Prop :=
  chunk.count '1' = 4 ∧ ∀ fields : Fields, fields.Of chunk → fields.Legible

/-- A well-formed chunk spells a transition. -/
def Spells (chunk : List Char) (t : Transition) : Prop :=
  ∃ fields : Fields, fields.Of chunk ∧ fields.Legible ∧ fields.StandFor t

/-- The first check that a chunk fails: the number of fields comes first, then the fields in their
order. -/
inductive FirstFault (chunk : List Char) : ChunkFault → Prop where
  | fieldCount (other : chunk.count '1' ≠ 4) :
      FirstFault chunk (.fieldCount (chunk.count '1' + 1) (String.ofList chunk))
  | source {fields : Fields} (five : fields.Of chunk) (empty : fields.source.length = 0) :
      FirstFault chunk (.emptyState .source)
  | read {fields : Fields} (five : fields.Of chunk) (source : 1 ≤ fields.source.length)
      (noLetter : ¬(1 ≤ fields.read.length ∧ fields.read.length ≤ 6)) :
      FirstFault chunk (.noSymbol .read fields.read.length)
  | target {fields : Fields} (five : fields.Of chunk) (source : 1 ≤ fields.source.length)
      (read : 1 ≤ fields.read.length ∧ fields.read.length ≤ 6) (empty : fields.target.length = 0) :
      FirstFault chunk (.emptyState .target)
  | write {fields : Fields} (five : fields.Of chunk) (source : 1 ≤ fields.source.length)
      (read : 1 ≤ fields.read.length ∧ fields.read.length ≤ 6) (target : 1 ≤ fields.target.length)
      (noLetter : ¬(1 ≤ fields.write.length ∧ fields.write.length ≤ 6)) :
      FirstFault chunk (.noSymbol .write fields.write.length)

theorem Fields.Of.cutFields_eq {fields : Fields} {chunk : List Char} (five : fields.Of chunk) :
    cutFields chunk = [fields.source, fields.read, fields.target, fields.write, fields.move] := by
  refine cutFields_eq_iff.mpr ⟨?_, five.unmarked⟩
  rw [five.chunk_eq]
  simp [joined]

theorem Fields.Of.count_eq {fields : Fields} {chunk : List Char} (five : fields.Of chunk) :
    chunk.count '1' = 4 := by
  have counted := length_cutFields chunk
  rw [five.cutFields_eq] at counted
  exact (Nat.succ.inj counted).symm

/-- The fields of a chunk are determined. -/
theorem Fields.Of.unique {fields others : Fields} {chunk : List Char} (five : fields.Of chunk)
    (again : others.Of chunk) : fields = others := by
  have same := five.cutFields_eq.symm.trans again.cutFields_eq
  cases fields
  cases others
  simpa using same

theorem exists_fields {chunk : List Char} (count : chunk.count '1' = 4) :
    ∃ fields : Fields, fields.Of chunk := by
  have length := length_cutFields chunk
  rw [count] at length
  match cut : cutFields chunk, length with
  | [source, read, target, write, move], _ =>
    obtain ⟨chunk_eq, unmarked⟩ := cutFields_eq_iff.mp cut
    exact ⟨⟨source, read, target, write, move⟩, by simpa [joined] using chunk_eq, unmarked⟩

/-! ### Decoding a chunk -/

theorem decodeState_of_pos {field : FieldName} {run : List Char} (positive : 1 ≤ run.length) :
    decodeState field run = .ok ("q" ++ Text.decimal (run.length - 1)) := by
  obtain ⟨number, length⟩ := Nat.exists_eq_succ_of_ne_zero (Nat.ne_of_gt positive)
  rw [decodeState, length]
  rfl

theorem decodeState_of_empty {field : FieldName} {run : List Char} (empty : run.length = 0) :
    decodeState field run = .error (.emptyState field) := by
  rw [decodeState, empty]

theorem decodeSymbol_of_code {field : FieldName} {run : List Char} {symbol : Symbol}
    (code : symbol.code = run.length) : decodeSymbol field run = .ok symbol := by
  rw [decodeSymbol, Symbol.ofCode?_eq_some_iff.mpr code]

theorem decodeSymbol_of_none {field : FieldName} {run : List Char}
    (noLetter : ¬(1 ≤ run.length ∧ run.length ≤ 6)) :
    decodeSymbol field run = .error (.noSymbol field run.length) := by
  have none : Symbol.ofCode? run.length = none := by
    rw [← Symbol.exists_code_iff] at noLetter
    refine Option.eq_none_iff_forall_ne_some.mpr fun symbol found => noLetter ⟨symbol, ?_⟩
    exact Symbol.ofCode?_eq_some_iff.mp found
  rw [decodeSymbol, none]

/-- A chunk of five fields is decoded field by field. -/
theorem Fields.Of.decodeChunk_eq {fields : Fields} {chunk : List Char} (five : fields.Of chunk) :
    decodeChunk chunk = (do
      let source ← decodeState .source fields.source
      let read ← decodeSymbol .read fields.read
      let target ← decodeState .target fields.target
      let write ← decodeSymbol .write fields.write
      return { source, read, target, write, move := Direction.ofCode fields.move.length }) := by
  unfold decodeChunk
  rw [five.cutFields_eq]

theorem decodeChunk_of_spells {chunk : List Char} {t : Transition} (spells : Spells chunk t) :
    decodeChunk chunk = .ok t := by
  obtain ⟨fields, five, legible, stand⟩ := spells
  have move : Direction.ofCode fields.move.length = t.move := by
    cases direction : t.move with
    | left => exact Direction.ofCode_eq_left_iff.mpr (stand.move.mp direction)
    | right =>
        refine if_neg fun one => ?_
        have left := stand.move.mpr (by exact_mod_cast one)
        rw [direction] at left
        cases left
  rw [five.decodeChunk_eq, decodeState_of_pos legible.source, decodeSymbol_of_code stand.read,
    decodeState_of_pos legible.target, decodeSymbol_of_code stand.write, move, ← stand.source,
    ← stand.target]
  rfl

theorem decodeChunk_of_firstFault {chunk : List Char} {fault : ChunkFault}
    (first : FirstFault chunk fault) : decodeChunk chunk = .error fault := by
  cases first with
  | fieldCount other =>
      have length := length_cutFields chunk
      unfold decodeChunk
      split
      · next cut =>
        rw [cut] at length
        exact absurd (Nat.succ.inj length).symm other
      · rw [length]
  | source five empty =>
      rw [five.decodeChunk_eq, decodeState_of_empty empty]
      rfl
  | read five source noLetter =>
      rw [five.decodeChunk_eq, decodeState_of_pos source, decodeSymbol_of_none noLetter]
      rfl
  | target five source read empty =>
      obtain ⟨symbol, code⟩ := Symbol.exists_code_iff.mpr read
      rw [five.decodeChunk_eq, decodeState_of_pos source, decodeSymbol_of_code code,
        decodeState_of_empty empty]
      rfl
  | write five source read target noLetter =>
      obtain ⟨symbol, code⟩ := Symbol.exists_code_iff.mpr read
      rw [five.decodeChunk_eq, decodeState_of_pos source, decodeSymbol_of_code code,
        decodeState_of_pos target, decodeSymbol_of_none noLetter]
      rfl

/-- Legible fields stand for a transition. -/
theorem Fields.Legible.exists_standFor {fields : Fields} (legible : fields.Legible) :
    ∃ t, fields.StandFor t := by
  obtain ⟨read, readCode⟩ := Symbol.exists_code_iff.mpr legible.read
  obtain ⟨write, writeCode⟩ := Symbol.exists_code_iff.mpr legible.write
  exact ⟨{ source := "q" ++ Text.decimal (fields.source.length - 1), read
           target := "q" ++ Text.decimal (fields.target.length - 1), write
           move := Direction.ofCode fields.move.length },
    rfl, readCode, rfl, writeCode, Direction.ofCode_eq_left_iff⟩

/-- A chunk that spells no transition fails a first check. -/
theorem wellFormed_or_firstFault (chunk : List Char) :
    WellFormed chunk ∨ ∃ fault, FirstFault chunk fault := by
  by_cases count : chunk.count '1' = 4
  case neg => exact .inr ⟨_, .fieldCount count⟩
  obtain ⟨fields, five⟩ := exists_fields count
  by_cases source : 1 ≤ fields.source.length
  case neg => exact .inr ⟨_, .source five (by omega)⟩
  by_cases read : 1 ≤ fields.read.length ∧ fields.read.length ≤ 6
  case neg => exact .inr ⟨_, .read five source read⟩
  by_cases target : 1 ≤ fields.target.length
  case neg => exact .inr ⟨_, .target five source read (by omega)⟩
  by_cases write : 1 ≤ fields.write.length ∧ fields.write.length ≤ 6
  case neg => exact .inr ⟨_, .write five source read target write⟩
  refine .inl ⟨count, fun others again => ?_⟩
  rw [← five.unique again]
  exact ⟨source, read, target, write⟩

theorem WellFormed.exists_spells {chunk : List Char} (wellFormed : WellFormed chunk) :
    ∃ t, Spells chunk t := by
  obtain ⟨fields, five⟩ := exists_fields wellFormed.1
  have legible := wellFormed.2 fields five
  obtain ⟨t, stand⟩ := legible.exists_standFor
  exact ⟨t, fields, five, legible, stand⟩

theorem Spells.wellFormed {chunk : List Char} {t : Transition} (spells : Spells chunk t) :
    WellFormed chunk := by
  obtain ⟨fields, five, legible, -⟩ := spells
  exact ⟨five.count_eq, fun others again => five.unique again ▸ legible⟩

/-- A chunk is decoded to the transition that it spells. -/
theorem decodeChunk_eq_ok_iff {chunk : List Char} {t : Transition} :
    decodeChunk chunk = .ok t ↔ Spells chunk t := by
  refine ⟨fun decoded => ?_, decodeChunk_of_spells⟩
  rcases wellFormed_or_firstFault chunk with wellFormed | ⟨fault, first⟩
  · obtain ⟨other, spells⟩ := wellFormed.exists_spells
    cases (decodeChunk_of_spells spells).symm.trans decoded
    exact spells
  · cases (decodeChunk_of_firstFault first).symm.trans decoded

/-- A chunk is refused with the first check that it fails. -/
theorem decodeChunk_eq_error_iff {chunk : List Char} {fault : ChunkFault} :
    decodeChunk chunk = .error fault ↔ FirstFault chunk fault := by
  refine ⟨fun failed => ?_, decodeChunk_of_firstFault⟩
  rcases wellFormed_or_firstFault chunk with wellFormed | ⟨other, first⟩
  · obtain ⟨t, spells⟩ := wellFormed.exists_spells
    cases (decodeChunk_of_spells spells).symm.trans failed
  · cases (decodeChunk_of_firstFault first).symm.trans failed
    exact first

/-! ### Decoding a text -/

theorem decodeNumbered_eq_ok_iff {index : Int} {chunk : List Char} {t : Transition} :
    decodeNumbered index chunk = .ok t ↔ Spells chunk t := by
  rw [← decodeChunk_eq_ok_iff, decodeNumbered]
  cases decodeChunk chunk with
  | ok other => simp
  | error fault => exact iff_of_false (by rintro ⟨⟩) (by rintro ⟨⟩)

theorem decodeNumbered_eq_error_iff {index : Int} {chunk : List Char} {error : DecodeError} :
    decodeNumbered index chunk = .error error ↔ error.index = index ∧ FirstFault chunk error.fault := by
  rw [← decodeChunk_eq_error_iff, decodeNumbered]
  cases decodeChunk chunk with
  | ok other => exact iff_of_false (by rintro ⟨⟩) (by rintro ⟨-, ⟨⟩⟩)
  | error fault =>
      obtain ⟨number, other⟩ := error
      simp [eq_comm]

/-- Chunks are decoded one by one. -/
theorem decodeFrom_eq_ok_iff {index : Int} {pieces : List (List Char)} {ts : List Transition} :
    decodeFrom index pieces = .ok ts ↔ List.Forall₂ Spells pieces ts := by
  induction pieces generalizing index ts with
  | nil =>
      rw [List.forall₂_nil_left_iff]
      exact ⟨fun done => (Except.ok.inj done).symm, fun none => none ▸ rfl⟩
  | cons chunk rest ih =>
      rw [decodeFrom, Except.bind_eq_ok, List.forall₂_cons_left_iff]
      simp only [decodeNumbered_eq_ok_iff, Except.bind_eq_ok, ih]
      constructor
      · rintro ⟨t, spells, others, more, ended⟩
        exact ⟨t, others, spells, more, (Except.ok.inj ended).symm⟩
      · rintro ⟨t, others, spells, more, rfl⟩
        exact ⟨t, spells, others, more, rfl⟩

/-- The first fault of chunks that are numbered from `index` on: the chunks in front of the faulty one are
well formed. -/
def FirstError (index : Int) (pieces : List (List Char)) (error : DecodeError) : Prop :=
  ∃ before chunk after, pieces = before ++ chunk :: after ∧
    (∀ earlier ∈ before, WellFormed earlier) ∧ error.index = index + before.length ∧
    FirstFault chunk error.fault

theorem FirstFault.not_wellFormed {chunk : List Char} {fault : ChunkFault}
    (first : FirstFault chunk fault) : ¬WellFormed chunk := by
  intro wellFormed
  obtain ⟨t, spells⟩ := wellFormed.exists_spells
  cases (decodeChunk_of_spells spells).symm.trans (decodeChunk_of_firstFault first)

theorem firstError_cons {index : Int} {chunk : List Char} {rest : List (List Char)}
    {error : DecodeError} :
    FirstError index (chunk :: rest) error ↔ error.index = index ∧ FirstFault chunk error.fault ∨
      WellFormed chunk ∧ FirstError (index + 1) rest error := by
  constructor
  · rintro ⟨_ | ⟨head, before⟩, faulty, after, split, wellFormed, place, first⟩
    · cases split
      exact .inl ⟨by simpa using place, first⟩
    · cases split
      obtain ⟨wellFormedHead, wellFormedBefore⟩ := List.forall_mem_cons.mp wellFormed
      rw [List.length_cons] at place
      exact .inr ⟨wellFormedHead, before, faulty, after, rfl, wellFormedBefore, by omega, first⟩
  · rintro (⟨place, first⟩ | ⟨wellFormed, before, faulty, after, rfl, wellFormedBefore, place, first⟩)
    · exact ⟨[], chunk, rest, rfl, by simp, by simpa using place, first⟩
    · refine ⟨chunk :: before, faulty, after, rfl,
        List.forall_mem_cons.mpr ⟨wellFormed, wellFormedBefore⟩, ?_, first⟩
      rw [List.length_cons]
      omega

/-- Chunks are refused at the first one that is at fault. -/
theorem decodeFrom_eq_error_iff {index : Int} {pieces : List (List Char)} {error : DecodeError} :
    decodeFrom index pieces = .error error ↔ FirstError index pieces error := by
  induction pieces generalizing index with
  | nil => exact iff_of_false nofun (by rintro ⟨_ | ⟨_, _⟩, _, _, ⟨⟩, _⟩)
  | cons chunk rest ih =>
      have later : (∃ t, decodeNumbered index chunk = .ok t ∧
          (decodeFrom (index + 1) rest >>= fun others => pure (t :: others)) = .error error) ↔
          WellFormed chunk ∧ FirstError (index + 1) rest error := by
        simp only [decodeNumbered_eq_ok_iff, Except.bind_eq_error, ih]
        constructor
        · rintro ⟨t, spells, fails | ⟨others, -, ⟨⟩⟩⟩
          exact ⟨spells.wellFormed, fails⟩
        · rintro ⟨wellFormed, fails⟩
          obtain ⟨t, spells⟩ := wellFormed.exists_spells
          exact ⟨t, spells, .inl fails⟩
      rw [decodeFrom, Except.bind_eq_error, decodeNumbered_eq_error_iff, later, firstError_cons]

theorem decode_eq_ok_iff {text : List Char} {ts : List Transition} :
    decode text = .ok ⟨ts⟩ ↔ List.Forall₂ Spells (chunks text) ts := by
  rw [decode, Except.bind_eq_ok, ← @decodeFrom_eq_ok_iff 1]
  constructor
  · rintro ⟨_, found, ended⟩
    cases ended
    exact found
  · intro found
    exact ⟨ts, found, rfl⟩

theorem decode_eq_error_iff {text : List Char} {error : DecodeError} :
    decode text = .error error ↔ FirstError 1 (chunks text) error := by
  rw [decode, Except.bind_eq_error, decodeFrom_eq_error_iff]
  exact or_iff_left (by rintro ⟨ts, -, ⟨⟩⟩)

theorem exists_decode_iff {text : List Char} :
    (∃ table, decode text = .ok table) ↔ ∀ chunk ∈ chunks text, WellFormed chunk := by
  have spelled : (∀ chunk ∈ chunks text, WellFormed chunk) ↔
      ∀ chunk ∈ chunks text, ∃ t, Spells chunk t :=
    forall₂_congr fun chunk _ => ⟨WellFormed.exists_spells, fun ⟨_, spells⟩ => spells.wellFormed⟩
  rw [spelled, ← exists_forall₂]
  constructor
  · rintro ⟨⟨ts⟩, decoded⟩
    exact ⟨ts, decode_eq_ok_iff.mp decoded⟩
  · rintro ⟨ts, spells⟩
    exact ⟨⟨ts⟩, decode_eq_ok_iff.mpr spells⟩

/-- The chunks of a text are its pieces but the last, without line breaks. -/
theorem chunks_of_isCut {text : List Char} {pieces : List (List Char)}
    (cut : IsCut (text.drop 1) pieces) :
    chunks text = pieces.dropLast.map fun piece => piece.filter fun c => c ≠ '\n' ∧ c ≠ '\r' := by
  rw [chunks, cutPairs_eq_iff.mpr cut]
  refine List.map_congr_left fun piece _ => List.filter_congr fun c _ => ?_
  rw [Bool.eq_iff_iff]
  simp [isLineBreak]

/-- The grammar of program texts.  Without its first character a text has one cut; the chunks are its pieces
but the last, without line breaks.  The text has a table just if every chunk is well formed, and the table
holds the transitions that the chunks spell, in order.  Otherwise the error names the first chunk that is
at fault, counted from 1, and the first check that this chunk fails. -/
theorem decode_grammar (text : List Char) :
    ∃ pieces, (∀ others, IsCut (text.drop 1) others ↔ others = pieces) ∧
      chunks text = pieces.dropLast.map (fun piece => piece.filter fun c => c ≠ '\n' ∧ c ≠ '\r') ∧
      ((∃ table, decode text = .ok table) ↔ ∀ chunk ∈ chunks text, WellFormed chunk) ∧
      (∀ ts, decode text = .ok ⟨ts⟩ ↔ List.Forall₂ Spells (chunks text) ts) ∧
      ∀ error, decode text = .error error ↔ FirstError 1 (chunks text) error ∧
        ("Transition " ++ Text.decimalInt error.index ++ ": ").toList <+: error.message.toList := by
  refine ⟨cutPairs (text.drop 1), fun others => ?_, chunks_of_isCut (isCut_cutPairs _),
    exists_decode_iff, fun ts => decode_eq_ok_iff, fun error => ?_⟩
  · rw [← cutPairs_eq_iff, eq_comm]
  · exact decode_eq_error_iff.trans (and_iff_left error.names_index).symm

end ProgramText

end TapeMultiplier
