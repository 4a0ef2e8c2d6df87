/-
Module: TapeMultiplier.Proofs.Verification.Conditions
Layer: Proofs
Purpose: Calls for the same program and with the same settings.  They make checkpoints with the same
  settings, and what they say of a pair is what the pair alone comes to.
Main exports: GridConditions, GridConditions.EntryOf, GridCall.Under, GridConditions.ResultOf,
  GridCall.Under.resultOf
-/
import TapeMultiplier.Proofs.Verification.Alone
import TapeMultiplier.Proofs.Verification.History

namespace TapeMultiplier

/-- What a series of calls has in common: the bytes of the program, the limits and the engine. -/
structure GridConditions where
  program : ByteArray
  maxSteps : Int
  tapeSize : Int
  useEngine : Bool

/-- The table of a program with given bytes. -/
def programTable? (content : ByteArray) : Option Table :=
  match asciiText content.toList with
  | .error _ => none
  | .ok text => (ProgramText.decode text).toOption

/-- A call is made under conditions if its settings are theirs and it finds their program both times it
reads it: when it loads the program, and when it takes the digest, after the folder was made. -/
structure GridCall.Under (call : GridCall) (conditions : GridConditions) : Prop where
  maxSteps : call.task.maxSteps = conditions.maxSteps
  tapeSize : call.task.tapeSize = conditions.tapeSize
  useEngine : call.task.useEngine = conditions.useEngine
  loaded : ∃ after, programContent call.task.programPath call.session = .ok conditions.program after
  digested : ∃ after, (makePath call.task.folder >>= fun _ => programContent call.task.programPath)
    call.session = .ok conditions.program after

namespace GridConditions

/-- The settings in a checkpoint. -/
def signature (conditions : GridConditions) : Json :=
  gridSignature (Digest.sha256 conditions.program.toList) (.int conditions.maxSteps)
    (.int conditions.tapeSize) conditions.useEngine

/-- Evaluate one pair and no other. -/
def evaluateAlone (conditions : GridConditions) (table : Table) (patience : Nat) (pair : Int × Int) :
    Except Failure (List BatchResult) :=
  if conditions.useEngine then boundedReference table patience [pair] conditions.maxSteps
  else boundedBatch table.dense patience [pair] conditions.maxSteps conditions.tapeSize

/-- An entry is that of a pair if it is the entry of the result of evaluating this pair alone; enough
patience being given, there is no other result. -/
def EntryOf (conditions : GridConditions) (pair : Int × Int) (entry : Json) : Prop :=
  ∃ table result enough, programTable? conditions.program = some table ∧
    (∀ patience, enough ≤ patience →
      conditions.evaluateAlone table patience pair = .ok [result]) ∧ entry = result.entry

/-- A pair has no two entries. -/
theorem EntryOf.unique {conditions : GridConditions} {pair : Int × Int} {entry other : Json}
    (one : conditions.EntryOf pair entry) (two : conditions.EntryOf pair other) : entry = other := by
  obtain ⟨table, result, enough, decoded, evaluated, rfl⟩ := one
  obtain ⟨_, found, plenty, decodedToo, evaluatedToo, rfl⟩ := two
  cases decoded.symm.trans decodedToo
  have same : [result] = [found] := Except.ok.inj
    ((evaluated (max enough plenty) (Nat.le_max_left ..)).symm.trans
      (evaluatedToo (max enough plenty) (Nat.le_max_right ..)))
  rw [(List.cons.inj same).1]

end GridConditions

/-- The table that is loaded is that of the bytes that are read. -/
theorem programTable?_of_loadProgram {path : RawText} {content : ByteArray} {table : Table}
    {start after final : Session} (read : programContent path start = .ok content after)
    (loaded : loadProgram path start = .ok table final) : programTable? content = some table := by
  obtain ⟨bytes, middle, reading, decoding⟩ := EStateM.bind_eq_ok.mp loaded
  cases (tryCatch_of_ok read).symm.trans reading
  obtain ⟨text, last, ascii, decoded⟩ := EStateM.bind_eq_ok.mp decoding
  obtain ⟨isText, rfl⟩ := orFail_eq_ok ascii
  obtain ⟨isTable, -⟩ := orFail_eq_ok decoded
  simp only [programTable?, isText, isTable]
  rfl

namespace GridCall.Under

variable {call : GridCall} {conditions : GridConditions}

/-- What a call evaluates for a pair alone is what the conditions say. -/
theorem evaluate_eq (under : call.Under conditions) (table : Table) (patience : Nat)
    (pair : Int × Int) : call.task.evaluate table table.dense patience [pair] =
      conditions.evaluateAlone table patience pair := by
  rw [GridTask.evaluate, under.maxSteps, under.tapeSize, under.useEngine]
  rfl

theorem exists_digest (under : call.Under conditions) :
    ∃ ready, call.task.digest call.session =
      .ok (Digest.sha256 conditions.program.toList) ready := by
  obtain ⟨ready, reading⟩ := under.digested
  exact ⟨ready, GridTask.digest_of_content reading⟩

theorem digest_eq (under : call.Under conditions) {digest : String} {ready : Session}
    (digested : call.task.digest call.session = .ok digest ready) :
    digest = Digest.sha256 conditions.program.toList := by
  obtain ⟨other, known⟩ := under.exists_digest
  cases known.symm.trans digested
  rfl

theorem signature_eq (under : call.Under conditions) {digest : String} {ready : Session}
    (digested : call.task.digest call.session = .ok digest ready) :
    call.task.signature digest = conditions.signature := by
  rw [GridTask.signature, under.digest_eq digested, under.maxSteps, under.tapeSize, under.useEngine]
  rfl

end GridCall.Under

/-- A result that is that of a pair, and of this pair alone. -/
def GridConditions.ResultOf (conditions : GridConditions) (pair : Int × Int) (result : BatchResult) :
    Prop :=
  result.pair = pair ∧ conditions.EntryOf pair result.entry

namespace GridConditions.ResultOf

variable {conditions : GridConditions} {pairs : List (Int × Int)} {news : List BatchResult}

theorem map_pair (each : List.Forall₂ conditions.ResultOf pairs news) :
    news.map BatchResult.pair = pairs := by
  have same : List.Forall₂ (fun pair result => pair = BatchResult.pair result) pairs news :=
    each.imp fun _ _ isResult => isResult.1.symm
  exact (List.forall₂_eq_eq_eq ▸ List.forall₂_map_right_iff.mpr same : pairs = _).symm

theorem map_key (each : List.Forall₂ conditions.ResultOf pairs news) :
    news.map BatchResult.key = pairs.map fun pair => pairKey pair.1 pair.2 := by
  rw [← map_pair each, List.map_map]
  rfl

theorem entries (each : List.Forall₂ conditions.ResultOf pairs news) :
    List.Forall₂ conditions.EntryOf pairs (news.map BatchResult.entry) :=
  List.forall₂_map_right_iff.mpr (each.imp fun _ _ isResult => isResult.2)

end GridConditions.ResultOf

/-- What a batch gives are the results of its pairs alone. -/
theorem GridCall.Under.resultOf {call : GridCall} {conditions : GridConditions}
    (under : call.Under conditions) {table : Table}
    (loaded : programTable? conditions.program = some table) {patience : Nat}
    {batch : List (Int × Int)} {found : List BatchResult}
    (evaluated : call.task.evaluate table table.dense patience batch = .ok found) :
    List.Forall₂ conditions.ResultOf batch found := by
  refine List.Forall₂.imp ?_ (GridTask.evaluate_alone evaluated)
  intro pair result alone
  have single := alone patience (Nat.le_refl patience)
  refine ⟨(List.cons.inj (GridTask.evaluate_pairs single)).1, table, result, patience, loaded, ?_, rfl⟩
  intro larger enough
  rw [← under.evaluate_eq]
  exact alone larger enough

end TapeMultiplier
