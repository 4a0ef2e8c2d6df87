/-
Module: TapeMultiplier.Proofs.Verification.Mismatches
Layer: Proofs
Purpose: The log of wrong products.  It is a file of its own beside those of every folder of results, and
  logging adds the wrong entries to it and changes no other file.
Main exports: mismatchName, LogsWrong, Session.LogsTo, LogsWrong.contentAt_eq
-/
import TapeMultiplier.Proofs.Verification.Checkpoint

namespace TapeMultiplier

/-! ### The log of wrong products -/

theorem notMem_padded {c : Char} (noDigit : c.isDigit = false) (width value : Nat) :
    c ∉ (Text.padded width value).toList := by
  rw [Text.padded, String.toList_ofList, List.mem_append, not_or]
  constructor
  · intro member
    rw [List.eq_of_mem_replicate member] at noDigit
    cases noDigit
  · intro member
    rw [Text.isDigit_of_mem_decimalDigits member] at noDigit
    cases noDigit

theorem Clock.notMem_fileDate (clock : Clock) : '/' ∉ clock.fileDate.toList := by
  have noDigit : '/' ∉ (Text.decimal clock.year).toList := by
    rw [Text.decimal, String.toList_ofList]
    intro member
    exact absurd (Text.isDigit_of_mem_decimalDigits member) (by decide)
  simp only [fileDate, String.toList_append, List.mem_append, not_or]
  exact ⟨⟨⟨⟨noDigit, by decide⟩, notMem_padded rfl 2 _⟩, by decide⟩, notMem_padded rfl 2 _⟩

/-- The name of a log of wrong products. -/
def mismatchName (date : String) : RawText :=
  RawText.ofString ("mismatch" ++ "_" ++ date ++ ".jsonl")

theorem exists_bytes_mismatchName (date : String) :
    ∃ rest, FileName.ofText (mismatchName date) = ⟨0x6D :: rest⟩ := by
  have elements : ∃ rest, (mismatchName date).elements = .char 'm' :: rest := by
    refine ⟨("ismatch_" ++ date ++ ".jsonl").toList.map .char, ?_⟩
    simp [mismatchName, RawText.ofString]
  obtain ⟨rest, begins⟩ := elements
  refine ⟨rest.flatMap RawChar.bytes, ?_⟩
  rw [FileName.ofText, RawText.bytes, begins, List.flatMap_cons]
  rfl

theorem fileNamed_mismatchName {date : String} (whole : '/' ∉ date.toList) :
    Path.FileNamed (mismatchName date) := by
  obtain ⟨rest, begins⟩ := exists_bytes_mismatchName date
  constructor
  · simp [mismatchName, RawText.ofString]
  · intro member
    obtain ⟨c, inside, isSlash⟩ := List.mem_map.mp member
    obtain rfl : c = '/' := RawChar.char.inj isSlash
    simp only [String.toList_append, List.mem_append] at inside
    rcases inside with ((inside | inside) | inside) | inside
    · exact absurd inside (by decide)
    · exact absurd inside (by decide)
    · exact whole inside
    · exact absurd inside (by decide)
  · rw [begins]
    rintro ⟨⟩
  · rw [begins]
    rintro ⟨⟩

/-! ### Where it is -/

/-- The log of wrong products of a date is a file of its own. -/
theorem mismatchLog_ne {directory name : RawText} {date : String} (whole : '/' ∉ date.toList)
    {log : Location}
    (led : (Place.here (joinNames directory (mismatchName date))).location? = some log)
    (other : (FileName.ofText name).bytes.head? ≠ some 0x6D) (folder : Location) :
    log ≠ folder.enter (FileName.ofText name) := by
  obtain ⟨parent, rfl⟩ := exists_location?_joinNames (fileNamed_mismatchName whole) led
  intro same
  obtain ⟨rest, begins⟩ := exists_bytes_mismatchName date
  have names : FileName.ofText (mismatchName date) = FileName.ofText name :=
    (List.cons.inj (Location.mk.inj same).2).1
  rw [← names, begins] at other
  exact other rfl

/-- Wrong products would be logged in the file at a location. -/
def Session.LogsTo (session : Session) (log : Location) : Prop :=
  ∃ directory, session.journal.map Journal.directory = some directory ∧
    (Place.here (joinNames directory (mismatchName session.clock.fileDate))).location? = some log

namespace Session.LogsTo

variable {session : Session} {log : Location}

theorem of_sameSurroundings {final : Session} (logsTo : session.LogsTo log)
    (same : session.SameSurroundings final) : final.LogsTo log := by
  obtain ⟨directory, inUse, led⟩ := logsTo
  refine ⟨directory, same.directory.trans inUse, ?_⟩
  rw [same.clock]
  exact led

theorem ne_resultsAt (logsTo : session.LogsTo log) (folder : Location) : log ≠ resultsAt folder := by
  obtain ⟨directory, -, led⟩ := logsTo
  exact mismatchLog_ne session.clock.notMem_fileDate led (by decide) folder

theorem ne_checkpointAt (logsTo : session.LogsTo log) (folder : Location) :
    log ≠ checkpointAt folder := by
  obtain ⟨directory, -, led⟩ := logsTo
  exact mismatchLog_ne session.clock.notMem_fileDate led (by decide) folder

end Session.LogsTo

/-! ### Logging -/

/-- Wrong products are added to the log of the present date. -/
theorem logMismatches_eq_ok {entries : List Json} {start middle final : Session}
    (rotated : rotateJournal start = .ok () middle)
    (logged : logMismatches entries middle = .ok () final) :
    ∃ journal, start.journal = some journal ∧ middle.store = start.store ∧
      appendText (joinNames journal.directory (mismatchName start.clock.fileDate))
        (Journal.lines entries) middle = .ok () final := by
  obtain ⟨journal, begun, found, set⟩ := EStateM.bind_eq_ok.mp rotated
  obtain ⟨inUse, rfl⟩ := journalFor_eq_ok found
  cases set
  obtain ⟨dated, session, foundToo, added⟩ := EStateM.bind_eq_ok.mp logged
  obtain ⟨dated_eq, rfl⟩ := journalFor_eq_ok foundToo
  cases dated_eq
  exact ⟨journal, inUse, rfl, added⟩

theorem steady_logMismatches (entries : List Json) : (logMismatches entries).Steady :=
  App.steady_bind (steady_journalFor .mismatches) fun _ => steady_appendText _ _

/-- What becomes of wrong results: they are logged if there are any and there is a log. -/
def LogsWrong (wrong : List Json) (start final : Session) : Prop :=
  (wrong ≠ [] ∧ ∃ rotated, rotateJournal start = .ok () rotated ∧
      logMismatches wrong rotated = .ok () final) ∨
    (wrong = [] ∨ start.journal = none) ∧ final = start

namespace LogsWrong

variable {wrong : List Json} {start final : Session}

/-- Logging wrong products leaves the results of every folder as they are. -/
theorem keeps (logs : LogsWrong wrong start final) {folder : Location} {content : ByteArray}
    (present : start.store.find? (resultsAt folder) = some (.file content)) :
    final.store.find? (resultsAt folder) = some (.file content) := by
  rcases logs with ⟨-, rotated, rotating, logging⟩ | ⟨-, rfl⟩
  · obtain ⟨journal, inUse, sameStore, added⟩ := logMismatches_eq_ok rotating logging
    obtain ⟨location, led, kept⟩ := appendText_eq_ok added
    have apart : location ≠ resultsAt folder :=
      mismatchLog_ne start.clock.notMem_fileDate led (by decide) folder
    rw [sameStore] at kept
    exact kept.file_eq apart.symm present
  · exact present

/-- Logging adds the lines of the wrong entries to the log. -/
theorem contentAt_eq (logs : LogsWrong wrong start final) {log : Location}
    (logsTo : start.LogsTo log) :
    final.store.contentAt log = start.store.contentAt log ++ (Journal.lines wrong).toUTF8 := by
  obtain ⟨directory, inUse, led⟩ := logsTo
  rcases logs with ⟨-, rotated, rotating, logging⟩ | ⟨nothing | noLog, rfl⟩
  · obtain ⟨journal, isInUse, sameStore, added⟩ := logMismatches_eq_ok rotating logging
    rw [isInUse] at inUse
    cases inUse
    rw [contentAt_of_appendText led added, sameStore]
  · rw [nothing]
    exact ByteArray.append_empty.symm
  · rw [noLog] at inUse
    cases inUse

end LogsWrong

end TapeMultiplier
