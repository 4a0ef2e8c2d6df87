/-
Module: TapeMultiplier.Journal
Layer: Session
Purpose: The log: JSON entries, one on a line, in files that carry the date.
Main exports: openJournal, rotateJournal, logEntry, logEntries, logRun, logTrace, logMismatches
-/
import TapeMultiplier.Session

namespace TapeMultiplier

namespace Journal

/-- The file of the main log. -/
def currentLog (journal : Journal) : RawText :=
  joinNames journal.directory (journal.stem ++ RawText.ofString (journal.today ++ ".jsonl"))

/-- The file of a side log of the same day. -/
def sideLog (journal : Journal) (topic : String) : RawText :=
  joinNames journal.directory (RawText.ofString (topic ++ "_" ++ journal.today ++ ".jsonl"))

/-- Entries as lines. -/
def lines (entries : List Json) : String :=
  String.join (entries.map fun entry => entry.write ++ "\n")

end Journal

/-- Make the directory of a log and use that log from now on. -/
def openJournal (directory stem : RawText) : App Unit := do
  makeDirectories directory
  modify fun session =>
    { session with journal := some { directory, stem, today := session.clock.fileDate } }

/-- The log in use, for some action. -/
def journalFor (action : JournalAction) : App Journal := do
  match (← get).journal with
  | some journal => return journal
  | none => throw (.noJournal action)

/-- Use the files of the present date from now on. -/
def rotateJournal : App Unit := do
  let journal ← journalFor .rotation
  modify fun session =>
    { session with journal := some { journal with today := session.clock.fileDate } }

/-- Add an entry to the main log. -/
def logEntry (entry : Json) : App Unit := do
  appendText (← journalFor .entry).currentLog (Journal.lines [entry])

/-- Add entries to the main log. -/
def logEntries (entries : List Json) : App Unit := do
  appendText (← journalFor .entries).currentLog (Journal.lines entries)

/-- Add entries to the log of traced steps. -/
def logTrace (entries : List Json) : App Unit := do
  appendText ((← journalFor .trace).sideLog "trace") (Journal.lines entries)

/-- Add entries to the log of wrong products. -/
def logMismatches (entries : List Json) : App Unit := do
  appendText ((← journalFor .mismatches).sideLog "mismatch") (Journal.lines entries)

/-- A duration rounded to six places; whole seconds stay whole. -/
def roundedElapsed : Duration → Json
  | .whole seconds => .int seconds
  | .fractional seconds => .float (roundPlaces 6 seconds)

/-- The fields that say how long a run took, if that is known. -/
def elapsedFields : Option Duration → List (RawText × Json)
  | some duration => [("elapsed", roundedElapsed duration)]
  | none => []

/-- The fields that every entry of a run has. -/
def runFields (clock : Clock) (a b : Int) (product : Nat) (final : Configuration) :
    List (RawText × Json) :=
  [("timestamp", .string clock.isoText),
   ("a", .int a),
   ("b", .int b),
   ("result", .int product),
   ("steps", .int final.steps),
   ("halted", .bool final.halted),
   ("final_state", .string final.state),
   ("tape", .string final.tape)]

/-- The entry of a run. -/
def runEntry (clock : Clock) (a b : Int) (product : Nat) (final : Configuration)
    (elapsed : Option Duration) : Json :=
  .object (runFields clock a b product final ++ elapsedFields elapsed)

/-- Add the entry of a run to the main log. -/
def logRun (a b : Int) (product : Nat) (final : Configuration) (elapsed : Option Duration) :
    App Unit := do
  let journal ← journalFor .run
  appendText journal.currentLog
    (Journal.lines [runEntry (← get).clock a b product final elapsed])

end TapeMultiplier
