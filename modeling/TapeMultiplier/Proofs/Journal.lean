/-
Module: TapeMultiplier.Proofs.Journal
Layer: Proofs
Purpose: What is added to a log can be read back.  Calls add lines to the files of a log and change no other
  file; every line is one entry, whatever its texts hold, and comes back as that entry.
Main exports: appendText_eq_ok_iff, appendText_eq_error, Journal.Holds, Journal.holds_lines, LogCall,
  Journal.sentTo, Journal.Logged, Journal.logged_of_calls, Journal.readTextFile_of_calls
-/
import TapeMultiplier.Journal
import TapeMultiplier.Proofs.Json.Layout
import TapeMultiplier.Proofs.Session.Surroundings
import TapeMultiplier.Proofs.Store.Lasting

namespace TapeMultiplier

/-! ### Adding to a file -/

theorem appendText_of_ok {path : RawText} {session : Session} {opened : Store} {location : Location}
    (allowed : checkPath path = .ok ())
    (opening : session.store.openForWriting .append (.here path) = .ok (opened, location)) (text : String) :
    appendText path text session =
      .ok () { session with store := opened.append location text.toUTF8 } := by
  rw [appendText, EStateM.bind_of_ok (openFile_of_ok allowed opening)]
  rfl

/-- Adding to a file succeeds just if its path is allowed and it can be opened. -/
theorem appendText_eq_ok_iff {path : RawText} {text : String} {start final : Session} :
    appendText path text start = .ok () final ↔
      checkPath path = .ok () ∧ ∃ opened location,
        start.store.openForWriting .append (.here path) = .ok (opened, location) ∧
        final = { start with store := opened.append location text.toUTF8 } := by
  constructor
  · intro added
    obtain ⟨location, middle, opening, written⟩ := EStateM.bind_eq_ok.mp added
    obtain ⟨⟨opened, place⟩, begun, operated, set⟩ := EStateM.bind_eq_ok.mp opening
    obtain ⟨allowed, isOpened, rfl⟩ := onStore_eq_ok operated
    cases set
    cases written
    exact ⟨allowed, opened, location, isOpened, rfl⟩
  · rintro ⟨allowed, opened, location, isOpened, rfl⟩
    exact appendText_of_ok allowed isOpened text

/-- Nothing comes of adding to a file if that fails. -/
theorem appendText_eq_error {path : RawText} {text : String} {start final : Session} {failure : Failure}
    (failed : appendText path text start = .error failure final) : final = start := by
  have stopped : ∃ error, appendText path text start = .error error start := by
    cases checked : checkPath path with
    | error refusal =>
        have refused := @onStore_of_refused _ (.here path)
          (fun store => store.openForWriting .append (.here path)) start refusal checked
        exact ⟨refusal, EStateM.bind_of_error (EStateM.bind_of_error refused)⟩
    | ok allowed =>
        cases opening : start.store.openForWriting .append (.here path) with
        | error fault => exact ⟨_, EStateM.bind_of_error (openFile_of_error checked opening)⟩
        | ok opened => cases (appendText_of_ok checked opening text).symm.trans failed
  obtain ⟨error, same⟩ := stopped
  cases same.symm.trans failed
  rfl

/-- A path that stands for a file stands for what is at its location. -/
theorem Store.contentAt_of_status {store : Store} {place : Place} {location : Location} {content : ByteArray}
    (led : place.location? = some location) (stands : store.status place = .ok (.file content)) :
    store.contentAt location = content := by
  obtain ⟨other, otherLed, found⟩ := Store.status_eq_ok stands
  obtain rfl : location = other := Option.some.inj (led.symm.trans otherLed)
  exact contentAt_of_find? found

/-- While something is added to a file, paths go on standing for the files at their locations. -/
theorem status_of_appendText {path : RawText} {text : String} {start final : Session}
    (added : appendText path text start = .ok () final) {place : Place} {location : Location}
    {content : ByteArray} (led : place.location? = some location)
    (stands : start.store.status place = .ok (.file content)) :
    final.store.status place = .ok (.file (final.store.contentAt location)) := by
  obtain ⟨-, opened, written, opening, rfl⟩ := appendText_eq_ok_iff.mp added
  obtain ⟨last, -⟩ := Store.status_of_openForWriting opening text.toUTF8
  obtain ⟨-, -, same, noDirectory, present⟩ := Store.openForWriting_eq_ok opening
  obtain ⟨spot, located, found, noSlash⟩ := Store.status_eq_file_iff.mp stands
  obtain ⟨other, otherLocated, -, sameLocation⟩ := last.locate_eq_ok located
  have here : other.location = location := by
    obtain ⟨-, spotLed⟩ := Store.locate_eq_ok located
    exact sameLocation.trans (Option.some.inj (spotLed.symm.trans led))
  have isFile : ∃ after, (opened.append written text.toUTF8).find? other.location = some (.file after) := by
    by_cases isWritten : other.location = written
    · rw [isWritten]
      exact ⟨_, Store.find?_append_self present _⟩
    · refine ⟨content, (same.trans (Store.sameBut_append present _)).file_eq isWritten ?_⟩
      rw [sameLocation, found]
  obtain ⟨after, foundAfter⟩ := isFile
  refine Store.status_eq_file_iff.mpr ⟨other, otherLocated, ?_, noSlash⟩
  rw [foundAfter, ← here, Store.contentAt_of_find? foundAfter]

/-! ### Asking for the log -/

theorem journalFor_eq_ok {action : JournalAction} {start final : Session} {journal : Journal}
    (found : journalFor action start = .ok journal final) :
    start.journal = some journal ∧ final = start := by
  obtain ⟨session, middle, got, rest⟩ := EStateM.bind_eq_ok.mp found
  cases got
  cases present : start.journal with
  | none =>
      rw [present] at rest
      cases rest
  | some found =>
      rw [present] at rest
      cases rest
      exact ⟨rfl, rfl⟩

theorem journalFor_of_some {journal : Journal} {session : Session} (inUse : session.journal = some journal)
    (action : JournalAction) : journalFor action session = .ok journal session := by
  have got : (get : App Session) session = .ok session session := rfl
  rw [journalFor, EStateM.bind_of_ok got, inUse]
  rfl

theorem steady_journalFor (action : JournalAction) : (journalFor action).Steady := by
  refine App.Reads.steady (App.reads_bind App.reads_get fun session => ?_)
  split
  · exact App.reads_pure _
  · exact App.reads_throw _

theorem steady_rotateJournal : rotateJournal.Steady := by
  intro session
  have begun := steady_journalFor .rotation session
  show session.SameSurroundings (leftBehind (EStateM.bind (journalFor .rotation) _ session))
  unfold EStateM.bind
  cases outcome : journalFor .rotation session with
  | error failure middle =>
      rw [outcome] at begun
      exact begun
  | ok journal middle =>
      obtain ⟨inUse, rfl⟩ := journalFor_eq_ok outcome
      refine ⟨rfl, rfl, ?_⟩
      rw [inUse]
      rfl

namespace Journal

/-! ### Lines -/

theorem toList_lines_cons (entry : Json) (entries : List Json) :
    (lines (entry :: entries)).toList = entry.write.toList ++ '\n' :: (lines entries).toList := by
  simp [lines, String.join_cons]

theorem lines_append (entries more : List Json) :
    lines (entries ++ more) = lines entries ++ lines more := by
  simp [lines, String.join_append]

/-- What stands in a text in front of each of its line ends. -/
def endedLines (text : List Char) : List (List Char) :=
  (text.splitOn '\n').dropLast

/-- A text holds entries: it consists of lines, one for each entry, from which the entries are read. -/
structure Holds (text : List Char) (entries : List Json) : Prop where
  /-- No line is left without its end. -/
  closed : text = [] ∨ text.getLast? = some '\n'
  /-- There are as many line ends as entries. -/
  counted : text.count '\n' = entries.length
  /-- Nothing but line feeds can be taken for a line end, by whatever convention. -/
  printed : ∀ c ∈ text, c = '\n' ∨ Json.isPrinted c = true
  /-- Line by line the entries come back, to a reader with room for them. -/
  read : List.Forall₂ (fun line entry => ∀ room, entry.depth ≤ room → Json.readWithin room line = .ok entry)
    (endedLines text) entries

/-- A text is cut behind its first line. -/
theorem splitOn_line {line rest : List Char} (whole : '\n' ∉ line) :
    (line ++ '\n' :: rest).splitOn '\n' = line :: rest.splitOn '\n' := by
  have outside : ∀ c ∈ line, (c == '\n') = false := by
    intro c member
    rw [beq_eq_false_iff_ne]
    rintro rfl
    exact whole member
  rw [List.splitOn_eq_splitOnP, List.splitOnP_append_cons_of_forall_mem outside _ rfl,
    List.splitOn_eq_splitOnP]

theorem endedLines_cons {line rest : List Char} (whole : '\n' ∉ line) :
    endedLines (line ++ '\n' :: rest) = line :: endedLines rest := by
  have others : rest.splitOn '\n' ≠ [] := by
    rw [List.splitOn_eq_splitOnP]
    exact List.splitOnP_ne_nil _ _
  rw [endedLines, splitOn_line whole, List.dropLast_cons_of_ne_nil others, endedLines]

/-- The lines of entries hold them, whatever the texts in the entries are. -/
theorem holds_lines {entries : List Json} (faithful : ∀ entry ∈ entries, entry.faithful = true) :
    Holds (lines entries).toList entries := by
  induction entries with
  | nil => exact ⟨.inl rfl, rfl, List.forall_mem_nil _, .nil⟩
  | cons entry rest ih =>
      obtain ⟨first, others⟩ := List.forall_mem_cons.mp faithful
      obtain ⟨closed, counted, printed, read⟩ := ih others
      have whole : '\n' ∉ entry.write.toList := Json.notMem_write entry rfl
      rw [toList_lines_cons]
      refine ⟨.inr ?_, ?_, ?_, ?_⟩
      · rcases closed with none | last
        · rw [none, List.getLast?_concat]
        · rw [List.getLast?_append, List.getLast?_cons, last]
          rfl
      · rw [List.count_append, List.count_eq_zero.mpr whole, List.count_cons_self, counted, Nat.zero_add,
          List.length_cons]
      · intro c member
        rw [List.mem_append, List.mem_cons] at member
        rcases member with inEntry | isEnd | inRest
        · refine .inr (Bool.not_eq_false _ |>.mp fun unprinted => ?_)
          exact Json.notMem_write entry unprinted inEntry
        · exact .inl isEnd
        · exact printed c inRest
      · rw [endedLines_cons whole]
        refine .cons (fun room shallow => ?_) read
        rw [Json.toList_write]
        exact Json.readWithin_render none first shallow

/-- Line by line, the documents that are read are the entries, if no entry is too deep for a document. -/
theorem Holds.mapM_read {text : List Char} {entries : List Json} (holds : Holds text entries)
    (shallow : ∀ entry ∈ entries, entry.depth ≤ Json.nestingLimit) :
    (endedLines text).mapM Json.read = .ok entries := by
  have entrywise := (List.forall₂_and_left entries (endedLines text)).mpr ⟨shallow, holds.read.flip⟩
  have back : List.Forall₂ (fun entry line => Json.read line = .ok entry) entries (endedLines text) :=
    entrywise.imp fun _ _ both => both.2 Json.nestingLimit both.1
  exact Except.mapM_eq_ok.mpr back.flip

/-- A text that holds entries is read from a file as it is. -/
theorem Holds.unifyLineEnds_eq {text : List Char} {entries : List Json} (holds : Holds text entries) :
    unifyLineEnds text = text := by
  refine unifyLineEnds_of_notMem fun member => ?_
  rcases holds.printed _ member with isEnd | isPrinted
  · cases isEnd
  · cases isPrinted

end Journal

/-! ### Calls -/

/-- A call that adds to a log. -/
inductive LogCall where
  /-- Add one entry to the main log. -/
  | entry (sent : Json)
  /-- Add entries to the main log. -/
  | entries (sent : List Json)
  /-- Add entries to the log of traced steps. -/
  | trace (sent : List Json)
  /-- Add entries to the log of wrong products. -/
  | mismatches (sent : List Json)

namespace LogCall

/-- What the call does. -/
def command : LogCall → App Unit
  | .entry sent => logEntry sent
  | .entries sent => logEntries sent
  | .trace sent => logTrace sent
  | .mismatches sent => logMismatches sent

/-- The entries that the call sends. -/
def sent : LogCall → List Json
  | .entry sent => [sent]
  | .entries sent => sent
  | .trace sent => sent
  | .mismatches sent => sent

/-- The file to which they are sent. -/
def path (journal : Journal) : LogCall → RawText
  | .entry _ => journal.currentLog
  | .entries _ => journal.currentLog
  | .trace _ => journal.sideLog "trace"
  | .mismatches _ => journal.sideLog "mismatch"

/-- Where that file is. -/
def location? (journal : Journal) (call : LogCall) : Option Location :=
  (Place.here (call.path journal)).location?

/-- A call adds the lines of its entries to its file. -/
theorem command_eq_ok {call : LogCall} {journal : Journal} {start final : Session}
    (inUse : start.journal = some journal) (done : call.command start = .ok () final) :
    appendText (call.path journal) (Journal.lines call.sent) start = .ok () final := by
  cases call with
  | entry _ | entries _ | trace _ | mismatches _ =>
      obtain ⟨found, middle, asked, added⟩ := EStateM.bind_eq_ok.mp done
      obtain ⟨foundInUse, rfl⟩ := journalFor_eq_ok asked
      obtain rfl : found = journal := Option.some.inj (foundInUse.symm.trans inUse)
      exact added

end LogCall

namespace Journal

variable {journal : Journal} {calls more : List LogCall} {start middle final : Session}

/-- The entries that calls send to a location, in the order in which they are sent.  The files of several
calls may be one. -/
def sentTo (journal : Journal) (location : Location) (calls : List LogCall) : List Json :=
  (calls.filter fun call => call.location? journal == some location).flatMap LogCall.sent

/-- What calls do to a session: they add to each file what they send to it, and files stay where they are. -/
structure Logged (journal : Journal) (calls : List LogCall) (start final : Session) : Prop where
  inUse : final.journal = some journal
  contentAt_eq : ∀ location, final.store.contentAt location =
    start.store.contentAt location ++ (lines (sentTo journal location calls)).toUTF8
  keeps : ∀ place location content, place.location? = some location →
    start.store.status place = .ok (.file content) →
    final.store.status place = .ok (.file (final.store.contentAt location))
  stands : ∀ call ∈ calls, ∃ location, call.location? journal = some location ∧
    checkPath (call.path journal) = .ok () ∧
    final.store.status (.here (call.path journal)) = .ok (.file (final.store.contentAt location))

namespace Logged

theorem none (inUse : start.journal = some journal) : Logged journal [] start start where
  inUse := inUse
  contentAt_eq _ := ByteArray.append_empty.symm
  keeps place location content led stands := by rw [Store.contentAt_of_status led stands, stands]
  stands := List.forall_mem_nil _

theorem one {call : LogCall} (inUse : start.journal = some journal)
    (done : call.command start = .ok () final) : Logged journal [call] start final := by
  have added := LogCall.command_eq_ok inUse done
  obtain ⟨allowed, opened, written, opening, isFinal⟩ := appendText_eq_ok_iff.mp added
  obtain ⟨-, led, -, -, -⟩ := Store.openForWriting_eq_ok opening
  obtain ⟨location, appendedLed, same⟩ := appendText_eq_ok added
  obtain rfl : location = written := Option.some.inj (appendedLed.symm.trans led)
  refine ⟨isFinal ▸ inUse, fun other => ?_, fun place other content => status_of_appendText added, ?_⟩
  · by_cases here : call.location? journal = some other
    · have sentHere : sentTo journal other [call] = call.sent := by simp [sentTo, here]
      rw [sentHere, contentAt_of_appendText here added]
    · have apart : other ≠ location := by
        rintro rfl
        exact here led
      have notHere : sentTo journal other [call] = [] := by simp [sentTo, here]
      rw [notHere, same.contentAt_eq apart]
      exact ByteArray.append_empty.symm
  · refine List.forall_mem_singleton.mpr ⟨location, led, allowed, ?_⟩
    obtain ⟨-, stands⟩ := Store.status_of_openForWriting opening (lines call.sent).toUTF8
    rw [isFinal, stands, Store.contentAt_of_status led stands]

/-- What calls and more calls do, they do together. -/
theorem append (first : Logged journal calls start middle) (second : Logged journal more middle final) :
    Logged journal (calls ++ more) start final where
  inUse := second.inUse
  contentAt_eq location := by
    rw [second.contentAt_eq, first.contentAt_eq, sentTo, sentTo, sentTo, List.filter_append, List.flatMap_append,
      lines_append, ByteArray.append_assoc]
    rfl
  keeps place location content led stands :=
    second.keeps place location _ led (first.keeps place location content led stands)
  stands call member := by
    rcases List.mem_append.mp member with inCalls | inMore
    · obtain ⟨location, led, allowed, stands⟩ := first.stands call inCalls
      exact ⟨location, led, allowed, second.keeps _ location _ led stands⟩
    · exact second.stands call inMore

end Logged

/-- Whatever calls succeed, in whatever order, each file has what was sent to it. -/
theorem logged_of_calls (inUse : start.journal = some journal)
    (succeeded : calls.forM LogCall.command start = .ok () final) : Logged journal calls start final := by
  induction calls generalizing start with
  | nil =>
      cases succeeded
      exact Logged.none inUse
  | cons call rest ih =>
      obtain ⟨⟨⟩, middle, done, others⟩ := EStateM.bind_eq_ok.mp succeeded
      have first := Logged.one inUse done
      exact first.append (ih first.inUse others)

/-- After calls to a log whose files held nothing, the file of every call can be read as a text, and this text
holds exactly the entries that the calls sent to that file, in the order in which they were sent. -/
theorem readTextFile_of_calls (inUse : start.journal = some journal)
    (fresh : ∀ call ∈ calls, ∀ location, call.location? journal = some location →
      start.store.contentAt location = ByteArray.empty)
    (faithful : ∀ call ∈ calls, ∀ entry ∈ call.sent, entry.faithful = true)
    (succeeded : calls.forM LogCall.command start = .ok () final) :
    ∀ call ∈ calls, ∃ location text, call.location? journal = some location ∧
      readTextFile (.here (call.path journal)) final = .ok text final ∧
      Holds text (sentTo journal location calls) := by
  intro call member
  have logged := logged_of_calls inUse succeeded
  obtain ⟨location, led, allowed, stands⟩ := logged.stands call member
  have holds : Holds (lines (sentTo journal location calls)).toList (sentTo journal location calls) := by
    refine holds_lines fun entry isSent => ?_
    obtain ⟨sender, among, sends⟩ := List.mem_flatMap.mp isSent
    exact faithful sender (List.mem_filter.mp among).1 entry sends
  refine ⟨location, _, led, ?_, holds⟩
  rw [logged.contentAt_eq, fresh call member location led, ByteArray.empty_append] at stands
  exact readTextFile_eq_ok.mpr
    ⟨⟨allowed, _, _, stands, Text.decodeUtf8_toUTF8 _, holds.unifyLineEnds_eq.symm⟩, rfl⟩

/-- A log whose main file is that of the traced steps. -/
def sharedJournal : Journal := { directory := "logs", stem := "trace_", today := "2024-01-02" }

/-- A session with that log, in which the directory for it is there and has nothing in it. -/
def sharedSession : Session where
  store := { working := [(FileName.ofText "logs", .directory [])], installed := [], system := [] }
  installRoot := ""
  clock := default
  elapsed := .whole 0
  input := []
  transcript := []
  progress := none
  journal := some sharedJournal
  patience := 0

/-- An entry whose texts hold quotes, a backslash and line ends of several conventions. -/
def awkwardEntry : Json :=
  .object [("a\n\"b\\", .list [.string "\r\n\u2028", .object [("\u0085", .int (-7))]])]

/-- Calls of all four kinds, three of them for the same file. -/
def sharedCalls : List LogCall :=
  [.entry awkwardEntry, .trace [.int 1, awkwardEntry], .mismatches [.null], .entries [.list []]]

/-- Where the file that three of them share is. -/
def sharedLocation : Location :=
  { anchor := .working, trail := [FileName.ofText "trace_2024-01-02.jsonl", FileName.ofText "logs"] }

/-- What evaluating these calls shows. -/
theorem evaluated_sharedCalls :
    (match sharedCalls.forM LogCall.command sharedSession with
      | .ok _ _ => true
      | .error _ _ => false) = true ∧
    (sharedCalls.all fun call => (call.location? sharedJournal).all fun location =>
      decide (sharedSession.store.contentAt location = ByteArray.empty)) = true ∧
    (sharedCalls.all fun call => call.sent.all Json.faithful) = true := by
  decide +kernel

/-- The file that three of the calls share holds what they sent, in the order of the calls. -/
theorem readTextFile_of_sharedCalls :
    ∃ final text, sharedCalls.forM LogCall.command sharedSession = .ok () final ∧
      readTextFile (.here sharedJournal.currentLog) final = .ok text final ∧
      Holds text [awkwardEntry, .int 1, awkwardEntry, .list []] := by
  obtain ⟨succeeds, fresh, faithful⟩ := evaluated_sharedCalls
  cases outcome : sharedCalls.forM LogCall.command sharedSession with
  | error failure final =>
      rw [outcome] at succeeds
      cases succeeds
  | ok done final =>
      have fresh' : ∀ call ∈ sharedCalls, ∀ location, call.location? sharedJournal = some location →
          sharedSession.store.contentAt location = ByteArray.empty := by
        intro call member location led
        have found := List.all_eq_true.mp fresh call member
        rw [led] at found
        exact of_decide_eq_true found
      have faithful' : ∀ call ∈ sharedCalls, ∀ entry ∈ call.sent, entry.faithful = true :=
        fun call member => List.all_eq_true.mp (List.all_eq_true.mp faithful call member)
      obtain ⟨location, text, led, read, holds⟩ :=
        readTextFile_of_calls (rfl : sharedSession.journal = some sharedJournal) fresh' faithful' outcome
          (.entry awkwardEntry) List.mem_cons_self
      obtain rfl : sharedLocation = location := Option.some.inj led
      exact ⟨final, text, rfl, read, holds⟩

end Journal

end TapeMultiplier
