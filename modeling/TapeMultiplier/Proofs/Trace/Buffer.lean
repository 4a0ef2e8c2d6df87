/-
Module: TapeMultiplier.Proofs.Trace.Buffer
Layer: Proofs
Purpose: Steps on their way to the log.  Whatever calls are made of a buffer, and whichever of them fail,
  what was added to the log followed by what is kept is every step so far, once and in order.
Main exports: Session.TracesTo, Session.CanTrace, TraceBuffer.Carries, TraceBuffer.carries_push,
  TraceBuffer.carries_flush, TraceBuffer.push_eq_error, TraceCall, TraceHistory, TraceHistory.accounts
-/
import TapeMultiplier.Proofs.Journal
import TapeMultiplier.Trace

namespace TapeMultiplier

variable {session final : Session} {log : Location}

/-! ### The log of the present date -/

namespace Session

/-- The path of the file to which steps would be added now, if there is a log. -/
def tracePath? (session : Session) : Option RawText :=
  session.journal.map fun journal =>
    { journal with today := session.clock.fileDate : Journal }.sideLog "trace"

/-- Steps would be added to the file at a location. -/
def TracesTo (session : Session) (log : Location) : Prop :=
  ∃ path, session.tracePath? = some path ∧ (Place.here path).location? = some log

/-- Steps can be added to the file at a location: it can be opened. -/
def CanTrace (session : Session) (log : Location) : Prop :=
  ∃ path, session.tracePath? = some path ∧ checkPath path = .ok () ∧
    ∃ opened, session.store.openForWriting .append (.here path) = .ok (opened, log)

theorem CanTrace.tracesTo (can : session.CanTrace log) : session.TracesTo log := by
  obtain ⟨path, isPath, -, opened, opening⟩ := can
  obtain ⟨-, led, -⟩ := Store.openForWriting_eq_ok opening
  exact ⟨path, isPath, led⟩

end Session

/-- Turning the log to the present date and adding steps to it is adding them to the file of that date,
which is then still the file to which steps would be added. -/
theorem rotate_logTrace_eq {path : RawText} (isPath : session.tracePath? = some path) (entries : List Json) :
    ∃ rotated : Session, rotated.tracePath? = some path ∧ rotated.store = session.store ∧
      (do rotateJournal; logTrace entries) session = appendText path (Journal.lines entries) rotated := by
  obtain ⟨journal, inUse, sidePath⟩ := Option.map_eq_some_iff.mp isPath
  let dated : Journal := { journal with today := session.clock.fileDate }
  let rotated : Session := { session with journal := some dated }
  have turned : rotateJournal session = .ok () rotated := by
    rw [rotateJournal, EStateM.bind_of_ok (journalFor_of_some inUse .rotation)]
    rfl
  have asked : journalFor .trace rotated = .ok dated rotated := journalFor_of_some rfl .trace
  refine ⟨rotated, congrArg some sidePath, rfl, ?_⟩
  rw [EStateM.bind_of_ok turned, logTrace, EStateM.bind_of_ok asked, ← sidePath]

namespace TraceBuffer

/-! ### What one call does -/

/-- The buffer once nothing is kept. -/
def emptied (buffer : TraceBuffer) : TraceBuffer :=
  { buffer with kept := [] }

/-- The buffer once one more step is kept. -/
def keeping (buffer : TraceBuffer) (entry : Json) : TraceBuffer :=
  { buffer with kept := entry :: buffer.kept }

variable {buffer after : TraceBuffer} {entry : Json} {failure : Failure}

theorem entries_keeping (buffer : TraceBuffer) (entry : Json) :
    (buffer.keeping entry).entries = buffer.entries ++ [entry] :=
  List.reverse_cons

/-- Writing does nothing if nothing is kept. -/
theorem flush_of_none (none : buffer.kept = []) (session : Session) :
    flush (buffer, session) = .ok () (buffer, session) := by
  show (if buffer.kept.isEmpty = true then pure () else _ : Command Unit) (buffer, session) = _
  rw [none]
  rfl

/-- Writing adds what is kept to the log; if that fails, it is still kept. -/
theorem flush_of_some (some : buffer.kept ≠ []) (session : Session) :
    flush (buffer, session) =
      match (do rotateJournal; logTrace buffer.entries : App Unit) session with
      | .ok () final => .ok () (buffer.emptied, final)
      | .error failure final => .error failure (buffer, final) := by
  have notEmpty : buffer.kept.isEmpty ≠ true := by simpa using some
  show (if buffer.kept.isEmpty = true then pure () else _ : Command Unit) (buffer, session) = _
  rw [if_neg notEmpty]
  show EStateM.bind (onSession _) _ (buffer, session) = _
  unfold EStateM.bind onSession
  dsimp only
  cases (do rotateJournal; logTrace buffer.entries : App Unit) session with
  | ok done final => rfl
  | error failure final => rfl

/-- A step that arrives is kept, and written with the others if there are enough. -/
theorem push_eq (buffer : TraceBuffer) (entry : Json) (session : Session) :
    push entry (buffer, session) =
      if buffer.flushEvery ≤ (buffer.keeping entry).kept.length
        then flush (buffer.keeping entry, session) else .ok () (buffer.keeping entry, session) := by
  show (if buffer.flushEvery ≤ (buffer.keeping entry).kept.length then flush else pure () : Command Unit)
    (buffer.keeping entry, session) = _
  split <;> rfl

/-! ### Nothing is lost -/

/-- What a command leaves behind, be it with an answer or with a failure. -/
def afterwards : EStateM.Result Failure (TraceBuffer × Session) Unit → TraceBuffer × Session
  | .ok () left => left
  | .error _ left => left

/-- Steps are carried on: those that were kept and those that arrived are now in the log or kept. -/
structure Carries (log : Location) (news : List Json) (before after : TraceBuffer × Session) : Prop where
  threshold : after.1.flushEvery = before.1.flushEvery
  tracesTo : after.2.TracesTo log
  carried : ∃ written, after.2.store.contentAt log =
      before.2.store.contentAt log ++ (Journal.lines written).toUTF8 ∧
    written ++ after.1.entries = before.1.entries ++ news

namespace Carries

/-- Where the files are as before, so is all that was kept. -/
theorem of_sameStore {news : List Json} {before : TraceBuffer × Session}
    (threshold : after.flushEvery = before.1.flushEvery) (tracesTo : final.TracesTo log)
    (same : final.store = before.2.store) (kept : after.entries = before.1.entries ++ news) :
    Carries log news before (after, final) where
  threshold := threshold
  tracesTo := tracesTo
  carried := ⟨[], by rw [same]; exact ByteArray.append_empty.symm, kept⟩

theorem trans {news more : List Json} {before between after : TraceBuffer × Session}
    (one : Carries log news before between) (two : Carries log more between after) :
    Carries log (news ++ more) before after where
  threshold := two.threshold.trans one.threshold
  tracesTo := two.tracesTo
  carried := by
    obtain ⟨first, firstAdded, firstKept⟩ := one.carried
    obtain ⟨second, secondAdded, secondKept⟩ := two.carried
    refine ⟨first ++ second, ?_, ?_⟩
    · rw [secondAdded, firstAdded, ByteArray.append_assoc, Journal.lines_append]
      rfl
    · rw [List.append_assoc, secondKept, ← List.append_assoc, firstKept, List.append_assoc]

end Carries

/-- Writing carries on what is kept, whether or not it fails. -/
theorem carries_flush (traces : session.TracesTo log) (buffer : TraceBuffer) :
    Carries log [] (buffer, session) (afterwards (flush (buffer, session))) := by
  by_cases none : buffer.kept = []
  · rw [flush_of_none none]
    exact .of_sameStore rfl traces rfl (List.append_nil _).symm
  · obtain ⟨path, isPath, led⟩ := traces
    obtain ⟨rotated, rotatedPath, sameStore, writes⟩ := rotate_logTrace_eq isPath buffer.entries
    rw [flush_of_some none, writes]
    cases outcome : appendText path (Journal.lines buffer.entries) rotated with
    | error failure final =>
        obtain rfl := appendText_eq_error outcome
        exact .of_sameStore rfl ⟨path, rotatedPath, led⟩ sameStore (List.append_nil _).symm
    | ok done final =>
        obtain ⟨-, opened, location, -, rfl⟩ := appendText_eq_ok_iff.mp outcome
        refine ⟨rfl, ⟨path, rotatedPath, led⟩, buffer.entries, ?_, rfl⟩
        exact (contentAt_of_appendText led outcome).trans (by rw [sameStore])

/-- A step that arrives is carried on with the others, whether or not writing fails. -/
theorem carries_push (traces : session.TracesTo log) (buffer : TraceBuffer) (entry : Json) :
    Carries log [entry] (buffer, session) (afterwards (push entry (buffer, session))) := by
  have kept : Carries log [entry] (buffer, session) (buffer.keeping entry, session) :=
    .of_sameStore rfl traces rfl (entries_keeping buffer entry)
  rw [push_eq]
  split
  · exact kept.trans (carries_flush traces _)
  · exact kept

theorem kept_of_flush (written : flush (buffer, session) = .ok () (after, final)) : after.kept = [] := by
  by_cases none : buffer.kept = []
  · rw [flush_of_none none] at written
    cases written
    exact none
  · rw [flush_of_some none] at written
    split at written
    · cases written
      rfl
    · cases written

/-- Fewer steps are kept than are written at once; none if the number to write at is not positive. -/
def Short (buffer : TraceBuffer) : Prop :=
  (buffer.kept.length : Int) < max 1 buffer.flushEvery

theorem short_of_none (none : buffer.kept = []) : buffer.Short := by
  rw [Short, none]
  exact Int.lt_of_lt_of_le Int.zero_lt_one (Int.le_max_left 1 _)

theorem short_of_push (pushed : push entry (buffer, session) = .ok () (after, final)) : after.Short := by
  rw [push_eq] at pushed
  split at pushed
  · exact short_of_none (kept_of_flush pushed)
  · next few =>
    cases pushed
    exact Int.lt_of_lt_of_le (Int.not_le.mp few) (Int.le_max_right 1 _)

/-! ### Where the file can be opened -/

end TraceBuffer

/-! ### Histories -/

/-- A call of a buffer. -/
inductive TraceCall where
  /-- A step arrives. -/
  | event (step : StepEvent)
  /-- What is kept is to be written. -/
  | flush

namespace TraceCall

/-- What the call does. -/
def command : TraceCall → TraceBuffer.Command Unit
  | .event step => TraceBuffer.push step.toJson
  | .flush => TraceBuffer.flush

/-- The step that arrives with the call. -/
def events : TraceCall → List StepEvent
  | .event step => [step]
  | .flush => []

variable {call : TraceCall} {buffer after : TraceBuffer}

theorem carries_command (traces : session.TracesTo log) (call : TraceCall) (buffer : TraceBuffer) :
    TraceBuffer.Carries log (call.events.map StepEvent.toJson) (buffer, session)
      (TraceBuffer.afterwards (call.command (buffer, session))) := by
  cases call with
  | event step => exact TraceBuffer.carries_push traces buffer step.toJson
  | flush => exact TraceBuffer.carries_flush traces buffer

theorem short_of_command (done : call.command (buffer, session) = .ok () (after, final)) : after.Short := by
  cases call with
  | event step => exact TraceBuffer.short_of_push done
  | flush => exact TraceBuffer.short_of_none (TraceBuffer.kept_of_flush done)

end TraceCall

/-- A call that was made, and whether it succeeded. -/
structure TraceRecord where
  call : TraceCall
  succeeded : Bool

/-- The steps that arrived with calls, in order. -/
def tracedEvents (records : List TraceRecord) : List StepEvent :=
  records.flatMap fun record => record.call.events

theorem tracedEvents_concat (records : List TraceRecord) (call : TraceCall) (succeeded : Bool) :
    tracedEvents (records ++ [⟨call, succeeded⟩]) = tracedEvents records ++ call.events := by
  simp [tracedEvents]

/-- Calls of a buffer that was empty, what it keeps after them, and the bytes that they have added to the
file of the log, one call after the other.  Every call meets a session of its own: what else happens to
the files between calls, and whether that file can be opened then, is left open. -/
inductive TraceHistory (log : Location) (flushEvery : Int) :
    List TraceRecord → TraceBuffer → ByteArray → Prop where
  | start : TraceHistory log flushEvery [] { flushEvery, kept := [] } ByteArray.empty
  | ok {records : List TraceRecord} {buffer after : TraceBuffer} {added more : ByteArray}
      {session final : Session} {call : TraceCall}
      (history : TraceHistory log flushEvery records buffer added) (traces : session.TracesTo log)
      (done : call.command (buffer, session) = .ok () (after, final))
      (adds : final.store.contentAt log = session.store.contentAt log ++ more) :
      TraceHistory log flushEvery (records ++ [{ call, succeeded := true }]) after (added ++ more)
  | error {records : List TraceRecord} {buffer after : TraceBuffer} {added more : ByteArray}
      {session final : Session} {call : TraceCall} {failure : Failure}
      (history : TraceHistory log flushEvery records buffer added) (traces : session.TracesTo log)
      (failed : call.command (buffer, session) = .error failure (after, final))
      (adds : final.store.contentAt log = session.store.contentAt log ++ more) :
      TraceHistory log flushEvery (records ++ [{ call, succeeded := false }]) after (added ++ more)

/-- The bytes added and the buffer account for steps: the lines added are those of the first of them, and
the buffer keeps the others. -/
structure Accounts (flushEvery : Int) (events : List StepEvent) (buffer : TraceBuffer) (added : ByteArray) :
    Prop where
  threshold : buffer.flushEvery = flushEvery
  split : ∃ written, added = (Journal.lines written).toUTF8 ∧
    written ++ buffer.entries = events.map StepEvent.toJson

/-- What one call carries on is accounted for. -/
theorem Accounts.carry {flushEvery : Int} {events news : List StepEvent} {buffer after : TraceBuffer}
    {added more : ByteArray} (accounts : Accounts flushEvery events buffer added)
    (carries : TraceBuffer.Carries log (news.map StepEvent.toJson) (buffer, session) (after, final))
    (adds : final.store.contentAt log = session.store.contentAt log ++ more) :
    Accounts flushEvery (events ++ news) after (added ++ more) := by
  obtain ⟨first, firstAdded, firstKept⟩ := accounts.split
  obtain ⟨second, secondAdded, secondKept⟩ := carries.carried
  have isMore : more = (Journal.lines second).toUTF8 :=
    (ByteArray.append_right_inj _).mp (adds.symm.trans secondAdded)
  refine ⟨carries.threshold.trans accounts.threshold, first ++ second, ?_, ?_⟩
  · rw [firstAdded, isMore, Journal.lines_append]
    rfl
  · rw [List.append_assoc, secondKept, ← List.append_assoc, firstKept, List.map_append]

namespace TraceHistory

variable {flushEvery : Int} {records : List TraceRecord} {buffer : TraceBuffer} {added : ByteArray}

/-- Every step that arrived is accounted for. -/
theorem accounts (history : TraceHistory log flushEvery records buffer added) :
    Accounts flushEvery (tracedEvents records) buffer added := by
  induction history with
  | start => exact ⟨rfl, [], rfl, rfl⟩
  | @ok records buffer after added more session final call history traces done adds ih =>
      have carries := call.carries_command traces buffer
      rw [done] at carries
      rw [tracedEvents_concat]
      exact ih.carry carries adds
  | @error records buffer after added more session final call failure history traces failed adds ih =>
      have carries := call.carries_command traces buffer
      rw [failed] at carries
      rw [tracedEvents_concat]
      exact ih.carry carries adds

/-- Unless the last call failed, few steps are kept. -/
theorem short (history : TraceHistory log flushEvery records buffer added)
    (succeeded : ∀ last ∈ records.getLast?, last.succeeded = true) : buffer.Short := by
  cases history with
  | start => exact TraceBuffer.short_of_none rfl
  | ok history traces done adds => exact TraceCall.short_of_command done
  | error history traces failed adds =>
      have refused := succeeded _ (by rw [List.getLast?_concat]; rfl)
      cases refused

end TraceHistory

end TapeMultiplier
