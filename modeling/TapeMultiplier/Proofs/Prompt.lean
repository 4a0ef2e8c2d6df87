/-
Module: TapeMultiplier.Proofs.Prompt
Layer: Proofs
Purpose: What comes of questions at the terminal.  No file is touched, the answer is the fallback or one that
  is accepted, and the only way to fail is that the input ends.
Main exports: Session.SameFiles, App.Yields, Question.Allows, Question.yields_ask
-/
import TapeMultiplier.Proofs.Bind
import TapeMultiplier.Proofs.Session
import TapeMultiplier.Prompt

namespace TapeMultiplier

/-! ### Commands at the terminal -/

/-- Two sessions with the same files. -/
structure Session.SameFiles (start final : Session) : Prop where
  store : final.store = start.store
  installRoot : final.installRoot = start.installRoot

theorem Session.SameFiles.trans {first second third : Session} (one : first.SameFiles second)
    (two : second.SameFiles third) : first.SameFiles third :=
  ⟨two.store.trans one.store, two.installRoot.trans one.installRoot⟩

/-- Whatever comes of a command, the files are the same; it answers as it is allowed to, or it fails as it
is allowed to. -/
def App.Yields {α : Type} (command : App α) (answers : α → Prop) (failures : Failure → Prop) : Prop :=
  ∀ start, match command start with
    | .ok answer final => start.SameFiles final ∧ answers answer
    | .error failure final => start.SameFiles final ∧ failures failure

namespace App

variable {α β : Type} {answers : α → Prop} {others : β → Prop} {failures : Failure → Prop}

theorem yields_pure {answer : α} (allowed : answers answer) : (pure answer : App α).Yields answers failures :=
  fun _ => ⟨⟨rfl, rfl⟩, allowed⟩

theorem yields_throw {failure : Failure} (allowed : failures failure) :
    (throw failure : App α).Yields answers failures :=
  fun _ => ⟨⟨rfl, rfl⟩, allowed⟩

theorem Yields.bind {first : App α} {next : α → App β} (one : first.Yields answers failures)
    (two : ∀ answer, answers answer → (next answer).Yields others failures) :
    (first >>= next).Yields others failures := by
  intro start
  have begun := one start
  show match EStateM.bind first next start with
    | .ok answer final => start.SameFiles final ∧ others answer
    | .error failure final => start.SameFiles final ∧ failures failure
  unfold EStateM.bind
  cases outcome : first start with
  | error failure middle =>
      rw [outcome] at begun
      exact begun
  | ok answer middle =>
      rw [outcome] at begun
      have ended := two answer begun.2 middle
      dsimp only
      split
      · next result final run =>
        rw [run] at ended
        exact ⟨begun.1.trans ended.1, ended.2⟩
      · next failure final run =>
        rw [run] at ended
        exact ⟨begun.1.trans ended.1, ended.2⟩

theorem yields_forM {command : α → App PUnit} {items : List α}
    (each : ∀ item ∈ items, (command item).Yields (fun _ => True) failures) :
    (items.forM command).Yields (fun _ => True) failures := by
  induction items with
  | nil => exact yields_pure trivial
  | cons item items ih =>
      obtain ⟨first, others⟩ := List.forall_mem_cons.mp each
      exact first.bind fun _ _ => ih others

theorem Yields.mono {command : App α} {good : α → Prop} {bad : Failure → Prop}
    (yields : command.Yields answers failures) (allowed : ∀ answer, answers answer → good answer)
    (tolerated : ∀ failure, failures failure → bad failure) : command.Yields good bad := by
  intro start
  have outcome := yields start
  split
  · next run =>
    rw [run] at outcome
    exact ⟨outcome.1, allowed _ outcome.2⟩
  · next run =>
    rw [run] at outcome
    exact ⟨outcome.1, tolerated _ outcome.2⟩

theorem Yields.of_ok {command : App α} (yields : command.Yields answers failures) {start final : Session}
    {answer : α} (succeeded : command start = .ok answer final) : start.SameFiles final ∧ answers answer := by
  have outcome := yields start
  rwa [succeeded] at outcome

theorem Yields.of_error {command : App α} (yields : command.Yields answers failures) {start final : Session}
    {failure : Failure} (failed : command start = .error failure final) :
    start.SameFiles final ∧ failures failure := by
  have outcome := yields start
  rwa [failed] at outcome

theorem yields_get : (get : App Session).Yields (fun _ => True) failures :=
  fun _ => ⟨⟨rfl, rfl⟩, trivial⟩

theorem yields_print (text : String) : (print text).Yields (fun _ => True) failures :=
  fun _ => ⟨⟨rfl, rfl⟩, trivial⟩

theorem yields_printLine (text : String) : (printLine text).Yields (fun _ => True) failures :=
  fun _ => ⟨⟨rfl, rfl⟩, trivial⟩

end App

/-- The failure to which questions can lead. -/
abbrev EndsInput (failure : Failure) : Prop :=
  failure = .endOfInput

theorem readLine_eq (session : Session) :
    readLine session = if session.input.isEmpty = true then .error .endOfInput session
      else .ok (String.ofList (session.input.takeWhile (· != '\n')))
        { session with input := (session.input.dropWhile (· != '\n')).drop 1 } := by
  show (if session.input.isEmpty = true then _ else _ : App String) session = _
  split <;> rfl

theorem yields_readLine : readLine.Yields (fun _ => True) EndsInput := by
  intro start
  rw [readLine_eq]
  by_cases ended : start.input.isEmpty = true
  · rw [if_pos ended]
    exact ⟨⟨rfl, rfl⟩, rfl⟩
  · rw [if_neg ended]
    exact ⟨⟨rfl, rfl⟩, trivial⟩

/-! ### Questions -/

namespace Question

variable {α : Type}

/-- Whether a question can be answered so. -/
def Allows (question : Question α) (answer : α) : Prop :=
  (∃ shown, question.fallback = some (shown, answer)) ∨ ∃ typed, question.accept typed = .ok answer

theorem allows_of_meaning {question : Question α} {typed : String} {answer : α}
    (meant : question.meaning typed = .ok answer) : question.Allows answer := by
  rw [meaning] at meant
  split at meant
  · next shown value _ given =>
    cases meant
    exact .inl ⟨shown, given⟩
  · exact .inr ⟨_, meant⟩

theorem yields_askWithin (question : Question α) (times : Nat) :
    (question.askWithin times).Yields question.Allows EndsInput := by
  induction times with
  | zero => exact App.yields_throw rfl
  | succ times ih =>
      refine (App.yields_print _).bind fun _ _ => ?_
      refine yields_readLine.bind fun typed _ => ?_
      split
      · next meant => exact App.yields_pure (allows_of_meaning meant)
      · exact (App.yields_printLine _).bind fun _ _ => ih

/-- A question is answered as it can be, unless the input ends. -/
theorem yields_ask (question : Question α) : question.ask.Yields question.Allows EndsInput :=
  App.yields_get.bind fun _ _ => yields_askWithin question _

end Question

end TapeMultiplier
