/-
Module: TapeMultiplier.Proofs.Session.Surroundings
Layer: Proofs
Purpose: What commands on files leave as it is.  The clock, the patience and the directory of the log are
  the same before and after, and a file keeps its content until something is written to it.
Main exports: Session.SameSurroundings, App.Steady, Store.contentAt, Store.SameBut.contentAt_eq,
  contentAt_of_makePath, contentAt_of_appendText
-/
import TapeMultiplier.Proofs.Session

namespace TapeMultiplier

/-! ### Surroundings -/

/-- Two sessions with the same clock, the same patience and logs in the same directory. -/
structure Session.SameSurroundings (start final : Session) : Prop where
  clock : final.clock = start.clock
  patience : final.patience = start.patience
  directory : final.journal.map Journal.directory = start.journal.map Journal.directory

namespace Session.SameSurroundings

theorem refl (session : Session) : session.SameSurroundings session :=
  ⟨rfl, rfl, rfl⟩

theorem trans {first second third : Session} (one : first.SameSurroundings second)
    (two : second.SameSurroundings third) : first.SameSurroundings third :=
  ⟨two.clock.trans one.clock, two.patience.trans one.patience, two.directory.trans one.directory⟩

end Session.SameSurroundings

/-- A command that keeps the surroundings, be it with an answer or with a failure. -/
def App.Steady {α : Type} (command : App α) : Prop :=
  command.Keeps Session.SameSurroundings

namespace App

variable {α β : Type}

theorem Reads.steady {command : App α} (reads : command.Reads) : command.Steady := by
  intro session
  rw [show leftBehind (command session) = session from reads session]
  exact Session.SameSurroundings.refl session

theorem steady_bind {first : App α} {next : α → App β} (one : first.Steady)
    (two : ∀ answer, (next answer).Steady) : (first >>= next).Steady :=
  keeps_bind one two Session.SameSurroundings.trans

end App

theorem steady_print (text : String) : (print text).Steady := fun _ => ⟨rfl, rfl, rfl⟩

theorem steady_setStore (store : Store) : (setStore store).Steady := fun _ => ⟨rfl, rfl, rfl⟩

theorem steady_writeText (location : Location) (text : String) : (writeText location text).Steady :=
  fun _ => ⟨rfl, rfl, rfl⟩

theorem steady_openFile (mode : Store.WriteMode) (path : RawText) : (openFile mode path).Steady := by
  refine App.steady_bind (reads_onStore _ _).steady fun found => ?_
  exact App.steady_bind (steady_setStore found.1) fun _ => (App.reads_pure found.2).steady

theorem steady_appendText (path : RawText) (text : String) : (appendText path text).Steady :=
  App.steady_bind (steady_openFile .append path) fun location => steady_writeText location text

theorem steady_makePath (path : Path) : (makePath path).Steady :=
  keeps_makePathWithin Session.SameSurroundings.refl Session.SameSurroundings.trans
    (fun _ => ⟨rfl, rfl, rfl⟩) tidyLevelLimit path

/-! ### Contents of files -/

namespace Store

/-- The content of the file at a location; it is empty where there is no file. -/
def contentAt (store : Store) (location : Location) : ByteArray :=
  match store.find? location with
  | some (.file content) => content
  | _ => ByteArray.empty

variable {store changed : Store} {location other : Location}

theorem contentAt_of_find? {content : ByteArray}
    (present : store.find? location = some (.file content)) : store.contentAt location = content := by
  rw [contentAt, present]

/-- Where two stores are alike, files have the same content. -/
theorem SameBut.contentAt_eq (same : SameBut location store changed) (apart : other ≠ location) :
    changed.contentAt other = store.contentAt other := by
  rcases same other apart with equal | ⟨⟨entries, before⟩, ⟨more, after⟩⟩
  · rw [contentAt, contentAt, equal]
  · rw [contentAt, contentAt, before, after]

/-- A new directory changes no content. -/
theorem contentAt_of_makeDirectory {place : Place} (make : store.makeDirectory place = .ok changed)
    (other : Location) : changed.contentAt other = store.contentAt other := by
  obtain ⟨location, -, same, absent, isDirectory⟩ := makeDirectory_eq_ok make
  by_cases here : other = location
  · rw [here, contentAt, contentAt, absent, isDirectory]
  · exact same.contentAt_eq here

/-- A file that is opened for adding to it keeps its content. -/
theorem contentAt_of_openForWriting {place : Place}
    (opening : store.openForWriting .append place = .ok (changed, location)) :
    changed.contentAt location = store.contentAt location := by
  obtain ⟨-, -, -, noDirectory, present⟩ := openForWriting_eq_ok opening
  rw [contentAt_of_find? present, contentAt]
  rcases store.find? location with _ | ⟨content | entries⟩ <;> rfl

end Store

/-- Making a directory and those above it changes no content. -/
theorem contentAt_of_makePath {path : Path} {start final : Session}
    (made : makePath path start = .ok () final) (location : Location) :
    final.store.contentAt location = start.store.contentAt location := by
  have kept : (makePathWithin tidyLevelLimit path).Keeps fun before after =>
      ∀ location, after.store.contentAt location = before.store.contentAt location :=
    keeps_makePathWithin (fun _ _ => rfl) (fun one two location => (two location).trans (one location))
      Store.contentAt_of_makeDirectory tidyLevelLimit path
  exact kept.of_ok made location

/-- Adding to a file changes its content and no other. -/
theorem contentAt_of_appendText {path : RawText} {text : String} {location : Location}
    (named : (Place.here path).location? = some location) {start final : Session}
    (added : appendText path text start = .ok () final) :
    final.store.contentAt location = start.store.contentAt location ++ text.toUTF8 := by
  obtain ⟨place, opened, opening, written⟩ := EStateM.bind_eq_ok.mp added
  obtain ⟨-, isOpened⟩ := openFile_eq_ok opening
  obtain ⟨-, led, -, -, present⟩ := Store.openForWriting_eq_ok isOpened
  obtain rfl : location = place := Option.some.inj (named.symm.trans led)
  rw [writeText_eq_ok written, Store.contentAt_of_find? (Store.find?_append_self present _),
    ← Store.contentAt_of_openForWriting isOpened, Store.contentAt_of_find? present]

end TapeMultiplier
