/-
Module: TapeMultiplier.Proofs.Session
Layer: Proofs
Purpose: What the operations on files come to when they succeed, and what commands leave as it was.
Main exports: openFile_eq_ok, writeDocument_eq, writeDocument_eq_ok, appendText_eq_ok,
  readTextFile_eq_ok, placeFound_eq_ok, checkPath_child, App.Keeps, App.Reads, Store.Extends,
  keeps_makePathWithin, extends_of_makePath
-/
import TapeMultiplier.Proofs.Json.Dump
import TapeMultiplier.Proofs.Store.Path
import TapeMultiplier.Session

namespace TapeMultiplier

/-! ### Operations on files -/

theorem orFail_eq_ok {ε α : Type} {failure : ε → Failure} {found : Except ε α} {start final : Session}
    {answer : α} (succeeded : orFail failure found start = .ok answer final) :
    found = .ok answer ∧ final = start := by
  cases found with
  | error error => cases succeeded
  | ok value =>
      cases succeeded
      exact ⟨rfl, rfl⟩

theorem orFail_of_ok {ε α : Type} {failure : ε → Failure} {found : Except ε α} {answer : α}
    (given : found = .ok answer) (session : Session) :
    orFail failure found session = .ok answer session := by
  rw [given]
  rfl

theorem orFail_of_error {ε α : Type} {failure : ε → Failure} {found : Except ε α} {error : ε}
    (refused : found = .error error) (session : Session) :
    orFail failure found session = .error (failure error) session := by
  rw [refused]
  rfl

theorem asFailure_eq_ok {ε α : Type} {failure : ε → Failure} {found : Except ε α} {answer : α}
    (succeeded : asFailure failure found = .ok answer) : found = .ok answer := by
  cases found with
  | error error => cases succeeded
  | ok value =>
      cases succeeded
      rfl

theorem tryCatch_of_ok {α : Type} {command : App α} {handle : Failure → App α} {start final : Session}
    {answer : α} (succeeded : command start = .ok answer final) :
    tryCatch command handle start = .ok answer final := by
  show EStateM.tryCatch command handle start = .ok answer final
  unfold EStateM.tryCatch
  rw [succeeded]

theorem tryCatch_of_error {α : Type} {command : App α} {handle : Failure → App α} {start middle : Session}
    {failure : Failure} (failed : command start = .error failure middle) :
    tryCatch command handle start = handle failure middle := by
  show EStateM.tryCatch command handle start = _
  unfold EStateM.tryCatch
  rw [failed]
  rfl

theorem onStore_eq_ok {α : Type} {place : Place} {operation : Store → Except StoreFault α}
    {start final : Session} {answer : α}
    (succeeded : onStore place operation start = .ok answer final) :
    checkPath place.path = .ok () ∧ operation start.store = .ok answer ∧ final = start := by
  obtain ⟨⟨⟩, begun, checked, rest⟩ := EStateM.bind_eq_ok.mp succeeded
  obtain ⟨allowed, rfl⟩ := orFail_eq_ok checked
  obtain ⟨session, middle, got, rest⟩ := EStateM.bind_eq_ok.mp rest
  cases got
  refine ⟨allowed, ?_⟩
  cases operated : operation begun.store with
  | error fault =>
      rw [operated] at rest
      cases rest
  | ok value =>
      rw [operated] at rest
      cases rest
      exact ⟨rfl, rfl⟩

theorem onStore_of_ok {α : Type} {place : Place} {operation : Store → Except StoreFault α}
    {session : Session} {answer : α} (allowed : checkPath place.path = .ok ())
    (done : operation session.store = .ok answer) :
    onStore place operation session = .ok answer session := by
  refine EStateM.bind_eq_ok.mpr ⟨(), session, orFail_of_ok allowed session, ?_⟩
  refine EStateM.bind_eq_ok.mpr ⟨session, session, rfl, ?_⟩
  rw [done]
  rfl

theorem onStore_of_error {α : Type} {place : Place} {operation : Store → Except StoreFault α}
    {session : Session} {fault : StoreFault} (allowed : checkPath place.path = .ok ())
    (failed : operation session.store = .error fault) :
    onStore place operation session = .error (.file ⟨fault, place.text⟩) session := by
  rw [onStore, EStateM.bind_of_ok (orFail_of_ok allowed session),
    EStateM.bind_of_ok (show (get : App Session) session = .ok session session from rfl), failed]
  rfl

theorem onStore_of_refused {α : Type} {place : Place} {operation : Store → Except StoreFault α}
    {session : Session} {failure : Failure} (refused : checkPath place.path = .error failure) :
    onStore place operation session = .error failure session := by
  rw [onStore]
  exact EStateM.bind_of_error (orFail_of_error refused session)

theorem openFile_of_error {mode : Store.WriteMode} {path : RawText} {session : Session} {fault : StoreFault}
    (allowed : checkPath path = .ok ())
    (failed : session.store.openForWriting mode (.here path) = .error fault) :
    openFile mode path session = .error (.file ⟨fault, path⟩) session := by
  rw [openFile]
  exact EStateM.bind_of_error (@onStore_of_error _ (.here path) _ session _ allowed failed)

theorem openFile_of_ok {mode : Store.WriteMode} {path : RawText} {session : Session} {opened : Store}
    {location : Location} (allowed : checkPath path = .ok ())
    (opening : session.store.openForWriting mode (.here path) = .ok (opened, location)) :
    openFile mode path session = .ok location { session with store := opened } := by
  rw [openFile, EStateM.bind_of_ok (@onStore_of_ok _ (.here path) _ session _ allowed opening)]
  rfl

theorem openFile_eq_ok {mode : Store.WriteMode} {path : RawText} {start final : Session}
    {location : Location} (opened : openFile mode path start = .ok location final) :
    checkPath path = .ok () ∧
      start.store.openForWriting mode (.here path) = .ok (final.store, location) := by
  obtain ⟨⟨store, place⟩, middle, operated, rest⟩ := EStateM.bind_eq_ok.mp opened
  obtain ⟨allowed, opening, rfl⟩ := onStore_eq_ok operated
  cases rest
  exact ⟨allowed, opening⟩

theorem writeText_eq_ok {location : Location} {text : String} {start final : Session}
    (written : writeText location text start = .ok () final) :
    final.store = start.store.append location text.toUTF8 := by
  cases written
  rfl

/-- Writing a document adds to the file what is written of it, whatever stops it. -/
theorem writeDocument_eq {room : Nat} {location : Location} {document : Json} {session : Session} {text : String}
    {outcome : Except Json.WriteFault Unit} (dumped : document.dump (Json.writingRoom room) = (text, outcome)) :
    writeDocument room location document session =
      orFail Failure.ofWriting outcome { session with store := session.store.append location text.toUTF8 } := by
  rw [writeDocument, dumped]
  rfl

/-- A document that was written to its end is in the file with its indented text. -/
theorem writeDocument_eq_ok {room : Nat} {location : Location} {document : Json} {start final : Session}
    (written : writeDocument room location document start = .ok () final) :
    document.writable = true ∧ final.store = start.store.append location document.writeIndented.toUTF8 := by
  cases dumped : document.dump (Json.writingRoom room) with
  | mk text outcome =>
      rw [writeDocument_eq dumped] at written
      obtain ⟨rfl, rfl⟩ := orFail_eq_ok written
      obtain ⟨rfl, hasText, -⟩ := Json.dump_eq_ok dumped
      exact ⟨hasText, rfl⟩

/-- Adding to a file changes no other file. -/
theorem appendText_eq_ok {path : RawText} {text : String} {start final : Session}
    (added : appendText path text start = .ok () final) :
    ∃ location, (Place.here path).location? = some location ∧
      Store.SameBut location start.store final.store := by
  obtain ⟨location, opened, opening, written⟩ := EStateM.bind_eq_ok.mp added
  obtain ⟨-, isOpened⟩ := openFile_eq_ok opening
  obtain ⟨-, named, sameOpened, -, present⟩ := Store.openForWriting_eq_ok isOpened
  refine ⟨location, named, ?_⟩
  rw [writeText_eq_ok written]
  exact sameOpened.trans (Store.sameBut_append present _)

theorem readFile_eq_ok {place : Place} {start final : Session} {content : ByteArray} :
    readFile place start = .ok content final ↔
      (checkPath place.path = .ok () ∧ start.store.status place = .ok (.file content)) ∧ final = start := by
  constructor
  · intro read
    obtain ⟨allowed, found, same⟩ := onStore_eq_ok read
    exact ⟨⟨allowed, Store.readBytes_eq_ok.mp found⟩, same⟩
  · rintro ⟨⟨allowed, stands⟩, rfl⟩
    exact onStore_of_ok allowed (Store.readBytes_eq_ok.mpr stands)

theorem placeFound_eq_ok {place : Place} {start final : Session} {found : Bool}
    (looked : placeFound place start = .ok found final) :
    final = start ∧
      ((found = true ∧ ∃ node, start.store.status place = .ok node) ∨
        (found = false ∧ (checkPath place.path ≠ .ok () ∨
          ∃ fault, fault ≠ .nameTooLong ∧ start.store.status place = .error fault))) := by
  unfold placeFound at looked
  split at looked
  · next refused =>
    cases looked
    refine ⟨rfl, Or.inr ⟨rfl, Or.inl ?_⟩⟩
    intro allowed
    rw [allowed] at refused
    cases refused
  · obtain ⟨session, middle, got, rest⟩ := EStateM.bind_eq_ok.mp looked
    cases got
    cases stands : start.store.status place with
    | ok node =>
        rw [stands] at rest
        cases rest
        exact ⟨rfl, Or.inl ⟨rfl, node, rfl⟩⟩
    | error fault =>
        rw [stands] at rest
        cases fault with
        | nameTooLong => cases rest
        | missing | alreadyThere | notDirectory | isDirectory =>
            cases rest
            exact ⟨rfl, Or.inr ⟨rfl, Or.inr ⟨_, by decide, rfl⟩⟩⟩

theorem placeFound_of_ok {place : Place} {session : Session} {node : Node}
    (allowed : checkPath place.path = .ok ()) (stands : session.store.status place = .ok node) :
    placeFound place session = .ok true session := by
  unfold placeFound
  rw [allowed]
  refine EStateM.bind_eq_ok.mpr ⟨session, session, rfl, ?_⟩
  rw [stands]
  rfl

theorem readTextFile_eq_ok {place : Place} {start final : Session} {text : List Char} :
    readTextFile place start = .ok text final ↔
      (checkPath place.path = .ok () ∧ ∃ content decoded, start.store.status place = .ok (.file content) ∧
        Text.decodeUtf8 content = .ok decoded ∧ text = unifyLineEnds decoded.toList) ∧ final = start := by
  constructor
  · intro read
    obtain ⟨content, middle, found, rest⟩ := EStateM.bind_eq_ok.mp read
    obtain ⟨⟨allowed, stands⟩, rfl⟩ := readFile_eq_ok.mp found
    obtain ⟨decoded, last, decoding, ended⟩ := EStateM.bind_eq_ok.mp rest
    obtain ⟨valid, rfl⟩ := orFail_eq_ok decoding
    cases ended
    exact ⟨⟨allowed, content, decoded, stands, valid, rfl⟩, rfl⟩
  · rintro ⟨⟨allowed, content, decoded, stands, valid, rfl⟩, rfl⟩
    rw [readTextFile, EStateM.bind_of_ok (readFile_eq_ok.mpr ⟨⟨allowed, stands⟩, rfl⟩),
      EStateM.bind_of_ok (orFail_of_ok valid final)]
    rfl

/-! ### Paths that can name a file -/

/-- Whether an element may stand in the name of a file. -/
def RawChar.isNameable : RawChar → Bool
  | char c => c != '\x00'
  | half distance => (byteOf? distance).isSome

theorem RawText.faultFrom?_eq_none {position : Nat} {elements : List RawChar} :
    faultFrom? position elements = none ↔
      ∀ distance, .half distance ∈ elements → (RawChar.byteOf? distance).isSome = true := by
  induction elements generalizing position with
  | nil => simp [faultFrom?]
  | cons element rest ih =>
      cases element with
      | char c =>
          rw [faultFrom?, ih]
          simp
      | half distance =>
          rw [faultFrom?]
          by_cases named : (RawChar.byteOf? distance).isSome = true
          · rw [if_pos named, ih]
            simp only [List.mem_cons, RawChar.half.injEq, forall_eq_or_imp, named, true_and]
          · rw [if_neg named]
            simp [named]

theorem checkPath_eq_ok {path : RawText} :
    checkPath path = .ok () ↔ ∀ element ∈ path.elements, element.isNameable = true := by
  rw [checkPath]
  constructor
  · intro allowed element member
    split at allowed
    · cases allowed
    · next quiet =>
      split at allowed
      · cases allowed
      · next clean =>
        cases element with
        | half distance => exact RawText.faultFrom?_eq_none.mp quiet distance member
        | char c =>
            rw [RawChar.isNameable, bne_iff_ne]
            rintro rfl
            exact clean (List.contains_iff_mem.mpr member)
  · intro nameable
    have quiet : path.nameFault? = none :=
      RawText.faultFrom?_eq_none.mpr fun distance member => nameable _ member
    have clean : ¬path.elements.contains (.char '\x00') = true := by
      intro member
      exact absurd (nameable _ (List.contains_iff_mem.mp member)) (by decide)
    rw [quiet, if_neg clean]

/-- Where one file of a directory has a path that is allowed, so has another. -/
theorem checkPath_child {path : Path} (tidy : path.Tidy) {first second : RawText}
    (firstNamed : Path.FileNamed first) (secondNamed : Path.FileNamed second)
    (nameable : ∀ element ∈ second.elements, element.isNameable = true)
    (allowed : checkPath (path.child first).text = .ok ()) :
    checkPath (path.child second).text = .ok () := by
  obtain ⟨front, begins⟩ := Path.exists_front tidy
  rw [checkPath_eq_ok, begins firstNamed] at allowed
  rw [checkPath_eq_ok, begins secondNamed]
  intro element member
  rcases List.mem_append.mp member with inFront | inName
  · exact allowed element (List.mem_append_left _ inFront)
  · exact nameable element inName

/-! ### Looking for a file -/

/-- A path that can be looked up at all is not too long. -/
theorem exceeds_of_placeFound {path : RawText} {start final : Session} {found : Bool}
    (allowed : checkPath path = .ok ()) (looked : placeFound (.here path) start = .ok found final) :
    path.exceeds Store.pathLimit = false := by
  cases long : path.exceeds Store.pathLimit with
  | false => rfl
  | true =>
      have refused : start.store.status (.here path) = .error .nameTooLong := by
        rw [Store.status, Store.locate, Store.follow, if_pos (show (Place.here path).text.exceeds _ = true
          from long)]
        rfl
      obtain ⟨-, ⟨-, node, stands⟩ | ⟨-, refusal | ⟨fault, other, stands⟩⟩⟩ := placeFound_eq_ok looked
      · rw [refused] at stands
        cases stands
      · exact absurd allowed refusal
      · rw [refused] at stands
        exact absurd (Except.error.inj stands).symm other

/-- A path that leads to a place is not found only if there is nothing. -/
theorem find?_of_placeFound_false {path : RawText} {start final : Session} {spot : Spot}
    (allowed : checkPath path = .ok ()) (noDirectory : endsInSlash path = false)
    (located : start.store.locate (.here path) = .ok spot)
    (looked : placeFound (.here path) start = .ok false final) :
    start.store.find? spot.location = none := by
  obtain ⟨⟨shown, -⟩, -⟩ := Store.locate_eq_ok located
  obtain ⟨-, ⟨found, -⟩ | ⟨-, refusal | ⟨fault, -, stands⟩⟩⟩ := placeFound_eq_ok looked
  · cases found
  · exact absurd allowed refusal
  · rw [Store.status, located] at stands
    rw [← shown]
    cases node : spot.node with
    | none => rfl
    | some found =>
        cases found with
        | file content =>
            simp [bind, Except.bind, node, Place.path, noDirectory] at stands
            cases stands
        | directory entries =>
            simp [bind, Except.bind, node] at stands
            cases stands

/-! ### Texts of files -/

theorem Text.decodeUtf8_toUTF8 (text : String) : decodeUtf8 text.toUTF8 = .ok text := by
  have valid : String.fromUTF8? text.toUTF8 = some text := by
    rw [String.fromUTF8?, String.toUTF8_eq_toByteArray, dif_pos text.isValidUTF8]
    rfl
  rw [decodeUtf8, valid]

theorem unifyLineEnds_of_notMem {text : List Char} (unreturned : '\r' ∉ text) :
    unifyLineEnds text = text := by
  induction text with
  | nil => rfl
  | cons c rest ih =>
      rw [List.mem_cons, not_or] at unreturned
      rw [unifyLineEnds, ih unreturned.2]
      · rintro _ rfl
        exact absurd rfl unreturned.1
      · rintro rfl
        exact absurd rfl unreturned.1

/-! ### What commands keep -/

/-- The session that is left behind, be it with an answer or with a failure. -/
def leftBehind {α : Type} : EStateM.Result Failure Session α → Session
  | .ok _ session => session
  | .error _ session => session

/-- Whatever comes of a command, the session that it leaves behind is related to the one in which it
began. -/
def App.Keeps {α : Type} (relation : Session → Session → Prop) (command : App α) : Prop :=
  ∀ session, relation session (leftBehind (command session))

namespace App

section Sequences

variable {α β : Type} {relation : Session → Session → Prop}

theorem keeps_bind {first : App α} {next : α → App β} (one : Keeps relation first)
    (two : ∀ answer, Keeps relation (next answer))
    (trans : ∀ {before middle after}, relation before middle → relation middle after →
      relation before after) : Keeps relation (first >>= next) := by
  intro session
  have begun := one session
  show relation session (leftBehind (EStateM.bind first next session))
  unfold EStateM.bind
  cases outcome : first session with
  | error failure middle =>
      rw [outcome] at begun
      exact begun
  | ok answer middle =>
      rw [outcome] at begun
      exact trans begun (two answer middle)

theorem keeps_tryCatch {command : App α} {handle : Failure → App α} (one : Keeps relation command)
    (two : ∀ failure, Keeps relation (handle failure))
    (trans : ∀ {before middle after}, relation before middle → relation middle after →
      relation before after) : Keeps relation (tryCatch command handle) := by
  intro session
  have begun := one session
  show relation session (leftBehind (EStateM.tryCatch command handle session))
  unfold EStateM.tryCatch
  cases outcome : command session with
  | ok answer middle =>
      rw [outcome] at begun
      exact begun
  | error failure middle =>
      rw [outcome] at begun
      exact trans begun (two failure middle)

end Sequences

end App

/-! ### Reading -/

/-- A command that changes nothing. -/
def App.Reads {α : Type} (command : App α) : Prop :=
  command.Keeps fun start final => final = start

namespace App

variable {α β : Type}

theorem reads_pure (answer : α) : (pure answer : App α).Reads := fun _ => rfl

theorem reads_throw (failure : Failure) : (throw failure : App α).Reads := fun _ => rfl

theorem reads_get : (get : App Session).Reads := fun _ => rfl

theorem reads_bind {first : App α} {next : α → App β} (one : first.Reads)
    (two : ∀ answer, (next answer).Reads) : (first >>= next).Reads :=
  keeps_bind one two fun begun ended => ended.trans begun

theorem reads_tryCatch {command : App α} {handle : Failure → App α} (one : command.Reads)
    (two : ∀ failure, (handle failure).Reads) : (tryCatch command handle).Reads :=
  keeps_tryCatch one two fun begun ended => ended.trans begun

theorem reads_orFail {ε : Type} (failure : ε → Failure) (found : Except ε α) :
    (orFail failure found).Reads := by
  intro session
  cases found <;> rfl

theorem Reads.eq_of_ok {command : App α} (reads : command.Reads) {start final : Session} {answer : α}
    (succeeded : command start = .ok answer final) : final = start := by
  have kept := reads start
  rwa [succeeded] at kept

end App

theorem reads_onStore {α : Type} (place : Place) (operation : Store → Except StoreFault α) :
    (onStore place operation).Reads := by
  refine App.reads_bind (App.reads_orFail id _) fun _ => ?_
  refine App.reads_bind App.reads_get fun session => ?_
  cases operation session.store with
  | error fault => exact App.reads_throw _
  | ok answer => exact App.reads_pure answer

theorem reads_placeFound (place : Place) : (placeFound place).Reads := by
  unfold placeFound
  split
  · exact App.reads_pure false
  · refine App.reads_bind App.reads_get fun session => ?_
    split
    · exact App.reads_pure true
    · exact App.reads_throw _
    · exact App.reads_pure false

/-! ### Making directories -/

/-- A store that has the files of another, and more directories. -/
def Store.Extends (store larger : Store) : Prop :=
  ∀ location, larger.find? location = store.find? location ∨
    ∃ entries, larger.find? location = some (.directory entries)

namespace Store.Extends

theorem refl (store : Store) : store.Extends store := fun _ => Or.inl rfl

theorem trans {first second third : Store} (one : first.Extends second) (two : second.Extends third) :
    first.Extends third := by
  intro location
  rcases two location with same | isDirectory
  · rcases one location with before | isDirectory
    · exact Or.inl (same.trans before)
    · exact Or.inr (by rwa [same])
  · exact Or.inr isDirectory

theorem of_makeDirectory {store made : Store} {place : Place}
    (make : store.makeDirectory place = .ok made) : store.Extends made := by
  obtain ⟨location, -, same, -, isDirectory⟩ := Store.makeDirectory_eq_ok make
  intro other
  by_cases here : other = location
  · rw [here]
    exact Or.inr ⟨[], isDirectory⟩
  · rcases same other here with equal | ⟨-, directory⟩
    · exact Or.inl equal.symm
    · exact Or.inr directory

end Store.Extends

/-- The session keeps its files. -/
def Session.Extends (start final : Session) : Prop :=
  start.store.Extends final.store

theorem Session.Extends.refl (session : Session) : session.Extends session :=
  Store.Extends.refl session.store

theorem Session.Extends.trans {first second third : Session} (one : first.Extends second)
    (two : second.Extends third) : first.Extends third :=
  Store.Extends.trans one two

section

variable {relation : Session → Session → Prop} (refl : ∀ session, relation session session)
  (trans : ∀ {before middle after}, relation before middle → relation middle after →
    relation before after)
  (made : ∀ {path session store}, session.store.makeDirectory (.here path) = .ok store →
    relation session { session with store })

include refl made

theorem keeps_makeDirectory (path : RawText) : (makeDirectory path).Keeps relation := by
  intro session
  show relation session (leftBehind (EStateM.bind (onStore (.here path) _) setStore session))
  unfold EStateM.bind
  have kept := reads_onStore (.here path) (fun store => store.makeDirectory (.here path)) session
  split
  · next store middle outcome =>
    obtain ⟨-, make, rfl⟩ := onStore_eq_ok outcome
    exact made make
  · next failure middle outcome =>
    rw [outcome] at kept
    rw [leftBehind, show middle = session from kept]
    exact refl session

include trans

theorem keeps_makeDirectory_unless (path : RawText) :
    (unlessDirectory path (makeDirectory path)).Keeps relation := by
  refine App.keeps_tryCatch (keeps_makeDirectory refl made path) (fun failure => ?_) trans
  split
  · refine App.keeps_bind refl (fun session => ?_) trans
    split <;> exact refl
  · exact refl

/-- Making a directory and those above it keeps whatever making one directory keeps. -/
theorem keeps_makePathWithin (levels : Nat) (path : Path) :
    (makePathWithin levels path).Keeps relation := by
  induction levels generalizing path with
  | zero => exact refl
  | succ levels ih =>
      refine App.keeps_tryCatch (keeps_makeDirectory refl made path.text) (fun failure => ?_) trans
      split
      · split
        · exact refl
        · exact App.keeps_bind (ih path.parent)
            (fun _ => keeps_makeDirectory_unless refl trans made path.text) trans
      · refine App.keeps_bind refl (fun session => ?_) trans
        split <;> exact refl
      · exact refl

end

/-- What a command keeps, it keeps when it succeeds. -/
theorem App.Keeps.of_ok {α : Type} {relation : Session → Session → Prop} {command : App α}
    (keeps : command.Keeps relation) {start final : Session} {answer : α}
    (succeeded : command start = .ok answer final) : relation start final := by
  have kept := keeps start
  rwa [succeeded] at kept

/-- Making a directory and those above it keeps all files. -/
theorem extends_of_makePath {path : Path} {start final : Session}
    (made : makePath path start = .ok () final) : start.Extends final :=
  (keeps_makePathWithin Session.Extends.refl Session.Extends.trans Store.Extends.of_makeDirectory
    tidyLevelLimit path).of_ok made

end TapeMultiplier
