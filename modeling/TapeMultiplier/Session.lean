/-
Module: TapeMultiplier.Session
Layer: Session
Purpose: What the program's commands act on (files, clock, terminal, log), how they fail, and the
  operations from which commands are built; tapes, program texts, multiplications and batches on a
  machine of finite size.
Main exports: Failure, FailureClass, Session, App, print, printMarked, readLine, readFile,
  makeDirectories, makePath, writeDocument, appendText, programText, boundedMultiply, boundedBatch,
  boundedReference, boundedText
-/
import TapeMultiplier.Capacity
import TapeMultiplier.Clock
import TapeMultiplier.Json.Reader
import TapeMultiplier.LineWrap
import TapeMultiplier.Settings
import TapeMultiplier.Store
import TapeMultiplier.Text.Utf8

namespace TapeMultiplier

/-!
A command is a function of the session: it answers or fails, and in both cases it leaves a session
behind.  Nothing is undone by a failure, so what was printed or written before it stays.
-/

/-- A file error and the path that it is about. -/
structure FileError where
  fault : StoreFault
  path : RawText
deriving Repr, DecidableEq

namespace FileError

/-- The system's number and text for a fault. -/
def description : StoreFault → String
  | .missing => "[Errno 2] No such file or directory"
  | .alreadyThere => "[Errno 17] File exists"
  | .notDirectory => "[Errno 20] Not a directory"
  | .isDirectory => "[Errno 21] Is a directory"
  | .nameTooLong => "[Errno 36] File name too long"

/-- The wording of the error. -/
def message (error : FileError) : String :=
  description error.fault ++ ": " ++ error.path.quoted

end FileError

/-- Why the text of a program file cannot be had. -/
inductive UnreadableText where
  | file (error : FileError)
  | notAscii (byte : UInt8) (position : Nat)
deriving Repr, DecidableEq

/-- The wording of the error. -/
def UnreadableText.message : UnreadableText → String
  | file error => error.message
  | notAscii byte position =>
      "'ascii' codec can't decode byte 0x" ++ String.ofList (Text.hexDigits 2 byte.toNat) ++
        " in position " ++ Text.decimal position ++ ": ordinal not in range(128)"

/-- Why a checkpoint cannot be used. -/
inductive CheckpointError where
  /-- The checkpoint is no object. -/
  | noFields (kind : Kind)
  /-- The completed pairs are a value that holds nothing. -/
  | holdsNothing (kind : Kind)
  /-- A completed pair is a value that cannot be filed. -/
  | notFiled (kind : Kind)
  /-- The completed pairs cannot be added to. -/
  | notExtended (kind : Kind)
deriving Repr, DecidableEq

/-- The wording of the error. -/
def CheckpointError.message : CheckpointError → String
  | noFields kind => "'" ++ kind.name ++ "' object has no attribute 'get'"
  | holdsNothing kind => "'" ++ kind.name ++ "' object is not iterable"
  | notFiled kind => "unhashable type: '" ++ kind.name ++ "'"
  | notExtended kind => "'" ++ kind.name ++ "' object has no attribute 'extend'"

/-- What is asked of a log. -/
inductive JournalAction where
  | entry
  | entries
  | run
  | trace
  | mismatches
  | rotation
deriving Repr, DecidableEq

/-- The action's name in messages. -/
def JournalAction.text : JournalAction → String
  | entry => "log"
  | entries => "log_batch"
  | run => "log_run"
  | trace => "log_trace"
  | mismatches => "log_mismatch"
  | rotation => "rotate"

/-- What the value of an option is needed for. -/
inductive ValueUse where
  /-- To look for the settings. -/
  | settingsPath
  /-- To find a file or a directory. -/
  | path
  /-- To count the factors up to it. -/
  | largestFactor
  /-- To lay out that many things. -/
  | amount
  /-- To ask whether it is a limit at all, which one above zero is. -/
  | positiveLimit
  /-- To ask whether it is no limit, which one below zero is. -/
  | negativeLimit
deriving Repr, DecidableEq

/-- The wording of the complaint that there is no value: an option without one has the empty list. -/
def ValueUse.complaint : ValueUse → String
  | settingsPath => "stat: path should be string, bytes, os.PathLike or integer, not list"
  | path => "expected str, bytes or os.PathLike object, not list"
  | largestFactor => "can only concatenate list (not \"int\") to list"
  | amount => "'list' object cannot be interpreted as an integer"
  | positiveLimit => "'>' not supported between instances of 'list' and 'int'"
  | negativeLimit => "'<' not supported between instances of 'list' and 'int'"

/-- What goes deeper than there is room for. -/
inductive Recursion where
  /-- Missing directories above one another, for a path that is used as given. -/
  | directories
  /-- Missing directories above one another, for a tidy path. -/
  | tidyDirectories
  /-- Containers inside one another in a document that is written. -/
  | containers
  /-- Containers around a float in a document that is written. -/
  | float
deriving Repr, DecidableEq

/-- Where the depth is noticed, as messages have it. -/
def Recursion.place : Recursion → String
  | directories => ""
  | tidyDirectories => " while calling a Python object"
  | containers => " while calling a Python object"
  | float => " in comparison"

/-- How a command fails. -/
inductive Failure where
  /-- A table given as data is malformed. -/
  | word (error : WordError)
  /-- A program text is malformed. -/
  | decode (error : DecodeError)
  /-- A program file has no readable text. -/
  | program (path : RawText) (reason : UnreadableText)
  /-- A state name has no number. -/
  | stateName (error : StateNameError)
  /-- The factors are refused. -/
  | operands (error : OperandError)
  /-- The head is outside the tape. -/
  | head (error : HeadError)
  /-- A batch has no results. -/
  | batch (error : BatchError)
  /-- There is no room for a text or for buffers. -/
  | capacity (error : CapacityError)
  /-- The batch size is zero. -/
  | emptyBatches
  /-- Settings are refused. -/
  | settings (error : SettingsError)
  /-- There is no settings file. -/
  | noSettingsFile (path : RawText)
  /-- A file error. -/
  | file (error : FileError)
  /-- A path holds the character with the number zero. -/
  | nulInName
  /-- A path holds what is no character. -/
  | halfInName (fault : HalfFault)
  /-- There are more levels above one another than there is room for. -/
  | tooManyLevels (recursion : Recursion)
  /-- An option was given without the value that is needed. -/
  | noValue (use : ValueUse)
  /-- A document is no JSON. -/
  | document (error : Json.ReadError)
  /-- A file is no text. -/
  | notText (fault : Text.Utf8Fault)
  /-- A checkpoint is unusable. -/
  | checkpoint (error : CheckpointError)
  /-- Something was asked of a log that is not there. -/
  | noJournal (action : JournalAction)
  /-- A duration is longer than every float. -/
  | durationTooLong
  /-- A line was asked for and there was none. -/
  | endOfInput
  /-- The command ends the program. -/
  | exit (code : Nat)
  /-- A run did not end within the session's patience. -/
  | unfinished
deriving Repr, DecidableEq

/-- The failure of a multiplication. -/
def Failure.ofMultiply : MultiplyError → Failure
  | .operands error => operands error
  | .head error => head error
  | .unfinished => unfinished

/-- The failure of a batch. -/
def Failure.ofBatch : BatchError → Failure
  | .unfinished => unfinished
  | .operands error => operands error
  | error => batch error

/-- The failure of writing a document. -/
def Failure.ofWriting : Json.WriteFault → Failure
  | .digits => capacity .digits
  | .containerTooDeep => tooManyLevels .containers
  | .floatTooDeep => tooManyLevels .float

/-- The wording of a failure. -/
def Failure.message : Failure → String
  | word error => error.message
  | decode error => error.message
  | program path reason => "Could not read program file " ++ path.shown ++ ": " ++ reason.message
  | stateName error => error.message
  | operands error => error.message
  | head error => error.message
  | batch error => error.message
  | capacity error => error.message
  | emptyBatches => "range() arg 3 must not be zero"
  | settings error => error.message
  | noSettingsFile path => "Configuration file not found at: " ++ path.shown
  | file error => error.message
  | nulInName => "embedded null byte"
  | halfInName fault => fault.message
  | tooManyLevels recursion => "maximum recursion depth exceeded" ++ recursion.place
  | noValue use => use.complaint
  | document error => error.message
  | notText fault => fault.message
  | checkpoint error => error.message
  | noJournal action => "'NoneType' object has no attribute '" ++ action.text ++ "'"
  | durationTooLong => "int too large to convert to float"
  | endOfInput => "EOF when reading a line"
  | exit code => Text.decimal code
  | unfinished => "the run did not end"

/-- The kinds of failure that commands tell apart. -/
inductive FailureClass where
  /-- A file is not there. -/
  | fileMissing
  /-- A value, or the kind of a value, is wrong. -/
  | wrongValue
  /-- Anything else. -/
  | other
deriving Repr, DecidableEq

/-- The kind of a failed batch. -/
def BatchError.failureClass : BatchError → FailureClass
  | negativeSize => .wrongValue
  | operands _ => .wrongValue
  | tooSmall _ _ _ => .wrongValue
  | head _ => .wrongValue
  | alphabet _ => .other
  | column _ => .other
  | fault _ => .other
  | unfinished => .other

/-- The kind of a lack of room. -/
def CapacityError.failureClass : CapacityError → FailureClass
  | noWord => .other
  | memory => .other
  | dimension => .wrongValue
  | arraySize => .wrongValue
  | buffers _ _ => .other
  | cell _ => .other
  | cellWord => .other
  | digits => .wrongValue

/-- The kind of a failure. -/
def Failure.failureClass : Failure → FailureClass
  | word _ => .wrongValue
  | decode _ => .wrongValue
  | program _ _ => .other
  | stateName _ => .wrongValue
  | operands _ => .wrongValue
  | head _ => .wrongValue
  | batch error => error.failureClass
  | capacity error => error.failureClass
  | emptyBatches => .wrongValue
  | settings _ => .wrongValue
  | noSettingsFile _ => .fileMissing
  | file ⟨.missing, _⟩ => .fileMissing
  | file _ => .other
  | nulInName => .wrongValue
  | halfInName _ => .wrongValue
  | tooManyLevels _ => .other
  | noValue _ => .other
  | document (.tooDeep _) => .other
  | document _ => .wrongValue
  | notText _ => .wrongValue
  | checkpoint _ => .other
  | noJournal _ => .other
  | durationTooLong => .other
  | endOfInput => .other
  | exit _ => .other
  | unfinished => .other

/-- A log: entries go to files of a directory that carry the date. -/
structure Journal where
  directory : RawText
  stem : RawText
  today : String
deriving Repr, DecidableEq

/-- A progress bar: its total and the advances made. -/
structure ProgressBar where
  total : Nat
  advances : List Nat
deriving Repr, DecidableEq

/-- What happens at the terminal. -/
inductive TerminalEvent where
  | text (value : String)
  | pause (delay : Duration)
deriving Repr, DecidableEq

/-- Everything that a command can read or change. -/
structure Session where
  /-- Files and directories. -/
  store : Store
  /-- The directory of the installed files, as it is shown. -/
  installRoot : String
  /-- The present time. -/
  clock : Clock
  /-- The time that a measured run takes. -/
  elapsed : Duration
  /-- What is still to be read from the terminal. -/
  input : List Char
  /-- What happened at the terminal, the last event first. -/
  transcript : List TerminalEvent
  /-- The last progress bar. -/
  progress : Option ProgressBar
  /-- The log in use. -/
  journal : Option Journal
  /-- The number of steps within which a run without a limit has to end. -/
  patience : Nat

namespace Session

/-- What was printed. -/
def output (session : Session) : String :=
  String.join (session.transcript.reverse.map fun
    | .text value => value
    | .pause _ => "")

/-- The number of pauses between printed steps. -/
def pauses (session : Session) : Nat :=
  (session.transcript.filter fun
    | .text _ => false
    | .pause _ => true).length

end Session

/-- A command: it answers or fails, and leaves a session behind either way. -/
abbrev App := EStateM Failure Session

/-- Print a text. -/
def print (text : String) : App Unit :=
  modify fun session => { session with transcript := .text text :: session.transcript }

/-- Print a text and end the line. -/
def printLine (text : String) : App Unit :=
  print (text ++ "\n")

/-- Print a line that carries a text from outside: brackets and backslashes in it may be marks, and it
may be wider than the terminal. -/
def printMarked (text : String) : App Unit :=
  printLine (LineWrap.fitHighlighted (Markup.plain text))

/-- Pause between printed steps. -/
def pause (delay : Duration) : App Unit :=
  modify fun session => { session with transcript := .pause delay :: session.transcript }

/-- Read a line of the terminal, without its end. -/
def readLine : App String := do
  let session ← get
  if session.input.isEmpty then throw .endOfInput
  let line := session.input.takeWhile (· != '\n')
  set { session with input := (session.input.dropWhile (· != '\n')).drop 1 }
  return String.ofList line

/-- Answer with what was found, or fail. -/
def orFail {ε α : Type} (failure : ε → Failure) : Except ε α → App α
  | .ok value => pure value
  | .error error => throw (failure error)

/-- The value of an option that is needed for something. -/
def required {α : Type} (use : ValueUse) : Option α → App α
  | some value => pure value
  | none => throw (.noValue use)

/-- A path among the files that come with the program. -/
def installedPlace (path : RawText) : App Place := do
  return .installed (← get).installRoot path

/-- Refuse a path with which no file can be named. -/
def checkPath (path : RawText) : Except Failure Unit :=
  match path.nameFault? with
  | some fault => .error (.halfInName fault)
  | none => if path.elements.contains (.char '\x00') then .error .nulInName else .ok ()

/-- Carry out an operation on the files; a fault becomes an error about the path. -/
def onStore {α : Type} (place : Place) (operation : Store → Except StoreFault α) : App α := do
  orFail id (checkPath place.path)
  match operation (← get).store with
  | .ok answer => return answer
  | .error fault => throw (.file ⟨fault, place.text⟩)

/-- Put a new state of the files in place. -/
def setStore (store : Store) : App Unit :=
  modify fun session => { session with store }

/-- Whether a path stands for anything; a path that cannot be looked up does not. -/
def placeExists (place : Place) : App Bool := do
  return (← get).store.holds place && (checkPath place.path).isOk

/-- Whether a path stands for anything, where a path that is too long is an error. -/
def placeFound (place : Place) : App Bool := do
  if !(checkPath place.path).isOk then return false
  match (← get).store.status place with
  | .ok _ => return true
  | .error .nameTooLong => throw (.file ⟨.nameTooLong, place.text⟩)
  | .error _ => return false

/-- The content of a file. -/
def readFile (place : Place) : App ByteArray :=
  onStore place fun store => store.readBytes place

/-- Line ends of every convention become line feeds. -/
def unifyLineEnds : List Char → List Char
  | '\r' :: '\n' :: rest => '\n' :: unifyLineEnds rest
  | '\r' :: rest => '\n' :: unifyLineEnds rest
  | c :: rest => c :: unifyLineEnds rest
  | [] => []

/-- The content of a text file, with unified line ends. -/
def readTextFile (place : Place) : App (List Char) := do
  let text ← orFail .notText (Text.decodeUtf8 (← readFile place))
  return unifyLineEnds text.toList

/-- Open a file for writing. -/
def openFile (mode : Store.WriteMode) (path : RawText) : App Location := do
  let (store, location) ← onStore (.here path) fun store => store.openForWriting mode (.here path)
  setStore store
  return location

/-- Write a text at the end of an open file. -/
def writeText (location : Location) (text : String) : App Unit :=
  modify fun session =>
    { session with store := session.store.append location text.toUTF8 }

/-- Write a document to an open file, where there is so much room for reading one.  What cannot be written to
its end is written as far as possible. -/
def writeDocument (room : Nat) (location : Location) (document : Json) : App Unit := do
  let (text, outcome) := document.dump (Json.writingRoom room)
  writeText location text
  orFail .ofWriting outcome

/-- Add a text to the end of a file. -/
def appendText (path : RawText) (text : String) : App Unit := do
  let location ← openFile .append path
  writeText location text

/-- Remove a file. -/
def removeFile (path : RawText) : App Unit := do
  let spot ← onStore (.here path) fun store => do
    let _ ← store.readBytes (.here path)
    store.locate (.here path)
  setStore ((← get).store.erase spot.location)

/-- Make a directory in one that exists. -/
def makeDirectory (path : RawText) : App Unit := do
  setStore (← onStore (.here path) fun store => store.makeDirectory (.here path))

/-- Go on after a file error if the directory is there all the same. -/
def unlessDirectory (path : RawText) (action : App Unit) : App Unit :=
  tryCatch action fun failure => do
    match failure with
    | .file _ => if (← get).store.isDirectory (.here path) then pure () else throw failure
    | _ => throw failure

/-- Go on after the error that something is there already. -/
def unlessThere (action : App Unit) : App Unit :=
  tryCatch action fun failure =>
    match failure with
    | .file ⟨.alreadyThere, _⟩ => pure ()
    | _ => throw failure

/-- The directory part and the last name, where a slash at the end does not count. -/
def splitDirectory (path : RawText) : RawText × RawText :=
  let (head, tail) := splitLast path
  if tail.isEmpty then splitLast head else (head, tail)

/-- The most directories that can be made at once for a path that is used as given. -/
def levelLimit : Nat := 990

/-- Make a directory and those above it that are missing, as many as are allowed. -/
def makeDirectoriesWithin : Nat → RawText → App Unit
  | 0, _ => throw (.tooManyLevels .directories)
  | levels + 1, path => do
      let (head, tail) := splitDirectory path
      if !head.isEmpty && !tail.isEmpty && !(← placeExists (.here head)) then
        unlessThere (makeDirectoriesWithin levels head)
        if tail == "." then return ()
      unlessDirectory path (makeDirectory path)

/-- Make a directory and those above it that are missing. -/
def makeDirectories (path : RawText) : App Unit :=
  makeDirectoriesWithin levelLimit path

/-- The most directories that can be made at once for a tidy path. -/
def tidyLevelLimit : Nat := 987

/-- Make a tidy directory; one above it that is missing is made first, as many as are allowed. -/
def makePathWithin : Nat → Path → App Unit
  | 0, _ => throw (.tooManyLevels .tidyDirectories)
  | levels + 1, path =>
      tryCatch (makeDirectory path.text) fun failure => do
        match failure with
        | .file ⟨.missing, _⟩ =>
            if path.parts.isEmpty then throw failure
            makePathWithin levels path.parent
            unlessDirectory path.text (makeDirectory path.text)
        | .file _ =>
            if (← get).store.isDirectory (.here path.text) then pure () else throw failure
        | _ => throw failure

/-- Make a tidy directory and those above it that are missing. -/
def makePath (path : Path) : App Unit :=
  makePathWithin tidyLevelLimit path

/-- Carry out a command with a log of its own. -/
def withOwnJournal {α : Type} (action : App α) : App α := fun session =>
  match action { session with journal := none } with
  | .ok answer final => .ok answer { final with journal := session.journal }
  | .error failure final => .error failure { final with journal := session.journal }

/-!
### Answers where there is room

The answers of the model wherever there is room for what the model lays out.
-/

/-- An answer with its error taken for a failure. -/
def asFailure {ε α : Type} (failure : ε → Failure) : Except ε α → Except Failure α
  | .ok answer => .ok answer
  | .error error => .error (failure error)

/-- The starting tape for two factors of any sign. -/
def boundedTape (a b : Int) : Except Failure (List Char) := do
  asFailure .capacity (checkTape a b)
  return multiplicationTape a b

/-- The program text of transitions. -/
def programText (transitions : List Transition) : Except Failure (List Char) := do
  asFailure .capacity (checkTransitions transitions)
  asFailure .stateName (ProgramText.encode transitions)

/-- The machine that is about to multiply two factors.  Factors are checked before there is a question
of room. -/
def boundedMultiplier (a b : Int) : Except Failure Machine := do
  asFailure .capacity (checkTasks none [(a, b)])
  asFailure .ofMultiply (multiplier a b)

/-- Run a program on the tape for two factors. -/
def boundedMultiply (table : Table) (patience : Nat) (a b : Int) (limit : StepLimit) :
    Except Failure (Nat × Configuration) := do
  asFailure .capacity (checkTasks none [(a, b)])
  asFailure .ofMultiply (multiply table patience a b limit)

/-- Evaluate tasks by the kernel on buffers of one size. -/
def boundedBatch (dense : Dense) (patience : Nat) (tasks : List (Int × Int)) (maxSteps : Int)
    (tapeSize : Int) : Except Failure (List BatchResult) := do
  asFailure .capacity (checkBatch tasks tapeSize)
  asFailure .ofBatch (evaluateBatch dense patience tasks maxSteps tapeSize)

/-- Evaluate tasks one after the other by the step-by-step machine. -/
def boundedReference (table : Table) (patience : Nat) (tasks : List (Int × Int)) (maxSteps : Int) :
    Except Failure (List BatchResult) := do
  asFailure .capacity (checkTasks none tasks)
  asFailure .ofBatch (evaluateReference table patience tasks maxSteps)

/-- The text of letter columns; all of them have to be cells before the first is looked up. -/
def boundedText (cells : List Int) : Except Failure (List Char) := do
  asFailure .capacity (checkCells cells)
  asFailure (fun error => .batch (.column error)) (decodeCells cells)

end TapeMultiplier
