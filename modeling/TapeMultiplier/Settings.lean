/-
Module: TapeMultiplier.Settings
Layer: Data
Purpose: Settings as they are stored (ordered entries, known and unknown) and as they are used
  (preferences with their types), with the defaults, the merge of a document over the defaults, and
  the checks that lead from the first form to the second.
Main exports: Duration, Settings, Preferences, SettingsError, Settings.defaults, Settings.merge,
  Settings.preferences, Settings.ofDocument, Settings.toDocument
-/
import TapeMultiplier.Decimal.Binary
import TapeMultiplier.Json.Writer

namespace TapeMultiplier

/-- A number of seconds as it was given: how long to pause between printed steps, or how long a run
took. -/
inductive Duration where
  | whole (seconds : Int)
  | fractional (seconds : Float)
deriving Repr, DecidableEq

namespace Duration

/-- Whether the duration is negative. -/
def isNegative : Duration → Bool
  | whole seconds => seconds < 0
  | fractional seconds => seconds < Float.ofBits 0

/-- Whether the duration is zero. -/
def isZero : Duration → Bool
  | whole seconds => seconds == 0
  | fractional seconds => seconds == Float.ofBits 0

/-- The duration as a float. -/
def toFloat : Duration → Float
  | whole seconds => Decimal.toFloat (seconds < 0) ⟨seconds.natAbs, 0⟩
  | fractional seconds => seconds

/-- Whether a float comes near the duration; a whole number may be too large. -/
def fitsFloat : Duration → Bool
  | whole seconds => !(toFloat (whole seconds)).isInf
  | fractional _ => true

end Duration

/-- The kind of a JSON value. -/
inductive Kind where
  | null
  | bool
  | int
  | float
  | string
  | list
  | object
deriving Repr, Inhabited, DecidableEq

namespace Kind

/-- The kind's name in messages. -/
def name : Kind → String
  | null => "NoneType"
  | bool => "bool"
  | int => "int"
  | float => "float"
  | string => "str"
  | list => "list"
  | object => "dict"

/-- The kind as it is shown where types are listed. -/
def label (kind : Kind) : String :=
  "<class '" ++ kind.name ++ "'>"

/-- A choice of kinds as it is shown where types are listed. -/
def choiceLabel : List Kind → String
  | [kind] => kind.label
  | kinds => "(" ++ ", ".intercalate (kinds.map label) ++ ")"

end Kind

/-- The kind of a value. -/
def Json.kind : Json → Kind
  | null => .null
  | bool _ => .bool
  | int _ => .int
  | float _ => .float
  | string _ => .string
  | list _ => .list
  | object _ => .object

/-- Why settings cannot be used. -/
inductive SettingsError where
  /-- A required entry is absent. -/
  | missing (key : String)
  /-- An entry has a value of the wrong kind. -/
  | wrongKind (key : String) (expected : List Kind) (got : Kind)
  /-- The delay between printed steps is negative. -/
  | negativeDelay
  /-- The step limit is neither positive nor absent. -/
  | limitNotPositive
  /-- A size is not positive. -/
  | notPositive (key : String)
  /-- Entries were looked for in a value that holds none. -/
  | holdsNoEntries (kind : Kind)
  /-- Entries were looked for by name in a text. -/
  | textHasNoNames
  /-- Entries were looked for by name in a list. -/
  | listHasNoNames
  /-- The overrides are a value that holds nothing. -/
  | overridesHoldNothing (kind : Kind)
  /-- An element of the overrides is no sequence. -/
  | elementNoSequence (position : Nat)
  /-- An element of the overrides is no pair. -/
  | elementNoPair (position length : Nat)
  /-- A value of this kind cannot be a key. -/
  | keyNotAllowed (kind : Kind)
deriving Repr, DecidableEq

namespace SettingsError

/-- The wording of the error. -/
def message : SettingsError → String
  | missing key => "Missing required configuration key: " ++ key
  | wrongKind key expected got =>
      "Config key '" ++ key ++ "' expected " ++ Kind.choiceLabel expected ++ ", got " ++ got.label ++
        "."
  | negativeDelay => "step_delay must not be negative."
  | limitNotPositive => "max_steps must be positive, or null for no limit."
  | notPositive key => key ++ " must be positive."
  | holdsNoEntries kind => "argument of type '" ++ kind.name ++ "' is not iterable"
  | textHasNoNames => "string indices must be integers, not 'str'"
  | listHasNoNames => "list indices must be integers or slices, not str"
  | overridesHoldNothing kind => "'" ++ kind.name ++ "' object is not iterable"
  | elementNoSequence position =>
      "cannot convert dictionary update sequence element #" ++ Text.decimal position ++
        " to a sequence"
  | elementNoPair position length =>
      "dictionary update sequence element #" ++ Text.decimal position ++ " has length " ++
        Text.decimal length ++ "; 2 is required"
  | keyNotAllowed kind => "unhashable type: '" ++ kind.name ++ "'"

/-- Whether the error is about the kind of a value rather than about the value itself. -/
def aboutKind : SettingsError → Bool
  | missing _ => false
  | wrongKind _ _ _ => true
  | negativeDelay => false
  | limitNotPositive => false
  | notPositive _ => false
  | holdsNoEntries _ => true
  | textHasNoNames => true
  | listHasNoNames => true
  | overridesHoldNothing _ => true
  | elementNoSequence _ => true
  | elementNoPair _ _ => false
  | keyNotAllowed _ => true

end SettingsError

/-- Settings in the form in which they are used. -/
structure Preferences where
  programPath : RawText
  showSteps : Bool
  stepDelay : Duration
  maxSteps : Option Int
  traceLog : Bool
  outputDirectory : RawText
  logFileStem : RawText
  batchSize : Int
  tapeSize : Int
  gridMax : Int
deriving Repr, DecidableEq

/-- Stored settings: entries in order of first arrival.  Keys are scalars; a document that is an
object has string keys only. -/
structure Settings where
  entries : List (Json × Json)
deriving Repr, Inhabited

namespace Settings

/-- Set an entry: a known key keeps its place and takes the new value, a new key goes to the end. -/
def insertEntry (key value : Json) : List (Json × Json) → List (Json × Json)
  | [] => [(key, value)]
  | entry :: rest =>
      if entry.1.same key then (entry.1, value) :: rest else entry :: insertEntry key value rest

/-- The settings with one entry set. -/
def set (settings : Settings) (key value : Json) : Settings :=
  ⟨insertEntry key value settings.entries⟩

/-- The value of a string key. -/
def find? (settings : Settings) (key : String) : Option Json :=
  (settings.entries.find? fun entry => entry.1.same (.string key)).map (·.2)

/-- Settings with string keys. -/
def ofFields (fields : List (RawText × Json)) : Settings :=
  ⟨fields.map fun field => (.string field.1, field.2)⟩

/-- The settings that hold where a document says nothing. -/
def defaults : Settings :=
  ofFields
    [("program_path", .string "programs/multiplication.tm"),
     ("show_steps", .bool false),
     ("step_delay", .float (Decimal.toFloat false ⟨1, -1⟩)),
     ("max_steps", .null),
     ("trace_log", .bool false),
     ("output_directory", .string "logs/"),
     ("log_file_prefix", .string "multiplication_"),
     ("batch_size", .int 64),
     ("tape_size", .int 512),
     ("grid_max", .int 12)]

/-- The members of a value that can stand for a sequence: items of a list, elements of a text, names of
an object. -/
def members? : Json → Option (List Json)
  | .list items => some items
  | .string value => some (value.elements.map fun element => .string ⟨[element]⟩)
  | .object fields => some (fields.map fun field => .string field.1)
  | _ => none

/-- Whether a value can be a key. -/
def allowedKey : Json → Bool
  | .list _ => false
  | .object _ => false
  | _ => true

/-- Merge a sequence of pairs, the first of which has the given position. -/
def mergePairs (settings : Settings) (position : Nat) :
    List Json → Except SettingsError Settings
  | [] => .ok settings
  | element :: rest =>
      match members? element with
      | none => .error (.elementNoSequence position)
      | some [key, value] =>
          if allowedKey key then mergePairs (settings.set key value) (position + 1) rest
          else .error (.keyNotAllowed key.kind)
      | some members => .error (.elementNoPair position members.length)

/-- Merge a document over the settings.  An object sets its fields one after the other; a list of
pairs does the same with any scalar as a key. -/
def merge (settings : Settings) (document : Json) : Except SettingsError Settings :=
  match document with
  | .object fields =>
      .ok (fields.foldl (fun merged field => merged.set (.string field.1) field.2) settings)
  | other =>
      match members? other with
      | some elements => mergePairs settings 0 elements
      | none => .error (.overridesHoldNothing other.kind)

/-- The value of a required entry. -/
def require (settings : Settings) (key : String) : Except SettingsError Json :=
  match settings.find? key with
  | some value => .ok value
  | none => .error (.missing key)

/-- A required text. -/
def requireText (settings : Settings) (key : String) : Except SettingsError RawText := do
  match ← settings.require key with
  | .string value => return value
  | value => throw (.wrongKind key [.string] value.kind)

/-- A required truth value. -/
def requireBool (settings : Settings) (key : String) : Except SettingsError Bool := do
  match ← settings.require key with
  | .bool value => return value
  | value => throw (.wrongKind key [.bool] value.kind)

/-- A required integer; a truth value is none. -/
def requireInt (settings : Settings) (key : String) : Except SettingsError Int := do
  match ← settings.require key with
  | .int value => return value
  | value => throw (.wrongKind key [.int] value.kind)

/-- A required number. -/
def requireDuration (settings : Settings) (key : String) : Except SettingsError Duration := do
  match ← settings.require key with
  | .int value => return .whole value
  | .float value => return .fractional value
  | value => throw (.wrongKind key [.int, .float] value.kind)

/-- A required integer or null. -/
def requireLimit (settings : Settings) (key : String) : Except SettingsError (Option Int) := do
  match ← settings.require key with
  | .int value => return some value
  | .null => return none
  | value => throw (.wrongKind key [.int, .null] value.kind)

/-- Refuse a size that is not positive. -/
def requirePositive (key : String) (value : Int) : Except SettingsError Unit :=
  if value ≤ 0 then .error (.notPositive key) else .ok ()

/-- The preferences that the settings give.  Presence and kind are checked entry by entry, then the
ranges. -/
def preferences (settings : Settings) : Except SettingsError Preferences := do
  let programPath ← settings.requireText "program_path"
  let showSteps ← settings.requireBool "show_steps"
  let stepDelay ← settings.requireDuration "step_delay"
  let maxSteps ← settings.requireLimit "max_steps"
  let traceLog ← settings.requireBool "trace_log"
  let outputDirectory ← settings.requireText "output_directory"
  let logFileStem ← settings.requireText "log_file_prefix"
  let batchSize ← settings.requireInt "batch_size"
  let tapeSize ← settings.requireInt "tape_size"
  let gridMax ← settings.requireInt "grid_max"
  if stepDelay.isNegative then throw .negativeDelay
  match maxSteps with
  | some limit => if limit ≤ 0 then throw .limitNotPositive
  | none => pure ()
  requirePositive "batch_size" batchSize
  requirePositive "tape_size" tapeSize
  requirePositive "grid_max" gridMax
  return { programPath, showSteps, stepDelay, maxSteps, traceLog, outputDirectory, logFileStem,
           batchSize, tapeSize, gridMax }

/-- Whether a text occurs in another. -/
def occursIn (part : List RawChar) : List RawChar → Bool
  | [] => part.isEmpty
  | element :: rest => part.isPrefixOf (element :: rest) || occursIn part rest

/-- The settings that a document holds as it stands, without defaults.  What is no object fails at
the first key that is looked for. -/
def ofDocument (document : Json) : Except SettingsError Settings :=
  let key := "program_path"
  match document with
  | .object fields => .ok (ofFields fields)
  | .string value =>
      .error (if occursIn (RawText.ofString key).elements value.elements then .textHasNoNames
        else .missing key)
  | .list items =>
      .error (if items.any fun item => item.same (.string key) then .listHasNoNames
        else .missing key)
  | other => .error (.holdsNoEntries other.kind)

/-- A key as a field name. -/
def keyText : Json → RawText
  | .string value => value
  | key => Json.write key

/-- The document of the settings. -/
def toDocument (settings : Settings) : Json :=
  .object (settings.entries.map fun entry => (keyText entry.1, entry.2))

/-- The lines that report the settings. -/
def reportLines (settings : Settings) : List String :=
  settings.entries.map fun entry => "  " ++ entry.1.display ++ ": " ++ entry.2.display

end Settings

end TapeMultiplier
