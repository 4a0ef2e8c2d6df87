/-
Module: TapeMultiplier.CommandLine
Layer: Command
Purpose: Reading the options of a command line.
Main exports: OptionKind, OptionSpec, OptionValue, Given, readOptions
-/
import TapeMultiplier.Text.Integer

namespace TapeMultiplier

/-- What an option takes. -/
inductive OptionKind where
  | flag
  | text
  | integer
deriving Repr, DecidableEq

/-- An option of a command. -/
structure OptionSpec where
  name : String
  kind : OptionKind
deriving Repr, DecidableEq

/-- What was given to an option. -/
inductive OptionValue where
  | present
  /-- Nothing, for an option that takes a value. -/
  | blank
  | text (value : String)
  | integer (value : Int)
deriving Repr, DecidableEq

/-- How one word of a command line is understood. -/
inductive Word where
  /-- An option, perhaps with a value behind an equals sign. -/
  | option (spec : OptionSpec) (attached : Option String)
  /-- A value. -/
  | value
  /-- Something that no command accepts. -/
  | refused
deriving Repr, DecidableEq

/-- The part before the first equals sign, and the part behind it. -/
def splitEquals : List Char → List Char × Option (List Char)
  | [] => ([], none)
  | c :: rest =>
      if c = '=' then ([], some rest)
      else
        let (name, attached) := splitEquals rest
        (c :: name, attached)

/-- A text without one line feed at its end. -/
def withoutLineFeed (text : List Char) : List Char :=
  if text.getLast? = some '\n' then text.dropLast else text

/-- Whether a word is a negative number: digits, or a point with digits behind it.  A line feed at the
end does not count. -/
def isNegativeNumber (word : List Char) : Bool :=
  match withoutLineFeed word with
  | '-' :: body =>
      (!body.isEmpty && body.all Text.isDecimal) ||
        (match body.dropWhile Text.isDecimal with
          | '.' :: digits => !digits.isEmpty && digits.all Text.isDecimal
          | _ => false)
  | _ => false

/-- The name that every command knows beside its own options; it is counted where names are cut
short, and refused itself. -/
def helpName : String := "--help"

/-- The options that a name cut short may stand for; nothing stands for a help option. -/
def abbreviated (specs : List OptionSpec) (name : List Char) : List (Option OptionSpec) :=
  (if name.isPrefixOf helpName.toList then [none] else []) ++
    (specs.filter fun spec => name.isPrefixOf spec.name.toList).map some

/-- Understand a word that starts with a dash and has `second` next.  A name may be cut short as long
as only one option starts with it; what starts no name is a value only if it is a negative number or
holds a space. -/
def classifyDashed (specs : List OptionSpec) (word : List Char) (second : Char) : Word :=
  let (name, attached) := splitEquals word
  let attached := attached.map String.ofList
  match specs.find? fun spec => spec.name.toList == word with
  | some spec => .option spec none
  | none =>
      match specs.find? fun spec => attached.isSome && spec.name.toList == name with
      | some spec => .option spec attached
      | none =>
          match if second = '-' then abbreviated specs name else [] with
          | [some spec] => .option spec attached
          | _ :: _ => .refused
          | [] =>
              if second = 'h' then .refused
              else if isNegativeNumber word || word.contains ' ' then .value
              else .refused

/-- Understand a word. -/
def classify (specs : List OptionSpec) (word : String) : Word :=
  match word.toList with
  | ['-', '-'] => .refused
  | '-' :: second :: _ => classifyDashed specs word.toList second
  | _ => .value

/-- The value of a word for an option that takes one. -/
def valueFor (kind : OptionKind) (word : String) : Option OptionValue :=
  match kind with
  | .flag => none
  | .text => some (.text word)
  | .integer =>
      match Text.readInteger word with
      | .ok value => some (.integer value)
      | .error _ => none

/-- The value of a text behind an equals sign: two dashes stand for none. -/
def attachedValue (kind : OptionKind) (text : String) : Option OptionValue :=
  if text == "--" then some .blank else valueFor kind text

/-- The options of a command line in order, or nothing if it is not understood. -/
def readOptions (specs : List OptionSpec) : List String → Option (List (String × OptionValue))
  | [] => some []
  | word :: rest =>
      match classify specs word with
      | .option spec attached =>
          match spec.kind, attached with
          | .flag, none => do
              let options ← readOptions specs rest
              return (spec.name, .present) :: options
          | .flag, some _ => none
          | kind, some text => do
              let value ← attachedValue kind text
              let options ← readOptions specs rest
              return (spec.name, value) :: options
          | kind, none =>
              match rest with
              | [] => none
              | next :: rest =>
                  if classify specs next = .value then do
                    let value ← valueFor kind next
                    let options ← readOptions specs rest
                    return (spec.name, value) :: options
                  else none
      | _ => none

/-- The last value given to an option. -/
def lastValue (options : List (String × OptionValue)) (name : String) : Option OptionValue :=
  (options.reverse.find? fun option => option.1 == name).map (·.2)

/-- Whether a flag was given. -/
def hasFlag (options : List (String × OptionValue)) (name : String) : Bool :=
  (lastValue options name).isSome

/-- What a command line says about an option that takes a value. -/
inductive Given (α : Type) where
  /-- The option is not there. -/
  | absent
  /-- The option is there without a value. -/
  | blank
  /-- The option has a value. -/
  | value (value : α)
deriving Repr, DecidableEq

namespace Given

variable {α β : Type}

/-- What is said, with the value taken for another. -/
def map (f : α → β) : Given α → Given β
  | absent => absent
  | blank => blank
  | value given => value (f given)

/-- The value, if there is one. -/
def value? : Given α → Option α
  | absent => none
  | blank => none
  | value given => some given

/-- The value, where an option that is not there has a standard value. -/
def orStandard (standard : α) : Given α → Option α
  | absent => some standard
  | blank => none
  | value given => some given

end Given

/-- What is said last about an option that takes a text. -/
def lastText (options : List (String × OptionValue)) (name : String) : Given String :=
  match lastValue options name with
  | some (.text value) => .value value
  | some _ => .blank
  | none => .absent

/-- What is said last about an option that takes an integer. -/
def lastInteger (options : List (String × OptionValue)) (name : String) : Given Int :=
  match lastValue options name with
  | some (.integer value) => .value value
  | some _ => .blank
  | none => .absent

end TapeMultiplier
