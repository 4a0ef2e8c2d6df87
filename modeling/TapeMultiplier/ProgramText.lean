/-
Module: TapeMultiplier.ProgramText
Layer: Model
Purpose: Program texts.  A program is written as one header character followed by transitions, each
  ended by `11`; a transition is five runs separated by `1`, and only the length of a run counts.
Main exports: ProgramText.chunks, ProgramText.decodeChunk, ProgramText.decode, ProgramText.encode,
  DecodeError, StateNameError, stateNumber
-/
import TapeMultiplier.Table
import TapeMultiplier.Text.Integer

namespace TapeMultiplier

/-!
The transition separator is made of two field separators, so the cut is greedy: the text is scanned
from left to right and every `11` met on the way ends a chunk.  Line breaks are layout, but they are
removed only after the cut; a break between the two marks of a separator hides that separator.
-/

/-- The field of a transition that a decoding error is about. -/
inductive FieldName where
  | source
  | read
  | target
  | write
deriving Repr, Inhabited, DecidableEq

/-- The field's name in messages. -/
def FieldName.text : FieldName → String
  | source => "from-state"
  | read => "read"
  | target => "to-state"
  | write => "write"

/-- What is wrong with one chunk. -/
inductive ChunkFault where
  | fieldCount (count : Nat) (chunk : String)
  | emptyState (field : FieldName)
  | noSymbol (field : FieldName) (length : Nat)
deriving Repr, DecidableEq

/-- The first fault of a program text, with the number of its chunk counted from 1. -/
structure DecodeError where
  index : Int
  fault : ChunkFault
deriving Repr, DecidableEq

/-- The wording of the error. -/
def DecodeError.message (error : DecodeError) : String :=
  let head := "Transition " ++ Text.decimalInt error.index ++ ": "
  head ++
    match error.fault with
    | .fieldCount count chunk =>
        "expected 5 fields, got " ++ Text.decimal count ++ " in " ++ Text.quoted chunk
    | .emptyState field => "empty " ++ field.text ++ " field"
    | .noSymbol field length =>
        field.text ++ " run length " ++ Text.decimal length ++ " maps to no symbol"

/-- Why a state name has no number. -/
inductive StateNameError where
  | shape (name : String)
  | number (error : Text.IntegerError)
deriving Repr, DecidableEq

/-- The wording of the error. -/
def StateNameError.message : StateNameError → String
  | shape name =>
      "State names must look like q<number>, got " ++ Text.quoted name
  | number error => error.message

/-- The number of a state name: `q` followed by digits. -/
def stateNumber (name : String) : Except StateNameError Nat :=
  match name.toList with
  | 'q' :: digits =>
      if digits.isEmpty || !digits.all Text.isDigitLike then .error (.shape name)
      else
        match Text.readInteger (String.ofList digits) with
        | .ok value => .ok value.toNat
        | .error error => .error (.number error)
  | _ => .error (.shape name)

/-- The state name with a given number. -/
def stateName (number : Nat) : String :=
  "q" ++ Text.decimal number

namespace ProgramText

/-- Put a character in front of the first piece. -/
def consFirst (c : Char) : List (List Char) → List (List Char)
  | [] => [[c]]
  | piece :: pieces => (c :: piece) :: pieces

/-- Cut a text at every `11`, from left to right without overlap. -/
def cutPairs : List Char → List (List Char)
  | '1' :: '1' :: rest => [] :: cutPairs rest
  | c :: rest => consFirst c (cutPairs rest)
  | [] => [[]]

/-- Cut a chunk at every `1`. -/
def cutFields : List Char → List (List Char)
  | '1' :: rest => [] :: cutFields rest
  | c :: rest => consFirst c (cutFields rest)
  | [] => [[]]

/-- A character that only lays the text out. -/
def isLineBreak (c : Char) : Bool :=
  c == '\n' || c == '\r'

/-- The chunks of a program text: the header character is dropped, what follows the last separator
is dropped, and line breaks are removed from the rest. -/
def chunks (text : List Char) : List (List Char) :=
  (cutPairs (text.drop 1)).dropLast.map fun piece => piece.filter fun c => !isLineBreak c

/-- A run that stands for a state: its length is the state's number plus one. -/
def decodeState (field : FieldName) (run : List Char) : Except ChunkFault String :=
  match run.length with
  | 0 => .error (.emptyState field)
  | number + 1 => .ok (stateName number)

/-- A run that stands for a letter. -/
def decodeSymbol (field : FieldName) (run : List Char) : Except ChunkFault Symbol :=
  match Symbol.ofCode? run.length with
  | some symbol => .ok symbol
  | none => .error (.noSymbol field run.length)

/-- The transition of a chunk, or its first fault: the number of fields is checked first, then the
fields from left to right. -/
def decodeChunk (chunk : List Char) : Except ChunkFault Transition :=
  match cutFields chunk with
  | [source, read, target, write, move] => do
      let source ← decodeState .source source
      let read ← decodeSymbol .read read
      let target ← decodeState .target target
      let write ← decodeSymbol .write write
      return { source, read, target, write, move := Direction.ofCode move.length }
  | fields => .error (.fieldCount fields.length (String.ofList chunk))

/-- The transition of the chunk with a given number. -/
def decodeNumbered (index : Int) (chunk : List Char) : Except DecodeError Transition :=
  match decodeChunk chunk with
  | .ok transition => .ok transition
  | .error fault => .error ⟨index, fault⟩

/-- The transitions of chunks numbered from `index` on, or the first error. -/
def decodeFrom (index : Int) : List (List Char) → Except DecodeError (List Transition)
  | [] => .ok []
  | chunk :: rest => do
      let transition ← decodeNumbered index chunk
      let transitions ← decodeFrom (index + 1) rest
      return transition :: transitions

/-- The table of a program text. -/
def decode (text : List Char) : Except DecodeError Table := do
  return ⟨← decodeFrom 1 (chunks text)⟩

/-- A run of a given length. -/
def run (length : Nat) : List Char :=
  List.replicate length Symbol.number.char

/-- A transition as five runs separated by single marks. -/
def encodeTransition (t : Transition) : Except StateNameError (List Char) := do
  let source ← stateNumber t.source
  let target ← stateNumber t.target
  return run (source + 1) ++ '1' :: run t.read.code ++ '1' :: run (target + 1) ++
    '1' :: run t.write.code ++ '1' :: run t.move.code

/-- A program text: the header line, then one line for each transition. -/
def encode (transitions : List Transition) : Except StateNameError (List Char) := do
  let lines ← transitions.mapM fun t => do return (← encodeTransition t) ++ ['1', '1']
  return '1' :: '\n' :: ['\n'].intercalate lines ++ ['\n']

end ProgramText

end TapeMultiplier
