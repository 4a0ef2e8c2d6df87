/-
Module: TapeMultiplier.Json.Writer
Layer: Data
Purpose: Writing JSON texts, on one line or indented, writing indented documents piece by piece as far as
  they can be written, and showing values in reports.
Main exports: Json.write, Json.writeIndented, Json.writable, Json.emit, Json.dump, Json.display
-/
import TapeMultiplier.Json
import TapeMultiplier.Decimal.Layout
import TapeMultiplier.Text.Quoted

namespace TapeMultiplier

namespace Json

/-- Numbers in documents: the fewest digits that identify the float, positionally from 10^-4 up to
10^16, otherwise with a signed exponent of at least two digits. -/
def documentLayout : Layout where
  plainFrom := -4
  plainBelow := 16
  exponentWidth := 2
  undefined := "NaN"
  infinite := "Infinity"

/-- Numbers in reports differ from those in documents by the words for what is not finite. -/
def reportLayout : Layout :=
  { documentLayout with undefined := "nan", infinite := "inf" }

/-- The escape of a 16-bit unit. -/
def escapeUnit (unit : Nat) : List Char :=
  '\x5c' :: 'u' :: Text.hexDigits 4 unit

/-- A character inside a string.  What is written is printable ASCII: all else becomes one or two 16-bit
units. -/
def escapeChar (c : Char) : List Char :=
  if c = '\x22' ∨ c = '\x5c' then ['\x5c', c]
  else if c = '\n' then ['\x5c', 'n']
  else if c = '\r' then ['\x5c', 'r']
  else if c = '\t' then ['\x5c', 't']
  else if c = '\x08' then ['\x5c', 'b']
  else if c = '\x0c' then ['\x5c', 'f']
  else if 0x20 ≤ c.toNat ∧ c.toNat < 0x7F then [c]
  else if c.toNat < 0x10000 then escapeUnit c.toNat
  else
    escapeUnit (0xD800 + (c.toNat - 0x10000) / 0x400) ++
      escapeUnit (0xDC00 + (c.toNat - 0x10000) % 0x400)

/-- An element of a string: a half that stands alone is written as its unit. -/
def escapeElement : RawChar → List Char
  | .char c => escapeChar c
  | .half distance => escapeUnit (RawChar.unitOf distance)

/-- A string in quotes. -/
def writeString (text : RawText) : List Char :=
  '\x22' :: text.elements.flatMap escapeElement ++ ['\x22']

/-- The line break in front of an item at a depth; nothing in a text on one line. -/
def lineBreak : Option Nat → Nat → List Char
  | none, _ => []
  | some width, depth => '\n' :: List.replicate (width * depth) ' '

/-- What stands between two items. -/
def separator : Option Nat → Nat → List Char
  | none, _ => [',', ' ']
  | some width, depth => ',' :: lineBreak (some width) depth

mutual

/-- The text of a value at a depth. -/
def render (indent : Option Nat) (depth : Nat) : Json → List Char
  | null => ['n', 'u', 'l', 'l']
  | bool true => ['t', 'r', 'u', 'e']
  | bool false => ['f', 'a', 'l', 's', 'e']
  | int value => (Text.decimalInt value).toList
  | float value => (documentLayout.render value).toList
  | string value => writeString value
  | list [] => ['[', ']']
  | list (item :: items) =>
      '[' :: lineBreak indent (depth + 1) ++ render indent (depth + 1) item ++
        renderItems indent (depth + 1) items ++ lineBreak indent depth ++ [']']
  | object [] => ['\x7b', '\x7d']
  | object ((name, value) :: fields) =>
      '\x7b' :: lineBreak indent (depth + 1) ++ writeString name ++ ':' :: ' ' ::
        render indent (depth + 1) value ++ renderFields indent (depth + 1) fields ++
        lineBreak indent depth ++ ['\x7d']

/-- The items of a list after the first. -/
def renderItems (indent : Option Nat) (depth : Nat) : List Json → List Char
  | [] => []
  | item :: items =>
      separator indent depth ++ render indent depth item ++ renderItems indent depth items

/-- The fields of an object after the first. -/
def renderFields (indent : Option Nat) (depth : Nat) : List (RawText × Json) → List Char
  | [] => []
  | (name, value) :: fields =>
      separator indent depth ++ writeString name ++ ':' :: ' ' :: render indent depth value ++
        renderFields indent depth fields

end

mutual

/-- Whether a value has a text: its integers have few enough digits. -/
def writable : Json → Bool
  | int value => Text.hasDecimal value
  | list items => writableItems items
  | object fields => writableFields fields
  | _ => true

/-- Whether all items have a text. -/
def writableItems : List Json → Bool
  | [] => true
  | item :: items => writable item && writableItems items

/-- Whether the values of all fields have a text. -/
def writableFields : List (RawText × Json) → Bool
  | [] => true
  | (_, value) :: fields => writable value && writableFields fields

end

/-- The document of a value on one line. -/
def write (value : Json) : String :=
  String.ofList (render none 0 value)

/-- The document of a value with four spaces for each depth. -/
def writeIndented (value : Json) : String :=
  String.ofList (render (some 4) 0 value)

/-!
### Writing piece by piece

An indented document is written as it is gone through.  Where that cannot be done to the end, what was written
before stays: an integer has too many digits, or there is no room left for a value inside others.  A
container takes room only if something is in it, and a float needs some for itself.
-/

/-- Why a document is not written to its end. -/
inductive WriteFault where
  /-- An integer has too many digits. -/
  | digits
  /-- A container lies too deep inside others. -/
  | containerTooDeep
  /-- A float lies too deep inside containers. -/
  | floatTooDeep
deriving Repr, DecidableEq

/-- Writing piece by piece.  The pieces written so far, the last one first, stay if it fails. -/
abbrev Writing := EStateM WriteFault (List (List Char))

/-- Write a piece. -/
def put (piece : List Char) : Writing Unit :=
  modify (piece :: ·)

mutual

/-- Write a value at a depth behind what leads to it.  What leads to a container is written before there
is a question of room; what leads to a number is written with it or not at all. -/
def emit (depth room : Nat) (lead : List Char) : Json → Writing Unit
  | int value =>
      if Text.hasDecimal value then put (lead ++ (Text.decimalInt value).toList) else throw .digits
  | float value =>
      if room = 0 then throw .floatTooDeep else put (lead ++ (documentLayout.render value).toList)
  | list (item :: items) => do
      put lead
      match room with
      | 0 => throw .containerTooDeep
      | room + 1 =>
          emit (depth + 1) room ('[' :: lineBreak (some 4) (depth + 1)) item
          emitItems (depth + 1) room items
          put (lineBreak (some 4) depth ++ [']'])
  | object ((name, value) :: fields) => do
      put lead
      match room with
      | 0 => throw .containerTooDeep
      | room + 1 =>
          put ('\x7b' :: lineBreak (some 4) (depth + 1) ++ writeString name ++ [':', ' '])
          emit (depth + 1) room [] value
          emitFields (depth + 1) room fields
          put (lineBreak (some 4) depth ++ ['\x7d'])
  | value => put (lead ++ render (some 4) depth value)

/-- Write the items of a list after the first. -/
def emitItems (depth room : Nat) : List Json → Writing Unit
  | [] => pure ()
  | item :: items => do
      emit depth room (separator (some 4) depth) item
      emitItems depth room items

/-- Write the fields of an object after the first. -/
def emitFields (depth room : Nat) : List (RawText × Json) → Writing Unit
  | [] => pure ()
  | (name, value) :: fields => do
      put (separator (some 4) depth ++ writeString name ++ [':', ' '])
      emit depth room [] value
      emitFields depth room fields

end

/-- The text of pieces, the last one first. -/
def textOf (pieces : List (List Char)) : List Char :=
  pieces.reverse.flatten

/-- What is written of a document with four spaces for each depth, and whether it is written to its end. -/
def dump (room : Nat) (value : Json) : String × Except WriteFault Unit :=
  match emit 0 room [] value [] with
  | .ok () pieces => (String.ofList (textOf pieces), .ok ())
  | .error fault pieces => (String.ofList (textOf pieces), .error fault)

/-- The room for writing where there is so much for reading: writing goes two containers deeper. -/
def writingRoom (reading : Nat) : Nat :=
  reading + 2

mutual

/-- A value inside a list or an object of a report. -/
def displayInner : Json → String
  | null => "None"
  | bool true => "True"
  | bool false => "False"
  | int value => Text.decimalInt value
  | float value => reportLayout.render value
  | string value => value.quoted
  | list items => "[" ++ displayItems items ++ "]"
  | object fields => "\x7b" ++ displayFields fields ++ "\x7d"

/-- Items with commas between them. -/
def displayItems : List Json → String
  | [] => ""
  | [item] => displayInner item
  | item :: items => displayInner item ++ ", " ++ displayItems items

/-- Fields with commas between them. -/
def displayFields : List (RawText × Json) → String
  | [] => ""
  | [(name, value)] => name.quoted ++ ": " ++ displayInner value
  | (name, value) :: fields =>
      name.quoted ++ ": " ++ displayInner value ++ ", " ++ displayFields fields

end

/-- A value in a report: texts are shown as they are, unless they stand inside another value. -/
def display : Json → String
  | string value => value.shown
  | value => displayInner value

end Json

end TapeMultiplier
