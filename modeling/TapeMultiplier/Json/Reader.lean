/-
Module: TapeMultiplier.Json.Reader
Layer: Data
Purpose: Reading JSON texts.  Beside the standard grammar the words `NaN`, `Infinity` and `-Infinity`
  are accepted; a repeated name in an object keeps its first place and takes the last value.
Main exports: Json.ReadError, Json.readWithin, Json.read
-/
import TapeMultiplier.Json
import TapeMultiplier.Text.Integer

namespace TapeMultiplier

namespace Json

/-- Where a text goes wrong, counted in characters. -/
structure Position where
  offset : Nat
  line : Nat
  column : Nat
deriving Repr, DecidableEq

/-- What is wrong at some place of a text. -/
inductive Complaint where
  | expectedValue
  | expectedName
  | expectedColon
  | expectedComma
  | unterminatedString
  | controlCharacter
  | unknownEscape
  | unitEscape
  | extraData
  | byteOrderMark
deriving Repr, DecidableEq

/-- The wording of the complaint. -/
def Complaint.text : Complaint → String
  | expectedValue => "Expecting value"
  | expectedName => "Expecting property name enclosed in double quotes"
  | expectedColon => "Expecting ':' delimiter"
  | expectedComma => "Expecting ',' delimiter"
  | unterminatedString => "Unterminated string starting at"
  | controlCharacter => "Invalid control character at"
  | unknownEscape => "Invalid \x5cescape"
  | unitEscape => "Invalid \x5cuXXXX escape"
  | extraData => "Extra data"
  | byteOrderMark => "Unexpected UTF-8 BOM (decode using utf-8-sig)"

/-- A value that holds others. -/
inductive Container where
  | list
  | object
deriving Repr, DecidableEq

/-- The container's name in messages. -/
def Container.text : Container → String
  | list => "array"
  | object => "object"

/-- Why a text is no JSON document. -/
inductive ReadError where
  /-- The grammar is broken. -/
  | grammar (complaint : Complaint) (position : Position)
  /-- An integer is too long. -/
  | integer (error : Text.IntegerError)
  /-- A container lies too deep inside others. -/
  | tooDeep (container : Container)
deriving Repr, DecidableEq

/-- The wording of the error. -/
def ReadError.message : ReadError → String
  | grammar complaint position =>
      complaint.text ++ ": line " ++ Text.decimal position.line ++ " column " ++
        Text.decimal position.column ++ " (char " ++ Text.decimal position.offset ++ ")"
  | integer error => error.message
  | tooDeep container =>
      "maximum recursion depth exceeded while decoding a JSON " ++ container.text ++
        " from a unicode string"

/-- A fault met while reading; the place is given by the number of characters that are left there. -/
inductive ReadFault where
  | grammar (complaint : Complaint) (left : Nat)
  | integer (error : Text.IntegerError)
  | tooDeep (container : Container)
deriving Repr, DecidableEq

/-- White space between tokens. -/
def isGap (c : Char) : Bool :=
  c == ' ' || c == '\t' || c == '\n' || c == '\r'

/-- Drop white space. -/
def skipGap (text : List Char) : List Char :=
  text.dropWhile isGap

/-- The value of a hexadecimal digit. -/
def hexValue? (c : Char) : Option Nat :=
  if '0' ≤ c ∧ c ≤ '9' then some (c.toNat - 48)
  else if 'a' ≤ c ∧ c ≤ 'f' then some (c.toNat - 87)
  else if 'A' ≤ c ∧ c ≤ 'F' then some (c.toNat - 55)
  else none

/-- Four hexadecimal digits with more text behind them. -/
def readUnit? (text : List Char) : Option (Nat × List Char) :=
  match text with
  | a :: b :: c :: d :: next :: rest => do
      let a ← hexValue? a
      let b ← hexValue? b
      let c ← hexValue? c
      let d ← hexValue? d
      return (((a * 16 + b) * 16 + c) * 16 + d, next :: rest)
  | _ => none

/-- The second half of a pair of 16-bit units, if one follows. -/
def readLowUnit? (text : List Char) : Option (Nat × List Char) :=
  match text with
  | '\x5c' :: 'u' :: rest => do
      let (unit, rest) ← readUnit? rest
      if 0xDC00 ≤ unit ∧ unit ≤ 0xDFFF then some (unit, rest) else none
  | _ => none

/-- What a unit, or a pair of units, stands for: a half is kept where its other half is missing. -/
def readUnits? (text : List Char) : Option (RawChar × List Char) := do
  let (unit, rest) ← readUnit? text
  if 0xD800 ≤ unit ∧ unit ≤ 0xDBFF then
    match readLowUnit? rest with
    | some (low, rest) =>
        return (.char (Char.ofNat (0x10000 + (unit - 0xD800) * 0x400 + (low - 0xDC00))), rest)
    | none => return (.ofUnit unit, rest)
  else return (.ofUnit unit, rest)

/-- What a backslash and one more character stand for. -/
def shortEscape? (c : Char) : Option Char :=
  if c = '\x22' ∨ c = '\x5c' ∨ c = '/' then some c
  else if c = 'b' then some '\x08'
  else if c = 'f' then some '\x0c'
  else if c = 'n' then some '\n'
  else if c = 'r' then some '\r'
  else if c = 't' then some '\t'
  else none

/-- What a backslash and the characters after it stand for. -/
def readEscape (text : List Char) : Except ReadFault (RawChar × List Char) :=
  match text with
  | [] => .error (.grammar .unterminatedString 0)
  | c :: rest =>
      if c = 'u' then
        match readUnits? rest with
        | some found => .ok found
        | none => .error (.grammar .unitEscape text.length)
      else
        match shortEscape? c with
        | some escaped => .ok (.char escaped, rest)
        | none => .error (.grammar .unknownEscape (text.length + 1))

/-- The elements of a string up to its closing quote; `read` holds those before, last first. -/
def readCharacters (read : List RawChar) :
    Nat → List Char → Except ReadFault (List RawChar × List Char)
  | 0, _ => .error (.grammar .unterminatedString 0)
  | fuel + 1, text =>
      match text with
      | [] => .error (.grammar .unterminatedString 0)
      | c :: rest =>
          if c = '\x22' then .ok (read.reverse, rest)
          else if c = '\x5c' then
            match readEscape rest with
            | .ok (escaped, rest) => readCharacters (escaped :: read) fuel rest
            | .error fault => .error fault
          else if c.toNat < 0x20 then .error (.grammar .controlCharacter text.length)
          else readCharacters (.char c :: read) fuel rest

/-- A string behind its opening quote, up to the closing one.  A string without a closing quote is
blamed on the opening one. -/
def readString (fuel : Nat) (text : List Char) : Except ReadFault (RawText × List Char) :=
  match readCharacters [] fuel text with
  | .ok (elements, rest) => .ok (⟨elements⟩, rest)
  | .error (.grammar .unterminatedString _) =>
      .error (.grammar .unterminatedString (text.length + 1))
  | .error fault => .error fault

/-- A decimal digit of a numeral. -/
def isNumeral (c : Char) : Bool :=
  '0' ≤ c && c ≤ '9'

/-- The value of a decimal digit. -/
def numeralValue (c : Char) : Nat :=
  c.toNat - 48

/-- The digits at the start of a text, and the rest. -/
def spanDigits (text : List Char) : List Nat × List Char :=
  ((text.takeWhile isNumeral).map numeralValue, text.dropWhile isNumeral)

/-- The digits of a fraction part; none if there is no such part. -/
def readFraction (text : List Char) : List Nat × List Char :=
  match text with
  | '.' :: rest =>
      match spanDigits rest with
      | ([], _) => ([], text)
      | (digits, rest) => (digits, rest)
  | _ => ([], text)

/-- The exponent part, if there is one. -/
def readExponent (text : List Char) : Option Int × List Char :=
  match text with
  | mark :: rest =>
      if mark = 'e' ∨ mark = 'E' then
        let (negative, numeral) := Text.splitSign rest
        match spanDigits numeral with
        | ([], _) => (none, text)
        | (digits, rest) =>
            let value : Int := Text.ofDigits digits
            (some (if negative then -value else value), rest)
      else (none, text)
  | [] => (none, text)

/-- The whole part of a number: a single zero, or digits that do not start with zero. -/
def readWhole (text : List Char) : List Nat × List Char :=
  match text with
  | '0' :: rest => ([0], rest)
  | _ => spanDigits text

/-- A number whose sign was read.  It is an integer unless it has a fraction or an exponent. -/
def readUnsigned (negative : Bool) (text : List Char) :
    Except ReadFault (Json × List Char) :=
  match readWhole text with
  | ([], _) => .error (.grammar .expectedValue text.length)
  | (whole, rest) =>
      let (fraction, rest) := readFraction rest
      let (exponent, rest) := readExponent rest
      if fraction.isEmpty && exponent.isNone then
        if Text.digitLimit < whole.length then .error (.integer (.tooLong whole.length))
        else
          let value : Int := Text.ofDigits whole
          .ok (.int (if negative then -value else value), rest)
      else
        let digits := Text.ofDigits (whole ++ fraction)
        let power := exponent.getD 0 - fraction.length
        .ok (.float (Decimal.toFloat negative ⟨digits, power⟩), rest)

/-- The rest of a text behind a word it starts with. -/
def afterWord? (word text : List Char) : Option (List Char) :=
  if word.isPrefixOf text then some (text.drop word.length) else none

/-- The words that stand for values. -/
def wordValues : List (String × Json) :=
  [("null", .null), ("true", .bool true), ("false", .bool false),
   ("NaN", .float (Float.ofBits 0x7FF8000000000000)),
   ("Infinity", .float (Float.ofBits 0x7FF0000000000000)),
   ("-Infinity", .float (Float.ofBits 0xFFF0000000000000))]

/-- A value that is a word. -/
def readWord? (text : List Char) : Option (Json × List Char) :=
  wordValues.findSome? fun (word, value) =>
    (afterWord? word.toList text).map fun rest => (value, rest)

/-- A value that is a word or a number. -/
def readScalar (text : List Char) : Except ReadFault (Json × List Char) :=
  match readWord? text with
  | some found => .ok found
  | none =>
      match text with
      | '-' :: rest =>
          match readUnsigned true rest with
          | .error (.grammar _ _) => .error (.grammar .expectedValue text.length)
          | answer => answer
      | _ => readUnsigned false text

mutual

/-- A value at the start of a text, and the rest.  Containers may lie in each other as deep as there
is room. -/
def readValue : Nat → Nat → List Char → Except ReadFault (Json × List Char)
  | 0, _, text => .error (.grammar .expectedValue text.length)
  | fuel + 1, room, text =>
      match text with
      | [] => .error (.grammar .expectedValue 0)
      | c :: rest =>
          if c = '\x22' then
            match readString fuel rest with
            | .ok (value, rest) => .ok (.string value, rest)
            | .error fault => .error fault
          else if c = '[' then
            match room with
            | 0 => .error (.tooDeep .list)
            | room + 1 =>
                match skipGap rest with
                | ']' :: rest => .ok (.list [], rest)
                | rest =>
                    match readItems fuel room rest with
                    | .ok (items, rest) => .ok (.list items, rest)
                    | .error fault => .error fault
          else if c = '\x7b' then
            match room with
            | 0 => .error (.tooDeep .object)
            | room + 1 =>
                match skipGap rest with
                | '\x7d' :: rest => .ok (.object [], rest)
                | rest =>
                    match readFields fuel room rest with
                    | .ok (fields, rest) => .ok (.object (ofFields fields), rest)
                    | .error fault => .error fault
          else readScalar text

/-- The items of a list up to its closing bracket. -/
def readItems : Nat → Nat → List Char → Except ReadFault (List Json × List Char)
  | 0, _, text => .error (.grammar .expectedValue text.length)
  | fuel + 1, room, text =>
      match readValue fuel room text with
      | .error fault => .error fault
      | .ok (item, rest) =>
          match skipGap rest with
          | ']' :: rest => .ok ([item], rest)
          | ',' :: rest =>
              match readItems fuel room (skipGap rest) with
              | .ok (items, rest) => .ok (item :: items, rest)
              | .error fault => .error fault
          | rest => .error (.grammar .expectedComma rest.length)

/-- The fields of an object up to its closing brace, as they stand in the text. -/
def readFields : Nat → Nat → List Char → Except ReadFault (List (RawText × Json) × List Char)
  | 0, _, text => .error (.grammar .expectedName text.length)
  | fuel + 1, room, text =>
      match text with
      | '\x22' :: rest =>
          match readString fuel rest with
          | .error fault => .error fault
          | .ok (name, rest) =>
              match skipGap rest with
              | ':' :: rest =>
                  match readValue fuel room (skipGap rest) with
                  | .error fault => .error fault
                  | .ok (value, rest) =>
                      match skipGap rest with
                      | '\x7d' :: rest => .ok ([(name, value)], rest)
                      | ',' :: rest =>
                          match readFields fuel room (skipGap rest) with
                          | .ok (fields, rest) => .ok ((name, value) :: fields, rest)
                          | .error fault => .error fault
                      | rest => .error (.grammar .expectedComma rest.length)
              | rest => .error (.grammar .expectedColon rest.length)
      | _ => .error (.grammar .expectedName text.length)

end

/-- The position reached when a number of characters is left of a text. -/
def positionOf (text : List Char) (left : Nat) : Position :=
  let passed := text.take (text.length - left)
  { offset := passed.length
    line := passed.count '\n' + 1
    column := (passed.reverse.takeWhile (· != '\n')).length + 1 }

/-- The error of a fault in a text. -/
def ReadFault.inText (text : List Char) : ReadFault → ReadError
  | grammar complaint left => .grammar complaint (positionOf text left)
  | integer error => .integer error
  | tooDeep container => .tooDeep container

/-- Read a text: one value with white space around it, in which containers lie in each other no deeper
than there is room.  A byte-order mark in front is refused. -/
def readWithin (room : Nat) (text : List Char) : Except ReadError Json :=
  if text.head? = some (Char.ofNat 0xFEFF) then
    .error (.grammar .byteOrderMark (positionOf text text.length))
  else
    match readValue (2 * text.length + 1) room (skipGap text) with
    | .error fault => .error (fault.inText text)
    | .ok (value, rest) =>
        match skipGap rest with
        | [] => .ok value
        | rest => .error (.grammar .extraData (positionOf text rest.length))

/-- The depth to which containers may lie in each other in a document that a command reads.  Who reads from
fewer calls inside each other has more room. -/
def nestingLimit : Nat := 990

/-- Read a document. -/
def read (text : List Char) : Except ReadError Json :=
  readWithin nestingLimit text

end Json

end TapeMultiplier
