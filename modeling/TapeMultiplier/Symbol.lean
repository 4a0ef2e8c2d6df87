/-
Module: TapeMultiplier.Symbol
Layer: Model
Purpose: The six-letter tape alphabet and the two head directions, with the three ways the rest of
  the library names a letter: the character on the tape, the run length in a program text, and the
  column in a dense table.
Main exports: Symbol, Symbol.char, Symbol.ofChar?, Symbol.code, Symbol.ofCode?, Symbol.index,
  Symbol.ofIndex?, Direction, Direction.offset, Direction.code, Direction.ofCode
-/

namespace TapeMultiplier

/-!
The alphabet is fixed, but a tape is not confined to it: a machine may be started on any characters
and halts on the first one that no rule reads.  Tape cells are therefore characters, and `Symbol` is
what a *rule* may read or write.
-/

/-- A letter that a transition can read or write. -/
inductive Symbol where
  | number
  | split
  | replacedZero
  | replacedOne
  | blank
  | calculation
deriving Repr, Inhabited, DecidableEq

namespace Symbol

/-- The alphabet in its listing order, which is also the column order of dense tables. -/
def all : List Symbol :=
  [number, split, replacedZero, replacedOne, blank, calculation]

/-- The character that stands for the letter on a tape. -/
def char : Symbol → Char
  | number => '0'
  | split => '1'
  | replacedZero => 'X'
  | replacedOne => 'Y'
  | blank => '_'
  | calculation => 'C'

/-- The letter written with a given character, if there is one. -/
def ofChar? (c : Char) : Option Symbol :=
  all.find? fun symbol => symbol.char == c

/-- The letter written as a one-character text. -/
def ofText? (text : String) : Option Symbol :=
  match text.toList with
  | [c] => ofChar? c
  | _ => none

/-- The run length that stands for the letter in a program text. -/
def code : Symbol → Nat
  | number => 1
  | split => 2
  | blank => 3
  | calculation => 4
  | replacedOne => 5
  | replacedZero => 6

/-- The letter with a given run length; runs of length 0 and above 6 stand for nothing. -/
def ofCode? : Nat → Option Symbol
  | 1 => some number
  | 2 => some split
  | 3 => some blank
  | 4 => some calculation
  | 5 => some replacedOne
  | 6 => some replacedZero
  | _ => none

/-- The column of the letter in a dense table. -/
def index : Symbol → Nat
  | number => 0
  | split => 1
  | replacedZero => 2
  | replacedOne => 3
  | blank => 4
  | calculation => 5

/-- The letter of a given column. -/
def ofIndex? : Nat → Option Symbol
  | 0 => some number
  | 1 => some split
  | 2 => some replacedZero
  | 3 => some replacedOne
  | 4 => some blank
  | 5 => some calculation
  | _ => none

/-- The letter's name in listings. -/
def name : Symbol → String
  | number => "NUMBER"
  | split => "SPLIT"
  | replacedZero => "REPLACE_ZERO"
  | replacedOne => "REPLACE_ONE"
  | blank => "BLANK"
  | calculation => "CALCULATION"

/-- The letter as a one-character text. -/
def text (symbol : Symbol) : String :=
  String.singleton symbol.char

theorem ofChar?_char (symbol : Symbol) : ofChar? symbol.char = some symbol := by
  cases symbol <;> decide

theorem ofCode?_code (symbol : Symbol) : ofCode? symbol.code = some symbol := by
  cases symbol <;> rfl

/-- Distinct letters are written with distinct characters. -/
theorem char_inj {left right : Symbol} : left.char = right.char ↔ left = right := by
  cases left <;> cases right <;> decide

end Symbol

/-- The way the head moves after a write. -/
inductive Direction where
  | left
  | right
deriving Repr, Inhabited, DecidableEq

namespace Direction

/-- Both directions, in listing order. -/
def all : List Direction :=
  [left, right]

/-- The letter of the direction in listings and in tables given as data. -/
def text : Direction → String
  | left => "L"
  | right => "R"

/-- The direction of a given letter. -/
def ofText? : String → Option Direction
  | "L" => some left
  | "R" => some right
  | _ => none

/-- The direction's name in listings. -/
def name : Direction → String
  | left => "LEFT"
  | right => "RIGHT"

/-- The change of the head position. -/
def offset : Direction → Int
  | left => -1
  | right => 1

/-- The run length that stands for the direction in a program text. -/
def code : Direction → Nat
  | left => 1
  | right => 2

/-- The direction of a run length: a single mark means left, anything else means right. -/
def ofCode (count : Int) : Direction :=
  if count = 1 then left else right

/-- The opposite direction. -/
def flip : Direction → Direction
  | left => right
  | right => left

theorem ofCode_code (direction : Direction) : ofCode direction.code = direction := by
  cases direction <;> decide

end Direction

end TapeMultiplier
