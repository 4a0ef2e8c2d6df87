/-
Module: TapeMultiplier.Operands
Layer: Model
Purpose: Multiplication tasks: reading `a x b`, the conditions on the factors, the tape on which a
  machine starts, the key under which a pair of factors is filed, and reading the product off the tape
  on which the machine ends.
Main exports: OperandError, parseOperands, checkOperands, multiplicationTape, pairKey, operandGrid,
  extractProduct, hasDoubleBlank, lastBlock
-/
import TapeMultiplier.Symbol
import TapeMultiplier.Text.Integer

namespace TapeMultiplier

/-- Why a text or a pair of numbers is no multiplication task. -/
inductive OperandError where
  | form
  | wholeNumbers
  | positive
deriving Repr, Inhabited, DecidableEq

namespace OperandError

/-- The wording of the error. -/
def message : OperandError → String
  | form => "Please enter a multiplication in the form 'a x b'."
  | wholeNumbers => "Please enter whole numbers only."
  | positive => "Both factors must be positive."

end OperandError

/-- The multiplication sign, in either case. -/
def isTimes (c : Char) : Bool :=
  c == 'x' || c == 'X'

/-- The parts of a text between multiplication signs. -/
def factorTexts : List Char → List (List Char)
  | [] => [[]]
  | c :: rest =>
      if isTimes c then [] :: factorTexts rest
      else
        match factorTexts rest with
        | [] => [[c]]
        | part :: parts => (c :: part) :: parts

/-- Both factors must be positive. -/
def checkOperands (a b : Int) : Except OperandError Unit :=
  if a ≤ 0 ∨ b ≤ 0 then .error .positive else .ok ()

/-- A factor written as an integer literal. -/
def readFactor (text : List Char) : Except OperandError Int :=
  match Text.readInteger (String.ofList (Text.trim text)) with
  | .ok value => .ok value
  | .error _ => .error .wholeNumbers

/-- Read `a x b` with two positive factors.  The number of signs is checked first, then that both
sides are integer literals, then that both are positive. -/
def parseOperands (text : String) : Except OperandError (Int × Int) :=
  match factorTexts text.toList with
  | [left, right] => do
      let a ← readFactor left
      let b ← readFactor right
      checkOperands a b
      return (a, b)
  | _ => .error .form

/-- The starting tape: blank, `a` zeros, the calculation mark, `b` zeros, blank.  A negative count
gives no zeros. -/
def multiplicationTape (a b : Int) : List Char :=
  Symbol.blank.char :: List.replicate a.toNat Symbol.number.char ++
    Symbol.calculation.char :: List.replicate b.toNat Symbol.number.char ++ [Symbol.blank.char]

/-- The key under which the pair is filed. -/
def pairKey (a b : Int) : String :=
  Text.decimalInt a ++ "x" ++ Text.decimalInt b

/-- All pairs of factors from 1 to `largest`, row by row; none if `largest` is not positive. -/
def operandGrid (largest : Int) : List (Int × Int) :=
  let factors := (List.range largest.toNat).map fun (i : Nat) => (i : Int) + 1
  factors.flatMap fun a => factors.map fun b => (a, b)

/-!
### The product

Two definitions stand side by side.  `extractProduct` is what runs: a substring test, a cut at blanks
and the length of the last piece that is not dropped as trailing.  `lastBlock` is the reference: the
last maximal run of cells that are not blank, found by one pass over the tape.
-/

/-- Whether a cell is blank. -/
def isBlankCell (c : Char) : Bool :=
  c == Symbol.blank.char

/-- Whether two blanks stand side by side somewhere on the tape. -/
def hasDoubleBlank : List Char → Bool
  | c :: d :: rest => (isBlankCell c && isBlankCell d) || hasDoubleBlank (d :: rest)
  | _ => false

/-- The pieces of the tape between blanks. -/
def fragments : List Char → List (List Char)
  | [] => [[]]
  | c :: rest =>
      if isBlankCell c then [] :: fragments rest
      else
        match fragments rest with
        | [] => [[c]]
        | piece :: pieces => (c :: piece) :: pieces

/-- The product on a tape: 0 if the tape holds a double blank, otherwise the length of the last
piece between blanks, where blanks at the very end open no further piece. -/
def extractProduct (tape : List Char) : Nat :=
  if hasDoubleBlank tape then 0
  else
    match (fragments tape).reverse.dropWhile List.isEmpty with
    | [] => 0
    | piece :: _ => piece.length

/-- The last maximal block of cells that are not blank: `current` is the block being read and
`latest` the last one that was closed. -/
def lastBlockFrom (latest current : List Char) : List Char → List Char
  | [] => if current.isEmpty then latest else current
  | c :: rest =>
      if isBlankCell c then
        lastBlockFrom (if current.isEmpty then latest else current) [] rest
      else lastBlockFrom latest (current ++ [c]) rest

/-- The last maximal block of cells that are not blank; empty if there is none. -/
def lastBlock (tape : List Char) : List Char :=
  lastBlockFrom [] [] tape

end TapeMultiplier
