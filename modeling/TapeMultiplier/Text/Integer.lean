/-
Module: TapeMultiplier.Text.Integer
Layer: Text
Purpose: Integers as text: the literals that are accepted where a number is typed, the plain decimal
  form, and the form with thousands separated.
Main exports: IntegerError, readInteger, digitLimit, hasDecimal, decimal, grouped
-/
import TapeMultiplier.Text.Characters
import TapeMultiplier.Text.Quoted

namespace TapeMultiplier.Text

/-- Why a text is no integer literal. -/
inductive IntegerError where
  | notLiteral (text : String)
  | tooLong (digits : Nat)
deriving Repr, DecidableEq

/-- The most digits that a literal may have. -/
def digitLimit : Nat := 4300

namespace IntegerError

/-- The wording; a long text is cut after two hundred characters of its quoted form. -/
def message : IntegerError → String
  | notLiteral text =>
      "invalid literal for int() with base 10: " ++ String.ofList ((quoted text).toList.take 200)
  | tooLong digits =>
      s!"Exceeds the limit ({digitLimit} digits) for integer string conversion: " ++
        s!"value has {digits} digits; " ++
        "use sys.set_int_max_str_digits() to increase the limit"

end IntegerError

/-- The digit values of a numeral in which single underscores may stand between digits. -/
def numeralDigits : List Char → Option (List Nat)
  | [] => none
  | [c] => (decimalValue? c).map ([·])
  | c :: '_' :: rest => do
      let digit ← decimalValue? c
      let digits ← numeralDigits rest
      return digit :: digits
  | c :: rest => do
      let digit ← decimalValue? c
      let digits ← numeralDigits rest
      return digit :: digits

/-- The number with given decimal digits, most significant first. -/
def ofDigits (digits : List Nat) : Nat :=
  digits.foldl (fun value digit => 10 * value + digit) 0

/-- A sign and what follows it; no sign counts as positive. -/
def splitSign : List Char → Bool × List Char
  | '-' :: rest => (true, rest)
  | '+' :: rest => (false, rest)
  | rest => (false, rest)

/-- Whether a character can be part of a numeral. -/
def isNumeralPart (c : Char) : Bool :=
  c == '_' || (decimalValue? c).isSome

/-- Read an integer literal: padding around it, an optional sign, decimal digits of any script
with single underscores between them.  The digits are counted before it is asked what follows them, so
a numeral of more than `digitLimit` digits is too long also with other text behind it. -/
def readInteger (text : String) : Except IntegerError Int :=
  let (negative, numeral) := splitSign (trimPadding text.toList)
  match numeralDigits (numeral.takeWhile isNumeralPart) with
  | none => .error (.notLiteral text)
  | some digits =>
      if digitLimit < digits.length then .error (.tooLong digits.length)
      else if numeral.all isNumeralPart then
        let value : Int := ofDigits digits
        .ok (if negative then -value else value)
      else .error (.notLiteral text)

/-- The decimal digits of a natural number. -/
def decimalDigits (value : Nat) : List Char :=
  Nat.toDigits 10 value

/-- Whether an integer has few enough digits for a decimal form to be laid out. -/
def hasDecimal (value : Int) : Bool :=
  (decimalDigits value.natAbs).length ≤ digitLimit

/-- The decimal form of a natural number. -/
def decimal (value : Nat) : String :=
  String.ofList (decimalDigits value)

/-- The decimal form of an integer. -/
def decimalInt : Int → String
  | .ofNat value => decimal value
  | .negSucc value => "-" ++ decimal (value + 1)

/-- Put a comma before every third character, counted from the start of a reversed numeral. -/
def groupThrees : List Char → List Char
  | a :: b :: c :: d :: rest => a :: b :: c :: ',' :: groupThrees (d :: rest)
  | short => short

/-- The decimal form with commas between groups of three digits. -/
def grouped (value : Nat) : String :=
  String.ofList (groupThrees (decimalDigits value).reverse).reverse

/-- A numeral padded with zeros on the left to a least width. -/
def padded (width value : Nat) : String :=
  let digits := decimalDigits value
  String.ofList (List.replicate (width - digits.length) '0' ++ digits)

end TapeMultiplier.Text
