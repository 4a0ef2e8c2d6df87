/-
Module: TapeMultiplier.Highlight
Layer: Text
Purpose: The parts of a printed line that are set off from the rest: tags, assignments, brackets,
  addresses, names that are called, constants, numbers, paths, quoted texts and links.  A position at
  which such a part starts or ends is a seam.
Main exports: Highlight.seams
-/
import TapeMultiplier.Text.Characters
import TapeMultiplier.Text.Pattern

namespace TapeMultiplier.Highlight

open Text (Mark Pattern)
open Text.Pattern (one between seam both either most fewest upTo every sequence choice char literal
  optional times within oneOrMore framed)

/-! ### Characters -/

/-- A decimal digit. -/
def isNumeral (mark : Mark) : Bool :=
  '0' ≤ mark.char && mark.char ≤ '9'

/-- A decimal digit of any script. -/
def isDecimal (mark : Mark) : Bool :=
  Text.isDecimal mark.char

/-- A digit of base sixteen. -/
def isHexadecimal (mark : Mark) : Bool :=
  isNumeral mark || ('a' ≤ mark.char && mark.char ≤ 'f') || ('A' ≤ mark.char && mark.char ≤ 'F')

/-- A character of a name that is called. -/
def isCallName (mark : Mark) : Bool :=
  mark.word || mark.char == '.'

/-- A character of a tag's name. -/
def isTagName (mark : Mark) : Bool :=
  mark.word || "-.:|".toList.contains mark.char

/-- A character of a file's name. -/
def isFileName (mark : Mark) : Bool :=
  mark.word || "-.+".toList.contains mark.char

/-- A character of a link. -/
def isLink (mark : Mark) : Bool :=
  isNumeral mark || ('a' ≤ mark.char && mark.char ≤ 'z') || ('A' ≤ mark.char && mark.char ≤ 'Z') ||
    "-$_+!`(),.?/;:&=%#~@".toList.contains mark.char

/-- A character of a quoted text, which ends with the line. -/
def isQuotable (mark : Mark) : Bool :=
  mark.char != '\n'

/-! ### Places -/

/-- Whether a neighbour belongs to a word. -/
def inWord (neighbour : Option Mark) : Bool :=
  neighbour.any Mark.word

/-- Whether a neighbour is a given character. -/
def isChar (c : Char) (neighbour : Option Mark) : Bool :=
  neighbour.any fun mark => mark.char == c

/-- The start or the end of a word. -/
def wordEdge : Pattern :=
  between fun before behind => inWord before != inWord behind

/-- A place behind no word. -/
def behindNoWord : Pattern :=
  between fun before _ => !inWord before

/-- A place behind no backslash. -/
def behindNoBackslash : Pattern :=
  between fun before _ => !isChar '\x5c' before

/-! ### Parts -/

/-- Four numbers with points between them. -/
def fourNumbers : Pattern :=
  framed [times 3 (both (within 1 3 isNumeral) (char '.')), within 1 3 isNumeral]

/-- Up to eight groups of digits with one or two colons between them. -/
def colonGroups : Pattern :=
  let group := sequence [within 1 4 isHexadecimal, char ':', optional (char ':')]
  framed [group, upTo 6 group, within 1 4 isHexadecimal]

/-- A device address: pairs of digits with hyphens or colons between them, or half as many groups of
four with points. -/
def deviceAddress (pairs : Nat) : Pattern :=
  let divided (least largest count : Nat) (divider : Char) :=
    both (times (count - 1) (both (within least largest isHexadecimal) (char divider)))
      (within least largest isHexadecimal)
  framed [choice [divided 1 2 pairs '-', divided 1 2 pairs ':', divided 4 4 (pairs / 2) '.']]

/-- Five groups of digits with hyphens between them. -/
def identifier : Pattern :=
  let group (count : Nat) := times count (one isHexadecimal)
  let hyphen := char '-'
  framed [group 8, hyphen, group 4, hyphen, group 4, hyphen, group 4, hyphen, group 12]

/-- A name in front of an opening parenthesis, or only the parenthesis. -/
def call : Pattern :=
  sequence [between fun _ behind => behind.any fun mark => mark.stop == some '(',
    optional (framed [one isCallName, every (one isCallName)]), char '(']

/-- A word of its own. -/
def constant (word : String) : Pattern :=
  sequence [wordEdge, framed [literal word], wordEdge]

/-- Digits, with a point and more digits behind them or not. -/
def decimals : Pattern :=
  both (oneOrMore isNumeral) (optional (both (char '.') (most isNumeral)))

/-- The exponent of a number, with the digits that a pattern takes. -/
def exponent (digits : Pattern) : Pattern :=
  optional (sequence [char 'e', optional (choice [char '-', char '+']), digits])

/-- As few digits as possible, but one. -/
def fewDecimals : Pattern :=
  both (one isDecimal) (fewest isDecimal)

/-- A number of two parts, the second one imaginary, or only that one. -/
def complexNumber : Pattern :=
  framed [behindNoWord, optional (char '-'), decimals, exponent fewDecimals,
    optional (sequence [choice [char '-', char '+'], decimals, exponent (oneOrMore isDecimal)]),
    char 'j']

/-- A number. -/
def number : Pattern :=
  framed [choice [
    sequence [behindNoWord, optional (char '-'), decimals, exponent fewDecimals, wordEdge],
    both (literal "0x") (most isHexadecimal)]]

/-- Directories, each with a slash behind it, and a file name. -/
def path : Pattern :=
  sequence [behindNoWord, framed [char '/', every (both (oneOrMore isFileName) (char '/'))],
    most isFileName, seam]

/-- A text in given quotes. -/
def quotedIn (quotes : String) : Pattern :=
  sequence [optional (char 'b'), literal quotes, fewest isQuotable, behindNoBackslash, literal quotes]

/-- A quoted text. -/
def quoted : Pattern :=
  sequence [behindNoWord, behindNoBackslash,
    framed [choice [quotedIn "'''", quotedIn "'", quotedIn "\x22\x22\x22", quotedIn "\x22"]]]

/-- A link. -/
def link : Pattern :=
  framed [choice (["file", "https", "http", "ws", "wss"].map literal), literal "://", most isLink]

/-- A part of the text of a value. -/
def valuePart : Pattern :=
  choice [fourNumbers, colonGroups, deviceAddress 8, deviceAddress 6, identifier, call,
    constant "True", constant "False", constant "None", framed [literal "..."], complexNumber, number,
    path, quoted, link]

/-- A name and an equals sign, and the value behind it. -/
def assignment : Pattern :=
  let quote := optional (char '\x22')
  sequence [framed [within 1 50 Mark.word], char '=',
    optional (framed [quote, oneOrMore Mark.word, quote])]

/-- A bracket. -/
def bracket : Pattern :=
  framed [one fun mark => "[]\x7b\x7d()".toList.contains mark.char]

/-- The seams of a tag, which goes from the first opening angle bracket to the last closing one. -/
def tagSeams (text : List Mark) : List Nat :=
  let start := (text.takeWhile fun mark => mark.char != '<').length
  let behind := (text.reverse.takeWhile fun mark => mark.char != '>').length
  let last := text.length - behind
  if start + 1 < last then
    let name := ((text.drop (start + 1)).takeWhile isTagName).length
    [start, start + 1, start + 1 + name, last - 1, last]
  else []

/-- The seams of a text, in ascending order. -/
def seams (text : List Char) : List Nat :=
  let text := Text.marks text
  (tagSeams text ++ assignment.seams text ++ bracket.seams text ++ valuePart.seams text).mergeSort

end TapeMultiplier.Highlight
