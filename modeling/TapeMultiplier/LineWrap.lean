/-
Module: TapeMultiplier.LineWrap
Layer: Text
Purpose: Lines as the terminal shows them.  Brackets in a line can be marks: a word in brackets that starts
  with a small letter is a tag, which styles the text and is not printed; a backslash takes a bracket
  or a tag for what it is.  Lines that are wider than the terminal are broken between words, and a word
  that is wider than the terminal is cut.  The parts of a line that are set off are measured by
  themselves.
Main exports: Markup.plain, terminalWidth, LineWrap.wrapLine, LineWrap.fit, LineWrap.fitHighlighted
-/
import TapeMultiplier.Highlight
import TapeMultiplier.Text.Characters
import TapeMultiplier.Text.Columns

namespace TapeMultiplier

namespace Markup

/-- The characters that start a tag. -/
def startsTag (c : Char) : Bool :=
  ('a' ≤ c && c ≤ 'z') || c == '#' || c == '/' || c == '@'

/-- Cut a text behind its first closing bracket; no bracket may open before that. -/
def cutBracket? : List Char → Option (List Char × List Char)
  | [] => none
  | c :: rest =>
      if c = ']' then some ([c], rest)
      else if c = '[' then none
      else (cutBracket? rest).map fun (inside, behind) => (c :: inside, behind)

/-- The tag at the start of a text behind its opening bracket, and the rest. -/
def tag? (text : List Char) : Option (List Char × List Char) :=
  match text with
  | [] => none
  | c :: rest =>
      if startsTag c then (cutBracket? rest).map fun (inside, behind) => (c :: inside, behind)
      else none

/-- What is printed of a text; the first argument bounds the brackets in it.  Backslashes in front of a
tag stand for half as many, and one too many takes the tag for a text.  In front of a bracket that
opens no tag the last backslash is dropped. -/
def plainWithin : Nat → List Char → List Char
  | 0, text => text
  | fuel + 1, text =>
      let before := text.takeWhile (· != '[')
      let slashes := before.reverse.takeWhile (· == '\x5c')
      let words := before.take (before.length - slashes.length)
      match text.dropWhile (· != '[') with
      | [] => before
      | bracket :: rest =>
          match tag? rest with
          | some (tag, rest) =>
              words ++ slashes.take (slashes.length / 2) ++
                (if slashes.length % 2 = 0 then [] else bracket :: tag) ++ plainWithin fuel rest
          | none => words ++ slashes.drop 1 ++ bracket :: plainWithin fuel rest

/-- What is printed of a text. -/
def plain (text : String) : String :=
  String.ofList (plainWithin (text.length + 1) text.toList)

end Markup

/-- The number of columns of the terminal. -/
def terminalWidth : Nat := 10000

namespace LineWrap

/-- The words of a text that starts with one, each with the white space behind it. -/
def wordsFrom (line : List Char) : List (List Char) :=
  line.foldr (fun c words =>
    match words with
    | [] => [[c]]
    | word :: rest =>
        if Text.isBlank c && !word.head?.any Text.isBlank then [c] :: word :: rest
        else (c :: word) :: rest) []

/-- The words of a line.  White space at the start of the line goes with the first word. -/
def words (line : List Char) : List (List Char) :=
  let indent := line.takeWhile Text.isBlank
  match wordsFrom (line.dropWhile Text.isBlank) with
  | [] => [indent]
  | word :: rest => (indent ++ word) :: rest

/-- Lines that are full, and the line that words are still added to: its words, the last one first, and
its number of columns. -/
structure Lines where
  full : List (List Char)
  current : List (List Char)
  offset : Nat
deriving Repr, Inhabited, DecidableEq

/-- All lines, also the one that words could still be added to. -/
def Lines.all (lines : Lines) : List (List Char) :=
  lines.full ++ [lines.current.reverse.flatten]

/-- Add a cluster.  It starts a line if it would reach over the end of the current one. -/
def addCluster (width : Nat) (lines : Lines) (cluster : Text.Cluster) : Lines :=
  if width < lines.offset + cluster.columns then
    { full := lines.all, current := [cluster.text], offset := cluster.columns }
  else
    { lines with
      current := cluster.text :: lines.current, offset := lines.offset + cluster.columns }

/-- Add a word.  It goes to the current line if it fits there without the white space behind it, and
otherwise starts a line, on which it is cut if it is too wide for any. -/
def addWord (width : Nat) (lines : Lines) (word : List Char) : Lines :=
  let bare := Text.width (Text.trimEnd word)
  if lines.offset + bare ≤ width then
    { lines with current := word :: lines.current, offset := lines.offset + Text.width word }
  else
    let full := if lines.current.isEmpty then lines.full else lines.all
    if bare ≤ width then { full, current := [word], offset := Text.width word }
    else
      let cut := (Text.clusters word).foldl (addCluster width) { full, current := [], offset := 0 }
      { cut with offset := Text.width cut.current.reverse.flatten }

/-- A line without the white space at its end by which it has more characters than the terminal has
columns. -/
def cropBlanks (width : Nat) (line : List Char) : List Char :=
  let blanks := line.length - (Text.trimEnd line).length
  line.take (line.length - min blanks (line.length - width))

/-- A line cut at the end of the terminal. -/
def cropColumns (width : Nat) (line : List Char) : List Char :=
  if Text.width line ≤ width then line else Text.takeColumns width (Text.clusters line)

/-- The lines that a line is broken into.  A line of half as many characters as there are columns fits
in any case. -/
def breakLine (width : Nat) (line : List Char) : List (List Char) :=
  if 2 * line.length ≤ width then [line]
  else ((words line).foldl (addWord width) { full := [], current := [], offset := 0 }).all

/-- A line while it is cut at seams: the parts that are done and the characters of the current one,
each the last one first, the position reached, and the seams from there on. -/
structure Cutting where
  parts : List (List Char)
  current : List Char
  position : Nat
  seams : List Nat
deriving Repr, Inhabited, DecidableEq

namespace Cutting

/-- Add a character.  At a seam it starts a part. -/
def add (cutting : Cutting) (c : Char) : Cutting :=
  let seams := cutting.seams.dropWhile (· < cutting.position)
  let position := cutting.position + 1
  if seams.head? == some cutting.position then
    { parts := cutting.current.reverse :: cutting.parts, current := [c], position, seams }
  else { cutting with current := c :: cutting.current, position, seams }

/-- All parts, the first one first. -/
def all (cutting : Cutting) : List (List Char) :=
  (cutting.current.reverse :: cutting.parts).reverse

end Cutting

/-- The parts of a line between its seams, which are positions in the text that the line starts in at a
position. -/
def cutAt (seams : List Nat) (start : Nat) (line : List Char) : List (List Char) :=
  (line.foldl Cutting.add { parts := [], current := [], position := start, seams }).all

/-- The parts of a line up to the end of the terminal, when each part is measured by itself. -/
def takeParts : Nat → List (List Char) → List (List Char)
  | _, [] => []
  | room, part :: rest =>
      let columns := Text.width part
      if columns < room then part :: takeParts (room - columns) rest else [cropColumns room part]

/-- A line cut at the end of the terminal if its parts together are wider. -/
def cropParts (width : Nat) (parts : List (List Char)) : List Char :=
  let total := parts.foldl (fun total part => total + Text.width part) 0
  if total ≤ width then parts.flatten else (takeParts width parts).flatten

/-- What is shown of a line that starts at a position of a text with seams. -/
def crop (width : Nat) (seams : List Nat) (start : Nat) (line : List Char) : List Char :=
  if 2 * line.length ≤ width then line
  else cropParts width (cutAt seams start (cropColumns width (cropBlanks width line)))

/-- Texts that stand one behind the other with a gap, each with its position. -/
def placed (gap start : Nat) (texts : List (List Char)) : List (Nat × List Char) :=
  (texts.foldl (fun (position, done) text =>
    (position + text.length + gap, (position, text) :: done)) (start, [])).2.reverse

/-- What is shown of a line that is broken to fit the terminal. -/
def wrapLine (width : Nat) (seams : List Nat) (start : Nat) (line : List Char) : List (List Char) :=
  (placed 0 start (breakLine width line)).map fun (position, part) => crop width seams position part

/-- A text with its lines broken to fit the terminal, in which parts meet at seams. -/
def fitParts (seams : List Nat) (text : String) : String :=
  let lines := (text.splitOn "\n").map String.toList
  "\n".intercalate ((placed 1 0 lines).flatMap fun (start, line) =>
    (wrapLine terminalWidth seams start line).map String.ofList)

/-- A text with its lines broken to fit the terminal. -/
def fit (text : String) : String :=
  fitParts [] text

/-- A text with its lines broken to fit the terminal and parts of it set off.  Parts are wider by
themselves than together only where one of them ends with a joiner. -/
def fitHighlighted (text : String) : String :=
  let characters := text.toList
  fitParts (if characters.contains Text.joiner then Highlight.seams characters else []) text

end LineWrap

end TapeMultiplier
