/-
Module: TapeMultiplier.Text.Pattern
Layer: Text
Purpose: Patterns that are looked for in a text.  A pattern tries its choices in order and takes the
  first way to succeed; on its way it records the positions that matter, its seams.
Main exports: Mark, marks, Pattern, Pattern.find, Pattern.seams
-/
import TapeMultiplier.Text.Word

namespace TapeMultiplier.Text

/-- A character of a text, whether words can hold it, and the first character from here on that is
neither part of a word nor a point. -/
structure Mark where
  char : Char
  word : Bool
  stop : Option Char
deriving Repr, Inhabited, DecidableEq

/-- A text with what patterns ask about its characters. -/
def marks (text : List Char) : List Mark :=
  text.foldr (fun c behind =>
    let word := isWord c
    let stop := if word || c == '.' then behind.head?.bind Mark.stop else some c
    { char := c, word, stop } :: behind) []

/-- A place in a text: the character before it, those behind it, the number of characters passed, and
the seams met so far, the last one first. -/
structure Place where
  before : Option Mark
  rest : List Mark
  passed : Nat
  seams : List Nat
deriving Repr, Inhabited, DecidableEq

namespace Place

/-- The place behind the next character, and the characters from there on. -/
def step (place : Place) (mark : Mark) (rest : List Mark) : Place :=
  { place with before := some mark, rest, passed := place.passed + 1 }

/-- The place after the next character, if that passes a test. -/
def pass? (test : Mark → Bool) (place : Place) : Option Place :=
  match place.rest with
  | [] => none
  | mark :: rest => if test mark then some (place.step mark rest) else none

/-- The places that can be reached over characters that pass a test, the furthest one first; `reached`
holds those up to here. -/
def reach (test : Mark → Bool) : List Mark → Place → List Place → List Place
  | [], place, reached => place :: reached
  | mark :: rest, place, reached =>
      if test mark then reach test rest (place.step mark rest) (place :: reached)
      else place :: reached

/-- Go on from the nearest place, over characters that pass a test, from which there is a way. -/
def nearest (test : Mark → Bool) (next : Place → Option Place) : List Mark → Place → Option Place
  | [], place => next place
  | mark :: rest, place =>
      match next place with
      | some found => some found
      | none => if test mark then nearest test next rest (place.step mark rest) else none

/-- Go as often as there is a way, at most once for each of some characters. -/
def exhaust (way : Place → Option Place) : List Mark → Place → Place
  | [], place => place
  | _ :: others, place =>
      match way place with
      | some next => exhaust way others next
      | none => place

end Place

/-- What is looked for. -/
inductive Pattern where
  /-- A character that passes a test. -/
  | one (test : Mark → Bool)
  /-- Nothing, at a place whose neighbours pass a test. -/
  | between (test : Option Mark → Option Mark → Bool)
  /-- Nothing, at a place that is a seam. -/
  | seam
  /-- A pattern and one behind it. -/
  | both (first second : Pattern)
  /-- A pattern, or else another one. -/
  | either (first second : Pattern)
  /-- As many characters that pass a test as the rest of the pattern allows. -/
  | most (test : Mark → Bool)
  /-- As few characters that pass a test as the rest of the pattern allows. -/
  | fewest (test : Mark → Bool)
  /-- A pattern as often as the rest of the pattern allows, at most a number of times. -/
  | upTo (times : Nat) (part : Pattern)
  /-- A pattern as often as it is found, whatever follows. -/
  | every (part : Pattern)

namespace Pattern

/-- Repeat a way up to a number of times, and go on. -/
def repeated (way : (Place → Option Place) → Place → Option Place) (next : Place → Option Place) :
    Nat → Place → Option Place
  | 0, place => next place
  | times + 1, place =>
      match way (repeated way next times) place with
      | some found => some found
      | none => next place

/-- Find a pattern at a place, and go on behind it. -/
def find : Pattern → (Place → Option Place) → Place → Option Place
  | one test, next, place => (place.pass? test).bind next
  | between test, next, place => if test place.before place.rest.head? then next place else none
  | seam, next, place => next { place with seams := place.passed :: place.seams }
  | both first second, next, place => first.find (second.find next) place
  | either first second, next, place =>
      match first.find next place with
      | some found => some found
      | none => second.find next place
  | most test, next, place => (place.reach test place.rest []).findSome? next
  | fewest test, next, place => place.nearest test next place.rest
  | upTo times part, next, place => repeated part.find next times place
  | every part, next, place => next (place.exhaust (part.find some) place.rest)

/-- Look for a pattern from a place on, behind each finding again; the first argument bounds the
places. -/
def search (pattern : Pattern) : Nat → Place → Place
  | 0, place => place
  | count + 1, place =>
      match place.rest with
      | [] => place
      | mark :: rest =>
          match pattern.find some place with
          | some next => search pattern count (if place.passed < next.passed then next
              else next.step mark rest)
          | none => search pattern count (place.step mark rest)

/-- The seams of all findings of a pattern in a text. -/
def seams (pattern : Pattern) (text : List Mark) : List Nat :=
  (pattern.search text.length { before := none, rest := text, passed := 0, seams := [] }).seams

/-- Patterns one behind the other. -/
def sequence : List Pattern → Pattern
  | [] => between fun _ _ => true
  | [part] => part
  | part :: rest => both part (sequence rest)

/-- The first of some patterns that is found. -/
def choice : List Pattern → Pattern
  | [] => between fun _ _ => false
  | [part] => part
  | part :: rest => either part (choice rest)

/-- A given character. -/
def char (c : Char) : Pattern :=
  one fun mark => mark.char == c

/-- A given text. -/
def literal (text : String) : Pattern :=
  sequence (text.toList.map char)

/-- A pattern or nothing. -/
def optional (part : Pattern) : Pattern :=
  upTo 1 part

/-- A pattern a number of times. -/
def times (count : Nat) (part : Pattern) : Pattern :=
  sequence (List.replicate count part)

/-- Between a least and a largest number of characters that pass a test. -/
def within (least largest : Nat) (test : Mark → Bool) : Pattern :=
  both (times least (one test)) (upTo (largest - least) (one test))

/-- At least one character that passes a test, and as many as possible. -/
def oneOrMore (test : Mark → Bool) : Pattern :=
  both (one test) (most test)

/-- Patterns one behind the other, with a seam at both ends. -/
def framed (inside : List Pattern) : Pattern :=
  sequence (seam :: inside ++ [seam])

end Pattern

end TapeMultiplier.Text
