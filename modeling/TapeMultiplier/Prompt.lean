/-
Module: TapeMultiplier.Prompt
Layer: Command
Purpose: Questions at the terminal.  A question is repeated until the answer is valid; an empty line
  takes the default if there is one.
Main exports: Question, Question.ask, askText, askPath, askChoice, askInteger, askNumber, askYesNo
-/
import TapeMultiplier.Decimal.Literal
import TapeMultiplier.Session

namespace TapeMultiplier

/-- A question with an answer of some type. -/
structure Question (α : Type) where
  text : String
  /-- The answers that are offered, if they are few. -/
  choices : Option (List String)
  /-- The answer to an empty line, with the text by which it is shown. -/
  fallback : Option (String × α)
  /-- The meaning of a line without the white space around it, or what is wrong with it. -/
  accept : String → Except String α

namespace Question

variable {α : Type}

/-- The line that asks the question. -/
def line (question : Question α) : String :=
  question.text ++
    (match question.choices with
      | some choices => " [" ++ "/".intercalate choices ++ "]"
      | none => "") ++
    (match question.fallback with
      | some (shown, _) => " (" ++ shown ++ ")"
      | none => "") ++
    ": "

/-- The meaning of a typed line. -/
def meaning (question : Question α) (typed : String) : Except String α :=
  match typed.isEmpty, question.fallback with
  | true, some (_, value) => .ok value
  | _, _ => question.accept (String.ofList (Text.trim typed.toList))

/-- Ask until the answer is valid, at most a number of times. -/
def askWithin (question : Question α) : Nat → App α
  | 0 => throw .endOfInput
  | times + 1 => do
      print (LineWrap.fit question.line)
      match question.meaning (← readLine) with
      | .ok answer => return answer
      | .error complaint =>
          printLine complaint
          question.askWithin times

/-- Ask until the answer is valid.  Every attempt uses up a line, so the attempts are bounded by what
is left to read. -/
def ask (question : Question α) : App α := do
  question.askWithin ((← get).input.length + 1)

end Question

/-- Ask for a text; every line is accepted. -/
def askText (text : String) : App String :=
  Question.ask { text, choices := none, fallback := none, accept := .ok }

/-- Ask for a path; every line is accepted. -/
def askPath (text : String) (fallback : RawText) : App RawText :=
  Question.ask {
    text
    choices := none
    fallback := some (fallback.shown, fallback)
    accept := fun answer => .ok answer }

/-- Ask for one of a few texts. -/
def askChoice (text : String) (choices : List String) (fallback : String) : App String :=
  Question.ask {
    text
    choices := some choices
    fallback := some (fallback, fallback)
    accept := fun answer =>
      if choices.contains answer then .ok answer
      else .error "Please select one of the available options" }

/-- Ask for an integer. -/
def askInteger (text : String) (fallback : Int) : App Int :=
  Question.ask {
    text
    choices := none
    fallback := some (Text.decimalInt fallback, fallback)
    accept := fun answer =>
      match Text.readInteger answer with
      | .ok value => .ok value
      | .error _ => .error "Please enter a valid integer number" }

/-- Ask for a number. -/
def askNumber (text : String) (fallback : Float) : App Float :=
  Question.ask {
    text
    choices := none
    fallback := some (Json.reportLayout.render fallback, fallback)
    accept := fun answer =>
      match readFloat? answer with
      | some value => .ok value
      | none => .error "Please enter a number" }

/-- Ask for a yes or a no, in either case of letters. -/
def askYesNo (text : String) (fallback : Bool) : App Bool :=
  Question.ask {
    text
    choices := some ["y", "n"]
    fallback := some (if fallback then "y" else "n", fallback)
    accept := fun answer =>
      match lowerText answer.toList with
      | "y" => .ok true
      | "n" => .ok false
      | _ => .error "Please enter Y or N" }

end TapeMultiplier
