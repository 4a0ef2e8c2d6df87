/-
Module: TapeMultiplier.Proofs.Multiplication.Program
Layer: Proofs
Purpose: The seventeen transitions that the bundled program text stands for.
Main exports: multiplicationTable, decode_multiplicationText
-/
import TapeMultiplier.Files
import TapeMultiplier.ProgramText

namespace TapeMultiplier

/-- The bundled multiplication program.  For every zero of the first factor (`q0`) it goes to the second
factor (`q1`), tallies its zeros one by one (`q2`), for each of them adds a zero behind the last blank
(`q3`, `q4`) and comes back (`q5`); then it takes the tallies back (`q6`) and returns (`q7`). -/
def multiplicationTable : Table :=
  ⟨[⟨"q0", .number, "q1", .replacedZero, .right⟩,
    ⟨"q1", .number, "q1", .number, .right⟩,
    ⟨"q1", .calculation, "q2", .calculation, .right⟩,
    ⟨"q2", .replacedOne, "q2", .replacedOne, .right⟩,
    ⟨"q2", .number, "q3", .replacedOne, .right⟩,
    ⟨"q2", .blank, "q6", .blank, .left⟩,
    ⟨"q3", .number, "q3", .number, .right⟩,
    ⟨"q3", .blank, "q4", .blank, .right⟩,
    ⟨"q4", .number, "q4", .number, .right⟩,
    ⟨"q4", .blank, "q5", .number, .left⟩,
    ⟨"q5", .number, "q5", .number, .left⟩,
    ⟨"q5", .blank, "q5", .blank, .left⟩,
    ⟨"q5", .replacedOne, "q2", .replacedOne, .right⟩,
    ⟨"q6", .replacedOne, "q6", .number, .left⟩,
    ⟨"q6", .calculation, "q7", .calculation, .left⟩,
    ⟨"q7", .number, "q7", .number, .left⟩,
    ⟨"q7", .replacedZero, "q0", .replacedZero, .right⟩]⟩

/-- The bundled text, line by line. -/
theorem toList_multiplicationText :
    Bundled.multiplicationText.toList =
      Bundled.multiplicationLines.flatMap fun line => line.toList ++ ['\n'] := by
  rw [Bundled.multiplicationText, String.toList_join, List.flatMap_map]
  simp only [String.toList_append]
  rfl

/-- The bundled text is a program, and this is its table. -/
theorem decode_multiplicationText :
    ProgramText.decode Bundled.multiplicationText.toList = .ok multiplicationTable := by
  have decoded : (ProgramText.decode (Bundled.multiplicationLines.flatMap fun line =>
      line.toList ++ ['\n'])).toOption = some multiplicationTable := by
    decide +kernel
  rw [toList_multiplicationText]
  cases answer : ProgramText.decode (Bundled.multiplicationLines.flatMap fun line =>
      line.toList ++ ['\n']) with
  | error error =>
      rw [answer] at decoded
      cases decoded
  | ok table =>
      rw [answer] at decoded
      cases decoded
      rfl

end TapeMultiplier
