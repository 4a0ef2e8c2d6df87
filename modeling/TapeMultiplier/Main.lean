/-
Module: TapeMultiplier.Main
Layer: Command
Purpose: The program.  It takes a picture of the working directory, carries a command out on it, plays
  back what happened at the terminal and writes the changed files.  Whenever the command asks for a
  line that was not typed yet, the line is read and the command is carried out again from the start;
  commands depend on nothing else, so what was played back before is played back again and skipped.
Main exports: main
-/
import Std.Time.DateTime.Timestamp
import TapeMultiplier.Command

namespace TapeMultiplier

/-- The entries of a directory that was listed. -/
partial def snapshot (listed : Array IO.FS.DirEntry) : IO Entries := do
  let mut entries : Entries := []
  for entry in listed do
    let node : Node ←
      if ← entry.path.isDir then pure (.directory (← snapshot (← entry.path.readDir)))
      else pure (.file (← IO.FS.readBinFile entry.path))
    entries := entries ++ [(FileName.ofText entry.fileName, node)]
  return entries

/-- The present time. -/
def presentTime : IO Clock := do
  let now ← Std.Time.Timestamp.now
  return Clock.ofMicroseconds (now.toNanosecondsSinceUnixEpoch.val.toNat / 1000)

/-- Play back what happened at the terminal. -/
def play (events : List TerminalEvent) : IO Unit := do
  let output ← IO.getStdout
  for event in events do
    match event with
    | .text value => output.putStr value
    | .pause delay =>
        output.flush
        IO.sleep (UInt32.ofNat (delay.toFloat * 1000.0).toUInt64.toNat)
  output.flush

/-- Write what changed. -/
def commit (old new : Store) : IO Unit := do
  for name in old.newDirectories new do
    IO.FS.createDirAll name.shown
  for (name, content) in old.changes new do
    match content with
    | some bytes => IO.FS.writeBinFile name.shown bytes
    | none => IO.FS.removeFile name.shown

/-- Carry a command out with the lines typed so far; `played` events were played back before. -/
partial def converse (command : App Unit) (session : Session) (typed : List Char) (played : Nat) :
    IO UInt32 := do
  let started ← IO.monoMsNow
  let outcome := command { session with input := typed }
  let final :=
    match outcome with
    | .ok _ final => final
    | .error _ final => final
  play (final.transcript.reverse.drop played)
  commit session.store final.store
  match outcome with
  | .ok _ _ => return 0
  | .error (.exit code) _ => return UInt32.ofNat code
  | .error .endOfInput _ =>
      let line ← (← IO.getStdin).getLine
      if line.isEmpty then
        IO.eprintln Failure.endOfInput.message
        return 1
      let elapsed := (← IO.monoMsNow) - started
      let timed := { session with elapsed := .fractional (Decimal.toFloat false ⟨elapsed, -3⟩) }
      converse command timed (typed ++ line.toList) final.transcript.length
  | .error failure _ =>
      IO.eprintln failure.message
      return 1

/-- The command that the arguments name: a tool, or the multiplier with its options. -/
def commandOf : List String → App Unit
  | "inspect" :: arguments => inspectCommand arguments
  | "verify" :: arguments => verifyCommand arguments
  | arguments => multiplierCommand arguments

end TapeMultiplier

open TapeMultiplier in
/-- Carry out the command that the arguments name. -/
def main (arguments : List String) : IO UInt32 := do
  let directory ← IO.currentDir
  let working ← snapshot (← directory.readDir)
  let session : Session := {
    store := { installedStore with working }
    installRoot := (← IO.appDir).toString
    clock := ← presentTime
    elapsed := .whole 0
    input := []
    transcript := []
    progress := none
    journal := none
    patience := 1000000000000000000 }
  converse (commandOf arguments) session [] 0
