/-
Module: TapeMultiplier.Files
Layer: Session
Purpose: The files of programs and of settings: those that come with the program, where a file is looked
  for, how it is read and written, and the digest by which a program is recognised.
Main exports: Bundled.multiplicationText, Bundled.settingsText, installedStore, loadProgram,
  saveProgram, programDigest, loadSettings, saveSettings
-/
import TapeMultiplier.Digest
import TapeMultiplier.Session

namespace TapeMultiplier

/-! ### What comes with the program -/

namespace Bundled

/-- Where the multiplication program is found. -/
def programPath : String := "programs/multiplication.tm"

/-- Where the settings are found. -/
def settingsPath : String := "config/runtime_config.json"

/-- The lines of the multiplication program: the header, then seventeen transitions. -/
def multiplicationLines : List String :=
  ["1",
   "010100100000010011",
   "00101001010011",
   "001000010001000010011",
   "000100000100010000010011",
   "000101000010000010011",
   "00010001000000010001011",
   "000010100001010011",
   "00001000100000100010011",
   "00000101000001010011",
   "0000010001000000101011",
   "000000101000000101011",
   "0000001000100000010001011",
   "000000100000100010000010011",
   "000000010000010000000101011",
   "000000010000100000000100001011",
   "0000000010100000000101011",
   "00000000100000010100000010011"]

/-- The text of the multiplication program. -/
def multiplicationText : String :=
  String.join (multiplicationLines.map fun line => line ++ "\n")

/-- The text of the default settings. -/
def settingsText : String :=
  Settings.defaults.toDocument.writeIndented

end Bundled

/-- The files that come with the program. -/
def installedStore : Store :=
  let file (name text : String) : Node :=
    .directory [(FileName.ofText name, .file text.toUTF8)]
  { working := []
    installed := [
      (FileName.ofText "programs", file "multiplication.tm" Bundled.multiplicationText),
      (FileName.ofText "config", file "runtime_config.json" Bundled.settingsText)]
    system := [] }

/-- The place of a program: relative names that are not found here are looked up among the installed
files. -/
def resolveProgram (path : RawText) : App Place := do
  let tidy := Path.ofText path
  if (← placeFound (.here tidy.text)) || isRooted tidy.text then return .here tidy.text
  let installed ← installedPlace (RawText.joined "/" tidy.parts)
  return if ← placeFound installed then installed else .here tidy.text

/-- The position and value of the first byte that is no ASCII character. -/
def firstNonAscii (position : Nat) : List UInt8 → Option (UInt8 × Nat)
  | [] => none
  | byte :: rest =>
      if 128 ≤ byte then some (byte, position) else firstNonAscii (position + 1) rest

/-- The text of ASCII bytes, with unified line ends. -/
def asciiText (content : List UInt8) : Except UnreadableText (List Char) :=
  match firstNonAscii 0 content with
  | some (byte, position) => .error (.notAscii byte position)
  | none => .ok (unifyLineEnds (content.map fun byte => Char.ofNat byte.toNat))

/-- Load a program. -/
def loadProgram (path : RawText) : App Table := do
  let content ← tryCatch (do readFile (← resolveProgram path)) fun failure =>
    match failure with
    | .file error => throw (.program path (.file error))
    | _ => throw failure
  let text ← orFail (.program path) (asciiText content.toList)
  orFail .decode (ProgramText.decode text)

/-- Save a program.  The file is emptied before its text is made, so a program that has no text leaves
an empty file. -/
def saveProgram (transitions : List Transition) (path : RawText) : App Unit := do
  makePath (Path.ofText path).parent
  let location ← openFile .truncate path
  let text ← orFail id (programText transitions)
  writeText location (String.ofList text)

/-- The digest of a program file. -/
def programDigest (path : RawText) : App String := do
  let content ← readFile (← resolveProgram path)
  return Digest.sha256 content.toList

/-! ### Settings -/

/-- The place of a settings file: relative paths that are not found here are looked up among the
installed files. -/
def resolveSettings (path : RawText) : App Place := do
  if (← placeExists (.here path)) || isRooted path then return .here path
  let installed ← installedPlace path
  return if ← placeExists installed then installed else .here path

/-- Read a JSON document from a file, in which containers lie in each other no deeper than there is
room. -/
def readDocument (room : Nat) (place : Place) : App Json := do
  orFail .document (Json.readWithin room (← readTextFile place))

/-- Load settings: the document is merged over the defaults and checked, the output directory is
made, and the settings are reported if that is wanted.  How much room there is for the document depends
on where this is done. -/
def loadSettingsWithin (room : Nat) (path : RawText) (verbose : Bool) : App (Settings × Preferences) := do
  let place ← resolveSettings path
  if !(← placeExists place) then throw (.noSettingsFile place.text)
  let document ← readDocument room place
  let settings ← orFail .settings (Settings.defaults.merge document)
  let preferences ← orFail .settings settings.preferences
  makeDirectories preferences.outputDirectory
  if verbose then
    printLine ("[" ++ (← get).clock.stamp ++ "] Loaded config:")
    settings.reportLines.forM printLine
  return (settings, preferences)

/-- Load settings where commands do. -/
def loadSettings (path : RawText) (verbose : Bool) : App (Settings × Preferences) :=
  loadSettingsWithin Json.nestingLimit path verbose

/-- Save settings that pass the checks.  The file is emptied before they are written. -/
def saveSettingsWithin (room : Nat) (settings : Settings) (path : RawText) : App Unit := do
  let _ ← orFail .settings settings.preferences
  let location ← openFile .truncate path
  writeDocument room location settings.toDocument

/-- Save settings where commands do. -/
def saveSettings (settings : Settings) (path : RawText) : App Unit :=
  saveSettingsWithin Json.nestingLimit settings path

end TapeMultiplier
