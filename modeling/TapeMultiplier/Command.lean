/-
Module: TapeMultiplier.Command
Layer: Command
Purpose: The commands: multiplying, verifying and inspecting from the command line, the interactive
  menu, and the two stand-alone tools.
Main exports: multiplierCommand, inspectCommand, verifyCommand
-/
import TapeMultiplier.CommandLine
import TapeMultiplier.GridRequest
import TapeMultiplier.Listing
import TapeMultiplier.Prompt
import TapeMultiplier.Trace

namespace TapeMultiplier

/-- Print an error and end the program. -/
def endWith {α : Type} (code : Nat) (text : String) : App α := do
  printMarked text
  throw (.exit code)

/-- Load the settings or end the program with an error. -/
def loadRuntimeSettings (path : String) (verbose : Bool) : App (Settings × Preferences) :=
  tryCatch (loadSettings path verbose) fun failure =>
    match failure.failureClass with
    | .fileMissing => endWith 1 ("Error: " ++ path ++ " not found!")
    | .wrongValue => endWith 1 ("Error: invalid configuration: " ++ failure.message)
    | .other => throw failure

/-- Load a program or end the program with an error. -/
def loadTable (path : RawText) : App Table :=
  tryCatch (loadProgram path) fun failure =>
    match failure with
    | .program _ _ => endWith 1 ("Error: " ++ failure.message)
    | .decode _ =>
        endWith 1 ("Error: program " ++ path.shown ++ " is malformed: " ++ failure.message)
    | _ => throw failure

/-- The sinks of a multiplication: the terminal if steps are shown, the log if they are traced. -/
def multiplicationSinks (preferences : Preferences) (showSteps : Bool) : List Sink :=
  (if showSteps then [.console preferences.stepDelay] else []) ++
    (if preferences.traceLog then [.log { flushEvery := 1000, kept := [] }] else [])

/-- The time that a run took; clocks count in floats. -/
def measuredTime : App Duration := do
  let elapsed := (← get).elapsed
  if !elapsed.fitsFloat then throw .durationTooLong
  return .fractional elapsed.toFloat

/-- Multiply, log the run, and print the product. -/
def runMultiplication (preferences : Preferences) (table : Table) (a b : Int) (showSteps : Bool) :
    App Unit := do
  openJournal preferences.outputDirectory preferences.logFileStem
  let limit := StepLimit.ofOption preferences.maxSteps
  let (product, final, sinks) ←
    match multiplicationSinks preferences showSteps with
    | [] => do
        let (product, final) ← plainMultiply table a b limit
        pure (product, final, [])
    | sinks => do
        let (product, final, tracing) ← tracedMultiply table a b limit sinks
        pure (product, final, tracing.sinks)
  let elapsed ← measuredTime
  let _ ← flushSinks sinks
  logRun a b product final (some elapsed)
  if showSteps then printLine final.tape
  if !final.halted then
    printLine ("Stopped after " ++ Text.grouped final.steps ++ " steps without halting.")
  printLine ("\nResult: " ++ Text.decimal product ++ "\n")

/-- The verification that the preferences describe. -/
def preferredTask (preferences : Preferences) (gridMax : Int) (useEngine : Bool) : GridTask :=
  { GridTask.standard preferences.programPath with
    gridMax
    batchSize := preferences.batchSize
    maxSteps := preferences.maxSteps.getD (-1)
    tapeSize := preferences.tapeSize
    useEngine }

/-- Verify a grid with the log that the preferences describe. -/
def runVerification (preferences : Preferences) (gridMax : Int) (useEngine : Bool) : App Unit := do
  openJournal preferences.outputDirectory preferences.logFileStem
  let _ ← verifyGrid (preferredTask preferences gridMax useEngine)

/-! ### The menu -/

/-- Ask for a multiplication until one is understood, at most a number of times. -/
def askMultiplicationWithin : Nat → App (Int × Int)
  | 0 => throw .endOfInput
  | times + 1 => do
      match parseOperands (← askText "Please enter a multiplication in the form 'a x b'") with
      | .ok factors => return factors
      | .error error =>
          printLine ("Error: " ++ error.message)
          askMultiplicationWithin times

/-- Ask for a multiplication until one is understood. -/
def askMultiplication : App (Int × Int) := do
  askMultiplicationWithin ((← get).input.length + 1)

/-- The menu entry that multiplies. -/
def multiplyEntry (preferences : Preferences) : App Unit := do
  printLine "\nMultiply"
  let table ← loadTable preferences.programPath
  let (a, b) ← askMultiplication
  let showSteps ← askYesNo "Show the result step by step?" preferences.showSteps
  runMultiplication preferences table a b showSteps

/-- The menu entry that verifies a grid. -/
def verifyEntry (preferences : Preferences) : App Unit := do
  printLine "\nVerify Operand Grid"
  let gridMax ← askInteger "Largest factor" preferences.gridMax
  let useEngine ← askYesNo "Use the step-by-step engine instead of the batch kernel?" false
  let largest := Text.decimalInt gridMax
  printLine ("Verifying " ++ largest ++ " x " ++ largest ++ " grid...")
  runVerification preferences gridMax useEngine

/-- The menu entry that inspects a program. -/
def inspectEntry (preferences : Preferences) : App Unit := do
  printLine "\nInspect Program"
  let path ← askPath "Program path" preferences.programPath
  print (← loadTable path).listing

/-- The answers to the questions of the settings entry. -/
structure SettingsAnswers where
  programPath : RawText
  showSteps : Bool
  stepDelay : Float
  maxSteps : Int
  traceLog : Bool
  batchSize : Int
  tapeSize : Int
  gridMax : Int

/-- Ask the questions of the settings entry. -/
def askSettings (preferences : Preferences) : App SettingsAnswers := do
  let programPath ← askPath "Program path" preferences.programPath
  let showSteps ← askYesNo "Show steps by default?" preferences.showSteps
  if !preferences.stepDelay.fitsFloat then throw .durationTooLong
  let stepDelay ← askNumber "Delay between printed steps (seconds)" preferences.stepDelay.toFloat
  let maxSteps ← askInteger "Max Steps (0 for no limit)" (preferences.maxSteps.getD 0)
  let traceLog ← askYesNo "Write step traces to the log directory?" preferences.traceLog
  let batchSize ← askInteger "Batch Size" preferences.batchSize
  let tapeSize ← askInteger "Tape Size" preferences.tapeSize
  let gridMax ← askInteger "Largest factor for grid verification" preferences.gridMax
  return { programPath, showSteps, stepDelay, maxSteps, traceLog, batchSize, tapeSize, gridMax }

/-- The settings with the answers put in. -/
def SettingsAnswers.apply (answers : SettingsAnswers) (settings : Settings) : Settings :=
  (((((((settings.set (.string "program_path") (.string answers.programPath)).set
    (.string "show_steps") (.bool answers.showSteps)).set
    (.string "step_delay") (.float answers.stepDelay)).set
    (.string "max_steps") (if 0 < answers.maxSteps then .int answers.maxSteps else .null)).set
    (.string "trace_log") (.bool answers.traceLog)).set
    (.string "batch_size") (.int answers.batchSize)).set
    (.string "tape_size") (.int answers.tapeSize)).set
    (.string "grid_max") (.int answers.gridMax)

/-- Save the settings with the answers put in.  Settings that fail the checks are reported and not
saved. -/
def saveAnswers (answers : SettingsAnswers) (settings : Settings) (path : String) : App Unit := do
  let saved ← tryCatch
    (do saveSettings (answers.apply settings) path; pure true)
    fun failure =>
      match failure.failureClass with
      | .wrongValue => do
          printMarked ("Configuration not saved: " ++ failure.message)
          return false
      | _ => throw failure
  if saved then printLine "Configuration updated successfully."

/-- The menu entry that edits the settings. -/
def settingsEntry (settings : Settings) (preferences : Preferences) (path : String) :
    App Unit := do
  printLine "\nEdit Configuration"
  saveAnswers (← askSettings preferences) settings path

/-- The menu. -/
def menuLines : List String :=
  ["\nTuring Machine Multiplier", "[1] Multiply", "[2] Verify Operand Grid", "[3] Inspect Program",
    "[4] Edit Config", "[5] Exit"]

/-- Show the menu and do what is chosen, until the exit is chosen; at most a number of times. -/
def menuWithin (path : String) : Nat → Settings → Preferences → App Unit
  | 0, _, _ => throw .endOfInput
  | times + 1, settings, preferences => do
      menuLines.forM printLine
      match ← askChoice "\nChoose an option" ["1", "2", "3", "4", "5"] "5" with
      | "1" => do
          multiplyEntry preferences
          menuWithin path times settings preferences
      | "2" => do
          verifyEntry preferences
          menuWithin path times settings preferences
      | "3" => do
          inspectEntry preferences
          menuWithin path times settings preferences
      | "4" => do
          settingsEntry settings preferences path
          let (settings, preferences) ← loadRuntimeSettings path false
          menuWithin path times settings preferences
      | _ => printLine "Goodbye!"

/-- The interactive program. -/
def menu (path : String) : App Unit := do
  let (settings, preferences) ← loadRuntimeSettings path false
  menuWithin path ((← get).input.length + 1) settings preferences

/-! ### The command line -/

/-- The options of the multiplier. -/
def multiplierOptions : List OptionSpec :=
  [⟨"--multiply", .text⟩, ⟨"--steps", .flag⟩, ⟨"--verify", .integer⟩, ⟨"--inspect", .flag⟩,
   ⟨"--program", .text⟩, ⟨"--max-steps", .integer⟩, ⟨"--config", .text⟩, ⟨"--verbose", .flag⟩]

/-- Options that are understood, or the end of the program. -/
def requireOptions (specs : List OptionSpec) (arguments : List String) :
    App (List (String × OptionValue)) :=
  match readOptions specs arguments with
  | some options => pure options
  | none => throw (.exit 2)

/-- What the command line asks for, other than the menu. -/
structure Request where
  multiply : Option String
  verify : Option Int
  inspect : Bool
  showSteps : Bool
  program : Option String
  maxSteps : Given Int
  configPath : Option String
  verbose : Bool
deriving Repr, DecidableEq

namespace Request

/-- What the options ask for.  An option without a value, an empty text and the number zero ask for
nothing. -/
def ofOptions (options : List (String × OptionValue)) : Request where
  multiply := (lastText options "--multiply").value?.filter fun text => !text.isEmpty
  verify := (lastInteger options "--verify").value?.filter fun number => number != 0
  inspect := hasFlag options "--inspect"
  showSteps := hasFlag options "--steps"
  program := (lastText options "--program").value?.filter fun text => !text.isEmpty
  maxSteps := lastInteger options "--max-steps"
  configPath := (lastText options "--config").orStandard Bundled.settingsPath
  verbose := hasFlag options "--verbose"

/-- Whether there is anything to do without the menu. -/
def isImmediate (request : Request) : Bool :=
  request.multiply.isSome || request.verify.isSome || request.inspect

/-- The step limit that the request puts in place of another; one that is not above zero is none. -/
def stepLimit (request : Request) (preferred : Option Int) : Except Failure (Option Int) :=
  match request.maxSteps with
  | .absent => .ok preferred
  | .blank => .error (.noValue .positiveLimit)
  | .value limit => .ok (if 0 < limit then some limit else none)

/-- The preferences with the request's overrides. -/
def override (request : Request) (preferences : Preferences) : Except Failure Preferences := do
  let maxSteps ← request.stepLimit preferences.maxSteps
  let programPath := (request.program.map RawText.ofString).getD preferences.programPath
  return { preferences with programPath, maxSteps }

end Request

/-- The path of the settings, or the end of the program if it was named without a value. -/
def requireSettingsPath (path : Option String) : App String :=
  match path with
  | some path => pure path
  | none =>
      endWith 1 ("Error: invalid configuration: " ++ (Failure.noValue .settingsPath).message)

/-- Do what the command line asks for: inspect, multiply, verify, in this order. -/
def runRequest (request : Request) (settingsPath : String) : App Unit := do
  let (_, loaded) ← loadRuntimeSettings settingsPath request.verbose
  let preferences ← orFail id (request.override loaded)
  if request.inspect then print (← loadTable preferences.programPath).listing
  match request.multiply with
  | none => pure ()
  | some text =>
      match parseOperands text with
      | .error error => endWith 2 ("Error: " ++ error.message)
      | .ok (a, b) =>
          let table ← loadTable preferences.programPath
          runMultiplication preferences table a b (request.showSteps || preferences.showSteps)
  match request.verify with
  | none => pure ()
  | some largest => runVerification preferences largest false

/-- The multiplier: what the options ask for, or the menu. -/
def multiplierCommand (arguments : List String) : App Unit := do
  let request := Request.ofOptions (← requireOptions multiplierOptions arguments)
  let settingsPath ← requireSettingsPath request.configPath
  if request.isImmediate then runRequest request settingsPath else menu settingsPath

/-- The tool that prints a program. -/
def inspectCommand (arguments : List String) : App Unit := do
  let options ← requireOptions [⟨"--program", .text⟩] arguments
  let path ← required .path ((lastText options "--program").orStandard Bundled.programPath)
  let table ← loadProgram path
  printLine ("[INFO] Program " ++ path)
  printLine ("  Transitions: " ++ Text.decimal table.size)
  printLine ("  States: " ++ Text.decimal table.states.length)
  print table.listing

/-- The options of the verification tool. -/
def verifyOptions : List OptionSpec :=
  [⟨"--program", .text⟩, ⟨"--grid_max", .integer⟩, ⟨"--batch_size", .integer⟩,
   ⟨"--max_steps", .integer⟩, ⟨"--tape_size", .integer⟩, ⟨"--results", .text⟩,
   ⟨"--engine", .flag⟩, ⟨"--log_dir", .text⟩]

/-- The verification that the options describe; where they are silent, a standard task fills in. -/
def GridRequest.ofOptions (options : List (String × OptionValue)) : GridRequest :=
  let standard := GridTask.standard Bundled.programPath
  { programPath := ((lastText options "--program").map RawText.ofString).orStandard
      standard.programPath
    gridMax := (lastInteger options "--grid_max").orStandard standard.gridMax
    batchSize := (lastInteger options "--batch_size").orStandard standard.batchSize
    maxSteps := (lastInteger options "--max_steps").orStandard standard.maxSteps
    tapeSize := (lastInteger options "--tape_size").orStandard standard.tapeSize
    resultsRoot := ((lastText options "--results").map RawText.ofString).orStandard
      standard.resultsRoot
    useEngine := hasFlag options "--engine" }

/-- The tool that verifies a grid. -/
def verifyCommand (arguments : List String) : App Unit := do
  let options ← requireOptions verifyOptions arguments
  openJournal (← required .path ((lastText options "--log_dir").orStandard "logs/"))
    "multiplication_"
  let _ ← (GridRequest.ofOptions options).verify

end TapeMultiplier
