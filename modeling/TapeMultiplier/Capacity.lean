/-
Module: TapeMultiplier.Capacity
Layer: Model
Purpose: What a machine of finite size can hold.  Tapes, program texts and buffers are unbounded in the
  model; here stand the limits, and the checks that are made before one of them is laid out.
Main exports: CapacityError, checkRun, checkTape, checkTransitions, checkBuffers, checkBatch,
  checkTasks, checkCells
-/
import TapeMultiplier.Batch
import TapeMultiplier.ProgramText

namespace TapeMultiplier

/-!
The checks answer nothing but whether there is room.  Each stops where the work itself would stop for
another reason (a factor that is refused, a state name without a number), so that the reason that comes
first is the one that is given.
-/

/-- Why there is no room. -/
inductive CapacityError where
  /-- A length is no machine word. -/
  | noWord
  /-- A text is too long for the memory. -/
  | memory
  /-- A side of the buffers is no machine word. -/
  | dimension
  /-- The number of bytes in the buffers is no machine word. -/
  | arraySize
  /-- The buffers are too large for the memory. -/
  | buffers (rows : Nat) (columns : Int)
  /-- A number is too large for a cell. -/
  | cell (value : Int)
  /-- A number for a cell is no machine word. -/
  | cellWord
  /-- A number has too many digits for a decimal form. -/
  | digits
deriving Repr, DecidableEq

/-- The length from which on a text does not fit the memory. -/
def textLimit : Int := 4294967296

/-- The number of bytes from which on buffers do not fit the memory. -/
def bufferLimit : Nat := 274877906944

/-- The number of bytes of a buffer's cell. -/
def cellBytes : Nat := 4

/-- Check a run of one character; a run of negative length is empty. -/
def checkRun (length : Int) : Except CapacityError Unit :=
  if !fitsIndex length then .error .noWord
  else if textLimit ≤ length then .error .memory
  else .ok ()

/-- Check the starting tape for two factors. -/
def checkTape (a b : Int) : Except CapacityError Unit := do
  checkRun a
  checkRun b

/-- Check the run of a state; a name without a number has none. -/
def checkState (name : String) : Except CapacityError Bool :=
  match stateNumber name with
  | .error _ => .ok false
  | .ok number => do
      checkRun (number + 1)
      return true

/-- Check the runs of transitions in turn, up to the first state name without a number. -/
def checkTransitions : List Transition → Except CapacityError Unit
  | [] => .ok ()
  | t :: rest => do
      if !(← checkState t.source) then return ()
      if !(← checkState t.target) then return ()
      checkTransitions rest

/-- Check buffers for a number of tasks: the sides, then the number of bytes, in which a side of length
zero does not count, then the bytes that are really held.  A negative side is not judged here. -/
def checkBuffers (rows : Nat) (columns : Int) : Except CapacityError Unit :=
  if !fitsIndex columns then .error .dimension
  else if !fitsIndex (cellBytes * max rows 1 * max columns.toNat 1) then .error .arraySize
  else if bufferLimit ≤ cellBytes * rows * columns.toNat then .error (.buffers rows columns)
  else .ok ()

/-- Check the starting tapes of tasks in turn, up to the first task that is refused: factors have to be
positive, and the starting tape has to fit the second half of a buffer, if there are buffers. -/
def checkTasks (tapeSize : Option Int) : List (Int × Int) → Except CapacityError Unit
  | [] => .ok ()
  | (a, b) :: rest =>
      if a ≤ 0 ∨ b ≤ 0 then .ok ()
      else do
        checkTape a b
        match tapeSize with
        | some size =>
            if size < size.fdiv 2 + (a + b + 3) then return () else checkTasks tapeSize rest
        | none => checkTasks tapeSize rest

/-- Check a batch: its buffers, then its starting tapes. -/
def checkBatch (tasks : List (Int × Int)) (tapeSize : Int) : Except CapacityError Unit := do
  checkBuffers tasks.length tapeSize
  if tapeSize < 0 then return ()
  checkTasks (some tapeSize) tasks

/-- Whether a number fits a signed cell of 32 bits. -/
def fitsCell (value : Int) : Bool :=
  decide (-2147483648 ≤ value) && decide (value ≤ 2147483647)

/-- Check numbers that are to become cells. -/
def checkCells : List Int → Except CapacityError Unit
  | [] => .ok ()
  | value :: rest =>
      if !fitsIndex value then .error .cellWord
      else if !fitsCell value then .error (.cell value)
      else checkCells rest

/-! ### Sizes as they are reported -/

/-- The units of size, each 1024 times the one before it. -/
def sizeUnits : List String :=
  ["bytes", "KiB", "MiB", "GiB", "TiB", "PiB", "EiB"]

/-- A quotient to the nearest whole number; a tie goes to the even neighbour. -/
def nearestQuotient (numerator denominator : Nat) : Nat :=
  let whole := numerator / denominator
  let rest := 2 * (numerator % denominator)
  if rest < denominator then whole
  else if denominator < rest then whole + 1
  else if whole % 2 = 0 then whole
  else whole + 1

/-- A quotient with a number of places behind the point, which is written also without places. -/
def pointText (numerator denominator places : Nat) : String :=
  let scaled := nearestQuotient (numerator * Nat.pow 10 places) denominator
  let power := Nat.pow 10 places
  Text.decimal (scaled / power) ++ "." ++
    if places = 0 then "" else Text.padded places (scaled % power)

/-- A quotient with three digits, or with all digits of its whole part if that has more. -/
def threeDigits (numerator denominator : Nat) : String :=
  if nearestQuotient (numerator * 100) denominator < 1000 then pointText numerator denominator 2
  else if nearestQuotient (numerator * 10) denominator < 1000 then pointText numerator denominator 1
  else pointText numerator denominator 0

/-- The unit in which a size is reported: the largest that the size reaches, or the next one if the
size is rounded up to it. -/
def sizeUnit (bytes : Nat) : Nat :=
  let unit := bytes.log2 / 10
  if nearestQuotient bytes (Nat.pow 1024 unit) = 1024 then unit + 1 else unit

/-- A size with its unit. -/
def sizeText (bytes : Nat) : String :=
  let unit := sizeUnit bytes
  let number :=
    if unit = 0 then Text.decimal bytes else threeDigits bytes (Nat.pow 1024 unit)
  number ++ " " ++ sizeUnits.getD unit "EiB"

/-- The wording of the error. -/
def CapacityError.message : CapacityError → String
  | noWord => IndexFault.noWordText
  | memory => ""
  | dimension => "Maximum allowed dimension exceeded"
  | arraySize =>
      "array is too big; `arr.size * arr.dtype.itemsize` is larger than the maximum possible size."
  | buffers rows columns =>
      "Unable to allocate " ++ sizeText (cellBytes * rows * columns.toNat) ++
        " for an array with shape (" ++ Text.decimal rows ++ ", " ++ Text.decimalInt columns ++
        ") and data type int32"
  | cell value => "Python integer " ++ Text.decimalInt value ++ " out of bounds for int32"
  | cellWord => "Python int too large to convert to C long"
  | digits =>
      s!"Exceeds the limit ({Text.digitLimit} digits) for integer string conversion; " ++
        "use sys.set_int_max_str_digits() to increase the limit"

end TapeMultiplier
