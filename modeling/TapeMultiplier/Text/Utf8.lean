/-
Module: TapeMultiplier.Text.Utf8
Layer: Text
Purpose: Texts in files.  Bytes that are no UTF-8 are reported with the first sequence at fault.
Main exports: Utf8Fault, decodeUtf8
-/
import TapeMultiplier.Text.Integer

namespace TapeMultiplier.Text

/-- What is wrong with a sequence of bytes. -/
inductive Utf8Reason where
  | invalidStart
  | invalidContinuation
  | unexpectedEnd
deriving Repr, Inhabited, DecidableEq

/-- The reason in words. -/
def Utf8Reason.text : Utf8Reason → String
  | invalidStart => "invalid start byte"
  | invalidContinuation => "invalid continuation byte"
  | unexpectedEnd => "unexpected end of data"

/-- The first faulty sequence: its first byte, its position, its length and what is wrong. -/
structure Utf8Fault where
  byte : UInt8
  position : Nat
  length : Nat
  reason : Utf8Reason
deriving Repr, Inhabited, DecidableEq

/-- The wording of the fault. -/
def Utf8Fault.message (fault : Utf8Fault) : String :=
  let place :=
    if fault.length = 1 then
      "byte 0x" ++ String.ofList (hexDigits 2 fault.byte.toNat) ++ " in position " ++
        decimal fault.position
    else
      "bytes in position " ++ decimal fault.position ++ "-" ++
        decimal (fault.position + fault.length - 1)
  "'utf-8' codec can't decode " ++ place ++ ": " ++ fault.reason.text

/-- A byte that continues a sequence. -/
def isContinuation (byte : UInt8) : Bool :=
  0x80 ≤ byte && byte < 0xC0

/-- Whether a second byte may follow a first one: over-long forms, surrogates and numbers beyond the
last character are ruled out here. -/
def isSecond (first second : UInt8) : Bool :=
  isContinuation second &&
    !(first == 0xE0 && second < 0xA0) && !(first == 0xED && 0xA0 ≤ second) &&
    !(first == 0xF0 && second < 0x90) && !(first == 0xF4 && 0x90 ≤ second)

/-- The number of bytes that a first byte announces; zero if it is no first byte. -/
def sequenceLength (first : UInt8) : Nat :=
  if first < 0x80 then 1
  else if first < 0xC2 then 0
  else if first < 0xE0 then 2
  else if first < 0xF0 then 3
  else if first < 0xF5 then 4
  else 0

/-- Check the bytes after the first one: `passed` of them were right, `left` are still due. -/
def checkContinuation (first : UInt8) (passed : Nat) :
    Nat → List UInt8 → Except (Nat × Utf8Reason) (List UInt8)
  | 0, rest => .ok rest
  | _ + 1, [] => .error (passed + 1, .unexpectedEnd)
  | left + 1, byte :: rest =>
      if passed = 0 && !isSecond first byte || !isContinuation byte then
        .error (passed + 1, .invalidContinuation)
      else checkContinuation first (passed + 1) left rest

/-- The first fault in bytes that start at a position; the first argument bounds the sequences. -/
def firstUtf8Fault : Nat → Nat → List UInt8 → Option Utf8Fault
  | 0, _, _ => none
  | _ + 1, _, [] => none
  | fuel + 1, position, first :: rest =>
      match sequenceLength first with
      | 0 => some { byte := first, position, length := 1, reason := .invalidStart }
      | due + 1 =>
          match checkContinuation first 0 due rest with
          | .error (length, reason) => some { byte := first, position, length, reason }
          | .ok rest => firstUtf8Fault fuel (position + due + 1) rest

/-- The text of UTF-8 bytes. -/
def decodeUtf8 (content : ByteArray) : Except Utf8Fault String :=
  match String.fromUTF8? content with
  | some text => .ok text
  | none =>
      let bytes := content.toList
      .error ((firstUtf8Fault bytes.length 0 bytes).getD default)

end TapeMultiplier.Text
