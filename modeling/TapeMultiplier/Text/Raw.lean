/-
Module: TapeMultiplier.Text.Raw
Layer: Text
Purpose: Texts as a document can spell them.  An escape names a 16-bit unit, and one half of a pair of
  units may be named without the other.  Such a half is no character, but it is kept, compared and
  written back.  Some halves stand for the bytes of file names that are no UTF-8; a file cannot be
  named with the others.
Main exports: RawChar, RawText, RawText.ofString, RawText.shown, RawText.quoted, RawText.precedes,
  HalfFault, RawText.nameFault?
-/
import TapeMultiplier.Text.Integer

namespace TapeMultiplier

/-- An element of a raw text. -/
inductive RawChar where
  | char (c : Char)
  /-- A half that stands alone, by its distance from the first half, which is the unit 0xD800. -/
  | half (distance : Fin 2048)
deriving Repr, Inhabited, DecidableEq

namespace RawChar

/-- The element that a single 16-bit unit stands for. -/
def ofUnit (unit : Nat) : RawChar :=
  if 0xD800 ≤ unit ∧ unit ≤ 0xDFFF then half (Fin.ofNat 2048 (unit - 0xD800))
  else char (Char.ofNat unit)

/-- The unit of a half. -/
def unitOf (distance : Fin 2048) : Nat :=
  0xD800 + distance.val

/-- The half that stands for a byte in a file name. -/
def ofByte (byte : UInt8) : RawChar :=
  half (Fin.ofNat 2048 (0x400 + byte.toNat))

/-- The byte that a half stands for in a file name: only bytes beyond ASCII have a half. -/
def byteOf? (distance : Fin 2048) : Option UInt8 :=
  if 0x480 ≤ distance.val ∧ distance.val ≤ 0x4FF then some (UInt8.ofNat (distance.val - 0x400))
  else none

/-- The number of an element in the order of texts. -/
def number : RawChar → Nat
  | char c => c.toNat
  | half distance => unitOf distance

/-- Whether an element is no character. -/
def isHalf : RawChar → Bool
  | char _ => false
  | half _ => true

/-- The character, if the element is one. -/
def char? : RawChar → Option Char
  | char c => some c
  | half _ => none

/-- An element as it is printed: a half is printed as the replacement character. -/
def shown : RawChar → Char
  | char c => c
  | half _ => Char.ofNat 0xFFFD

/-- An element inside quotes: a half is given by its number. -/
def quoted (quote : Char) : RawChar → List Char
  | char c => Text.quotedChar quote c
  | half distance => '\x5c' :: 'u' :: Text.hexDigits 4 (unitOf distance)

end RawChar

/-- A text that may hold halves. -/
structure RawText where
  elements : List RawChar
deriving Repr, Inhabited, DecidableEq

/-- Why a raw text names no file: halves in it, from one that stands for no byte to the end of their
run. -/
structure HalfFault where
  distance : Fin 2048
  position : Nat
  length : Nat
deriving Repr, Inhabited, DecidableEq

/-- The wording of the fault. -/
def HalfFault.message (fault : HalfFault) : String :=
  let place :=
    if fault.length = 1 then
      "character '" ++ String.ofList ((RawChar.half fault.distance).quoted '\x27') ++
        "' in position " ++ Text.decimal fault.position
    else
      "characters in position " ++ Text.decimal fault.position ++ "-" ++
        Text.decimal (fault.position + fault.length - 1)
  "'utf-8' codec can't encode " ++ place ++ ": surrogates not allowed"

namespace RawText

/-- A text without halves. -/
def ofString (text : String) : RawText :=
  ⟨text.toList.map .char⟩

instance : Coe String RawText where
  coe := ofString

instance : Append RawText where
  append left right := ⟨left.elements ++ right.elements⟩

/-- Whether there is nothing in a text. -/
def isEmpty (raw : RawText) : Bool :=
  raw.elements.isEmpty

/-- Texts with another between each two of them. -/
def joined (between : RawText) (texts : List RawText) : RawText :=
  ⟨(List.intersperse between.elements (texts.map elements)).flatten⟩

/-- The text as it is printed. -/
def shown (raw : RawText) : String :=
  String.ofList (raw.elements.map RawChar.shown)

/-- The text in quotes. -/
def quoted (raw : RawText) : String :=
  let quote := Text.quoteFor (raw.elements.filterMap RawChar.char?)
  String.ofList (quote :: raw.elements.flatMap (RawChar.quoted quote) ++ [quote])

/-- The fault in elements that start at a position. -/
def faultFrom? (position : Nat) : List RawChar → Option HalfFault
  | [] => none
  | .char _ :: rest => faultFrom? (position + 1) rest
  | .half distance :: rest =>
      if (RawChar.byteOf? distance).isSome then faultFrom? (position + 1) rest
      else some { distance, position, length := (rest.takeWhile RawChar.isHalf).length + 1 }

/-- Why the text names no file. -/
def nameFault? (raw : RawText) : Option HalfFault :=
  faultFrom? 0 raw.elements

/-- Whether elements come before others or are the same, by their numbers. -/
def elementsPrecede : List RawChar → List RawChar → Bool
  | [], _ => true
  | _ :: _, [] => false
  | left :: lefts, right :: rights =>
      left.number < right.number || (left.number == right.number && elementsPrecede lefts rights)

/-- Whether a text comes before another or is the same. -/
def precedes (left right : RawText) : Bool :=
  elementsPrecede left.elements right.elements

/-- What is printed of a text without halves is the text itself. -/
theorem shown_ofString (text : String) : (ofString text).shown = text := by
  simp [ofString, shown, List.map_map, Function.comp_def, RawChar.shown]

end RawText

end TapeMultiplier
