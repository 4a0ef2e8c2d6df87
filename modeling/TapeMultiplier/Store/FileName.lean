/-
Module: TapeMultiplier.Store.FileName
Layer: Store
Purpose: Names as a directory holds them.  A name is bytes: the UTF-8 form of its characters, and single
  bytes for the halves that stand for such.  Different texts may therefore be the same name.
Main exports: FileName, FileName.ofText, FileName.toText, RawText.bytes, RawText.exceeds
-/
import TapeMultiplier.Text.Raw
import TapeMultiplier.Text.Utf8

namespace TapeMultiplier

/-- The bytes of an element of a name; a half that stands for no byte has none. -/
def RawChar.bytes : RawChar → List UInt8
  | char c => String.utf8EncodeChar c
  | half distance => (byteOf? distance).toList

/-- The bytes of a text. -/
def RawText.bytes (raw : RawText) : List UInt8 :=
  raw.elements.flatMap RawChar.bytes

/-- The number of bytes of an element. -/
def RawChar.size : RawChar → Nat
  | char c => c.utf8Size
  | half distance => if (byteOf? distance).isSome then 1 else 0

/-- The size of an element counts its bytes. -/
theorem RawChar.length_bytes (element : RawChar) : element.bytes.length = element.size := by
  cases element with
  | char c => simp [bytes, size]
  | half distance =>
      simp only [bytes, size]
      cases byteOf? distance <;> rfl

/-- Whether elements have more bytes than a limit; no more of them are looked at than decide it. -/
def elementsExceed : Nat → List RawChar → Bool
  | _, [] => false
  | limit, element :: rest =>
      limit < element.size || elementsExceed (limit - element.size) rest

/-- Whether a text has more bytes than a limit. -/
def RawText.exceeds (raw : RawText) (limit : Nat) : Bool :=
  elementsExceed limit raw.elements

/-- A text exceeds a limit if its bytes are more. -/
theorem RawText.exceeds_eq (raw : RawText) (limit : Nat) :
    raw.exceeds limit = decide (limit < raw.bytes.length) := by
  have counted : ∀ (elements : List RawChar) (limit : Nat),
      elementsExceed limit elements =
        decide (limit < (elements.flatMap RawChar.bytes).length) := by
    intro elements
    induction elements with
    | nil => intro limit; rfl
    | cons element rest ih =>
        intro limit
        rw [elementsExceed, ih, List.flatMap_cons, List.length_append, RawChar.length_bytes,
          ← Bool.decide_or]
        exact decide_eq_decide.2 (by omega)
  exact counted raw.elements limit

/-- A name in a directory. -/
structure FileName where
  bytes : List UInt8
deriving Repr, Inhabited, DecidableEq

namespace FileName

/-- The name that a text is. -/
def ofText (raw : RawText) : FileName :=
  ⟨raw.bytes⟩

/-- The name by which a directory holds itself. -/
def itself : FileName :=
  ⟨[0x2E]⟩

/-- The name by which a directory holds the one above it. -/
def above : FileName :=
  ⟨[0x2E, 0x2E]⟩

/-- The number of bytes. -/
def size (name : FileName) : Nat :=
  name.bytes.length

/-- The character of a sequence: `first` announces the bytes behind it. -/
def sequenceChar (first : UInt8) : List UInt8 → Char
  | [] => Char.ofNat first.toNat
  | others =>
      Char.ofNat (others.foldl (fun number byte => number * 64 + byte.toNat % 64)
        (first.toNat % Nat.pow 2 (6 - others.length)))

/-- The elements that bytes stand for; the first argument bounds them.  A byte that starts no sequence
is a half. -/
def elementsOf : Nat → List UInt8 → List RawChar
  | 0, _ => []
  | _ + 1, [] => []
  | fuel + 1, first :: rest =>
      match Text.sequenceLength first with
      | 0 => .ofByte first :: elementsOf fuel rest
      | due + 1 =>
          match Text.checkContinuation first 0 due rest with
          | .ok behind => .char (sequenceChar first (rest.take due)) :: elementsOf fuel behind
          | .error _ => .ofByte first :: elementsOf fuel rest

/-- A text that stands for the name. -/
def toText (name : FileName) : RawText :=
  ⟨elementsOf name.size name.bytes⟩

end FileName

end TapeMultiplier
