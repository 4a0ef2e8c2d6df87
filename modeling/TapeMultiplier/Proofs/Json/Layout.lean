/-
Module: TapeMultiplier.Proofs.Json.Layout
Layer: Proofs
Purpose: The characters of JSON texts: printable ASCII, and line breaks where a text is indented.
Main exports: Json.isPrinted, Json.isLaidOut, Json.all_isLaidOut_render
-/
import TapeMultiplier.Proofs.Json.RoundTrip

namespace TapeMultiplier

namespace Json

/-- Whether a character is printable ASCII. -/
def isPrinted (c : Char) : Bool :=
  0x20 ≤ c.toNat && c.toNat < 0x7F

theorem all_isPrinted_escapeUnit (unit : Nat) : (escapeUnit unit).all isPrinted = true := by
  have digit : ∀ value : Fin 16, isPrinted (Text.hexDigit value.val) = true := by decide
  have digits : ∀ width value, (Text.hexDigits width value).all isPrinted = true := by
    intro width
    induction width with
    | zero => intro value; rfl
    | succ width ih =>
        intro value
        rw [Text.hexDigits, List.all_append, ih, Bool.true_and, List.all_cons, List.all_nil,
          Bool.and_true]
        exact digit ⟨value % 16, Nat.mod_lt _ (by decide)⟩
  rw [escapeUnit, List.all_cons, List.all_cons, digits]
  rfl

theorem all_isPrinted_escapeChar (c : Char) : (escapeChar c).all isPrinted = true := by
  unfold escapeChar
  split
  · next special => rcases special with rfl | rfl <;> rfl
  iterate 5
    split
    · rfl
  split
  · next printed => simp [isPrinted, printed]
  split
  · exact all_isPrinted_escapeUnit _
  · rw [List.all_append, all_isPrinted_escapeUnit, all_isPrinted_escapeUnit]
    rfl

theorem all_isPrinted_writeString (text : RawText) : (writeString text).all isPrinted = true := by
  have elements : ∀ elements : List RawChar,
      (elements.flatMap escapeElement).all isPrinted = true := by
    intro elements
    induction elements with
    | nil => rfl
    | cons element elements ih =>
        rw [List.flatMap_cons, List.all_append, ih, Bool.and_true]
        cases element with
        | char c => exact all_isPrinted_escapeChar c
        | half distance => exact all_isPrinted_escapeUnit _
  rw [writeString, List.all_append, List.all_cons, elements]
  rfl

theorem all_isPrinted_of_isDigit {digits : List Char} (plain : ∀ c ∈ digits, c.isDigit = true) :
    digits.all isPrinted = true := by
  rw [List.all_eq_true]
  intro c member
  obtain ⟨digit, rfl⟩ := Text.exists_digitChar (plain c member)
  clear member
  revert digit
  decide

theorem all_isPrinted_decimalInt (value : Int) :
    (Text.decimalInt value).toList.all isPrinted = true := by
  have digits : (Text.decimalDigits value.natAbs).all isPrinted = true :=
    all_isPrinted_of_isDigit fun _ member => Text.isDigit_of_mem_decimalDigits member
  rcases Int.lt_or_le value 0 with negative | nonneg
  · rw [Text.toList_decimalInt_of_neg negative, List.all_cons, digits]
    rfl
  · rw [Text.toList_decimalInt_of_nonneg nonneg, digits]

theorem all_isPrinted_renderDecimal (layout : Layout) (value : Decimal) :
    (layout.renderDecimal value).all isPrinted = true := by
  have plain : ∀ c ∈ Text.decimalDigits value.digits, c.isDigit = true := fun c member =>
    Text.isDigit_of_mem_decimalDigits member
  have all := all_isPrinted_of_isDigit plain
  have taken (count : Nat) := all_isPrinted_of_isDigit fun c member =>
    plain c (List.mem_of_mem_take (i := count) member)
  have dropped (count : Nat) := all_isPrinted_of_isDigit fun c member =>
    plain c (List.mem_of_mem_drop (i := count) member)
  have zeros (count : Nat) := all_isPrinted_of_isDigit (@isDigit_of_mem_replicate count)
  simp only [Layout.renderDecimal]
  split
  · rfl
  split
  · rw [Layout.positional]
    split
    · rw [List.all_append, List.all_cons, List.all_cons, zeros, all]
      rfl
    simp only
    split
    · rw [List.all_append, List.all_append, all, zeros]
      rfl
    · rw [List.all_append, List.all_cons, taken, dropped]
      rfl
  · have power (width size : Nat) := all_isPrinted_of_isDigit (@isDigit_of_mem_padded width size)
    have rest := dropped 1
    rw [Layout.scientific, List.all_append, List.all_append, taken, List.all_cons, List.all_cons, power]
    split
    · split <;> rfl
    · rw [List.all_cons, rest]
      split <;> rfl

theorem all_isPrinted_float (x : Float) : (documentLayout.render x).toList.all isPrinted = true := by
  cases size : Magnitude.ofFloat x with
  | mk negative magnitude =>
  cases magnitude with
  | undefined =>
      rw [toList_render_undefined size]
      rfl
  | infinite =>
      rw [toList_render_infinite size]
      cases negative <;> rfl
  | finite value =>
      have printed := all_isPrinted_renderDecimal documentLayout value.shortest
      rw [toList_render_finite size]
      cases negative with
      | false => exact printed
      | true =>
          rw [if_pos rfl, List.all_cons, printed]
          rfl

/-- A character of a text that is laid out on one line or on several. -/
def isLaidOut (indent : Option Nat) (c : Char) : Bool :=
  isPrinted c || (indent.isSome && c == '\n')

theorem all_isLaidOut {indent : Option Nat} {text : List Char} (printed : text.all isPrinted = true) :
    text.all (isLaidOut indent) = true := by
  rw [List.all_eq_true] at printed ⊢
  intro c member
  rw [isLaidOut, printed c member]
  rfl

theorem all_isLaidOut_lineBreak (indent : Option Nat) (level : Nat) :
    (lineBreak indent level).all (isLaidOut indent) = true := by
  cases indent with
  | none => rfl
  | some width =>
      rw [lineBreak, List.all_cons, List.all_replicate]
      simp [isLaidOut, isPrinted]

theorem all_isLaidOut_separator (indent : Option Nat) (level : Nat) :
    (separator indent level).all (isLaidOut indent) = true := by
  cases indent with
  | none => rfl
  | some width =>
      rw [separator, List.all_cons, all_isLaidOut_lineBreak]
      rfl

mutual

/-- The text of a value is printable ASCII, and line breaks if it is indented. -/
theorem all_isLaidOut_render (indent : Option Nat) :
    ∀ (value : Json) (level : Nat),
      (render indent level value).all (isLaidOut indent) = true
  | null, level => by
      rw [render]
      exact all_isLaidOut rfl
  | bool true, level => by
      rw [render]
      exact all_isLaidOut rfl
  | bool false, level => by
      rw [render]
      exact all_isLaidOut rfl
  | int value, level => by
      rw [render]
      exact all_isLaidOut (all_isPrinted_decimalInt value)
  | float value, level => by
      rw [render]
      exact all_isLaidOut (all_isPrinted_float value)
  | string text, level => by
      rw [render]
      exact all_isLaidOut (all_isPrinted_writeString text)
  | list [], level => by
      rw [render]
      exact all_isLaidOut rfl
  | list (item :: items), level => by
      simp only [render, List.all_append, List.all_cons, List.all_nil, all_isLaidOut_lineBreak,
        all_isLaidOut_render indent item (level + 1),
        all_isLaidOut_renderItems indent items (level + 1)]
      rfl
  | object [], level => by
      rw [render]
      exact all_isLaidOut rfl
  | object ((name, value) :: fields), level => by
      simp only [render, List.all_append, List.all_cons, List.all_nil, all_isLaidOut_lineBreak,
        all_isLaidOut (all_isPrinted_writeString name),
        all_isLaidOut_render indent value (level + 1),
        all_isLaidOut_renderFields indent fields (level + 1)]
      rfl

theorem all_isLaidOut_renderItems (indent : Option Nat) :
    ∀ (items : List Json) (level : Nat),
      (renderItems indent level items).all (isLaidOut indent) = true
  | [], level => rfl
  | item :: items, level => by
      simp only [renderItems, List.all_append, all_isLaidOut_separator,
        all_isLaidOut_render indent item level,
        all_isLaidOut_renderItems indent items level]
      rfl

theorem all_isLaidOut_renderFields (indent : Option Nat) :
    ∀ (fields : List (RawText × Json)) (level : Nat),
      (renderFields indent level fields).all (isLaidOut indent) = true
  | [], level => rfl
  | (name, value) :: fields, level => by
      simp only [renderFields, List.all_append, List.all_cons, all_isLaidOut_separator,
        all_isLaidOut (all_isPrinted_writeString name),
        all_isLaidOut_render indent value level,
        all_isLaidOut_renderFields indent fields level]
      rfl

end

/-! ### Documents -/

theorem toList_writeIndented (value : Json) : value.writeIndented.toList = render (some 4) 0 value :=
  String.toList_ofList

theorem toList_write (value : Json) : value.write.toList = render none 0 value :=
  String.toList_ofList

theorem notMem_write (value : Json) {c : Char} (unprinted : isPrinted c = false) :
    c ∉ value.write.toList := by
  rw [toList_write]
  intro member
  have laidOut := List.all_eq_true.mp (all_isLaidOut_render none value 0) c member
  rw [isLaidOut, unprinted] at laidOut
  cases laidOut

theorem write_ne_nil (value : Json) : value.write.toList ≠ [] := by
  obtain ⟨c, more, leads, -⟩ := exists_render none 0 value
  rw [toList_write, leads]
  exact List.cons_ne_nil c more

theorem notMem_writeIndented (value : Json) : '\r' ∉ value.writeIndented.toList := by
  rw [toList_writeIndented]
  intro member
  exact absurd (List.all_eq_true.mp (all_isLaidOut_render (some 4) value 0) _ member) (by decide)

end Json

end TapeMultiplier
