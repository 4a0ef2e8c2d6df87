/-
Module: TapeMultiplier.Proofs.Json.Floats
Layer: Proofs
Purpose: Every float is read from its text in a document, the undefined and the infinite ones and both zeros
  included.
Main exports: Json.Reads, Json.Spelled, Json.reads_renderDecimal, Json.readScalar_float
-/
import TapeMultiplier.Proofs.Decimal.Shortest
import TapeMultiplier.Proofs.Json.Scalars

namespace TapeMultiplier

namespace Json

/-! ### Numbers with a point or an exponent -/

section

variable {whole fraction power rest : List Char}

theorem readFraction_digits (nonempty : fraction ≠ []) (digits : ∀ c ∈ fraction, c.isDigit = true)
    (stops : ∀ c ∈ rest.head?, isNumeral c = false) :
    readFraction ('.' :: (fraction ++ rest)) = (fraction.map numeralValue, rest) := by
  have spanned := spanDigits_append digits stops
  obtain ⟨c, more, rfl⟩ := List.exists_cons_of_ne_nil nonempty
  rw [List.map_cons] at spanned
  simp only [readFraction, spanned, List.map_cons]

/-- The number that digits with a point between them stand for. -/
def pointedNumber (whole fraction : List Char) (power : Int) : Decimal :=
  ⟨Nat.ofDigitChars 10 (whole ++ fraction) 0, power - fraction.length⟩

theorem ofDigits_append_map (whole fraction : List Char) :
    Text.ofDigits (whole.map numeralValue ++ fraction.map numeralValue) =
      Nat.ofDigitChars 10 (whole ++ fraction) 0 := by
  rw [← List.map_append]
  exact Text.ofDigits_map (whole ++ fraction)

theorem ne_nil_of_plain (plain : Text.isPlainNumeral whole = true) : whole ≠ [] := by
  rintro rfl
  cases plain

theorem readUnsigned_point (negative : Bool) (plain : Text.isPlainNumeral whole = true)
    (nonempty : fraction ≠ []) (digits : ∀ c ∈ fraction, c.isDigit = true)
    (ends : endsNumber rest = true) :
    readUnsigned negative (whole ++ '.' :: (fraction ++ rest)) =
      .ok (.float (Decimal.toFloat negative (pointedNumber whole fraction 0)), rest) := by
  have wholeRead := readWhole_plain plain (show ∀ c ∈ ('.' :: (fraction ++ rest)).head?, isNumeral c = false by
    simp [isNumeral])
  have fractionRead := readFraction_digits nonempty digits (stops_of_ends ends)
  have number := ofDigits_append_map whole fraction
  obtain ⟨c, others, rfl⟩ := List.exists_cons_of_ne_nil (ne_nil_of_plain plain)
  obtain ⟨d, more, rfl⟩ := List.exists_cons_of_ne_nil nonempty
  rw [readUnsigned, wholeRead]
  simp only [List.map_cons] at fractionRead number ⊢
  simp only [fractionRead, readExponent_of_ends ends, List.isEmpty_cons, Bool.false_and,
    Bool.false_eq_true, if_false, number, Option.getD_none, pointedNumber, List.length_cons,
    List.length_map]

/-- A fraction with its point, if there is one. -/
def pointed : List Char → List Char
  | [] => []
  | digits => '.' :: digits

theorem readFraction_pointed (digits : ∀ c ∈ fraction, c.isDigit = true) (more : List Char) :
    readFraction (pointed fraction ++ 'e' :: more) = (fraction.map numeralValue, 'e' :: more) := by
  cases fraction with
  | nil => rfl
  | cons c others =>
      exact readFraction_digits (List.cons_ne_nil c others) digits (by simp [isNumeral])

/-- The sign of an exponent. -/
def exponentSign (down : Bool) : Char :=
  if down then '-' else '+'

theorem readExponent_digits (down : Bool) (nonempty : power ≠ [])
    (digits : ∀ c ∈ power, c.isDigit = true) (ends : endsNumber rest = true) :
    readExponent ('e' :: exponentSign down :: (power ++ rest)) =
      (some (if down then -(Nat.ofDigitChars 10 power 0 : Int) else Nat.ofDigitChars 10 power 0), rest) := by
  have spanned := spanDigits_append digits (stops_of_ends ends)
  have number := Text.ofDigits_map power
  have sign : Text.splitSign (exponentSign down :: (power ++ rest)) = (down, power ++ rest) := by
    cases down <;> rfl
  obtain ⟨c, others, rfl⟩ := List.exists_cons_of_ne_nil nonempty
  have number : Text.ofDigits ((c :: others).map numeralValue) = Nat.ofDigitChars 10 (c :: others) 0 := number
  rw [List.map_cons] at spanned number
  simp only [readExponent, true_or, if_true, sign, spanned, number]

theorem readUnsigned_exponent (negative down : Bool) (plain : Text.isPlainNumeral whole = true)
    (digits : ∀ c ∈ fraction, c.isDigit = true) (nonempty : power ≠ [])
    (powerDigits : ∀ c ∈ power, c.isDigit = true) (ends : endsNumber rest = true) :
    readUnsigned negative
        (whole ++ (pointed fraction ++ 'e' :: exponentSign down :: (power ++ rest))) =
      .ok (.float (Decimal.toFloat negative (pointedNumber whole fraction
        (if down then -(Nat.ofDigitChars 10 power 0 : Int) else Nat.ofDigitChars 10 power 0))), rest) := by
  have stops : ∀ c ∈ (pointed fraction ++ 'e' :: exponentSign down :: (power ++ rest)).head?,
      isNumeral c = false := by
    cases fraction with
    | nil => simp [pointed, isNumeral]
    | cons c others => simp [pointed, isNumeral]
  have number := ofDigits_append_map whole fraction
  rw [readUnsigned, readWhole_plain plain stops]
  obtain ⟨c, others, rfl⟩ := List.exists_cons_of_ne_nil (ne_nil_of_plain plain)
  rw [List.map_cons] at number ⊢
  simp only [readFraction_pointed digits, readExponent_digits down nonempty powerDigits ends,
    Option.isNone_some, Bool.and_false, Bool.false_eq_true, if_false, number, Option.getD_some,
    pointedNumber, List.length_map]

end

/-! ### Layouts -/

theorem isPlainNumeral_of_head {digits more : List Char} {c : Char} (written : digits = c :: more)
    (leading : c ≠ '0') (plain : ∀ d ∈ digits, d.isDigit = true) : Text.isPlainNumeral digits = true := by
  rw [Text.isPlainNumeral, Bool.and_eq_true, List.all_eq_true, Bool.or_eq_true]
  refine ⟨plain, .inr ?_⟩
  rw [written, List.head?_cons, Option.any_some, bne_iff_ne]
  exact leading

theorem isDigit_of_mem_replicate {count : Nat} : ∀ c ∈ List.replicate count '0', c.isDigit = true := by
  intro c member
  rw [List.eq_of_mem_replicate member]
  rfl

section

variable {value : Decimal} {digits rest : List Char} {leading : Int}

/-- A text in which a number is read that has a given value. -/
def Reads (text : List Char) (number : ℚ) : Prop :=
  ∀ (negative : Bool) {rest : List Char}, endsNumber rest = true →
    ∃ decimal : Decimal, decimal.toRat = number ∧
      readUnsigned negative (text ++ rest) = .ok (.float (Decimal.toFloat negative decimal), rest)

/-- A number that is read from a point form, when the digits make up the value. -/
theorem reads_point {whole fraction : List Char} {number : ℚ} (plain : Text.isPlainNumeral whole = true)
    (nonempty : fraction ≠ []) (digits : ∀ c ∈ fraction, c.isDigit = true)
    (same : (pointedNumber whole fraction 0).toRat = number) : Reads (whole ++ '.' :: fraction) number := by
  intro negative rest ends
  refine ⟨_, same, ?_⟩
  rw [List.append_assoc]
  exact readUnsigned_point negative plain nonempty digits ends

theorem toRat_eq_of {first second : Decimal} (digits : first.digits = second.digits)
    (exponent : first.exponent = second.exponent) : first.toRat = second.toRat := by
  rw [Decimal.toRat, Decimal.toRat, digits, exponent]

/-- The digits of a positive number, without zeros in front. -/
structure Spelled (digits : List Char) (number : Nat) : Prop where
  plain : ∀ c ∈ digits, c.isDigit = true
  number : Nat.ofDigitChars 10 digits 0 = number
  head : ∃ c more, digits = c :: more ∧ c ≠ '0'

theorem spelled_decimalDigits (positive : value.digits ≠ 0) :
    Spelled (Text.decimalDigits value.digits) value.digits where
  plain _ member := Text.isDigit_of_mem_decimalDigits member
  number := Nat.ofDigitChars_ten_toDigits
  head := Text.head_decimalDigits (Nat.pos_of_ne_zero positive)

theorem Spelled.ne_nil {number : Nat} (spelled : Spelled digits number) : digits ≠ [] := by
  obtain ⟨c, more, rfl, -⟩ := spelled.head
  exact List.cons_ne_nil c more

/-- Zeros between the point and the digits. -/
theorem Spelled.reads_below (spelled : Spelled digits value.digits) {zeros : Nat}
    (exponent : value.exponent + (zeros + digits.length) = 0) :
    Reads (['0'] ++ '.' :: (List.replicate zeros '0' ++ digits)) value.toRat := by
  refine reads_point rfl ?_ ?_ (toRat_eq_of ?_ ?_)
  · exact List.append_ne_nil_of_right_ne_nil _ spelled.ne_nil
  · intro d member
    exact (List.mem_append.mp member).elim (isDigit_of_mem_replicate d) (spelled.plain d)
  · rw [pointedNumber, Nat.ofDigitChars_append, Nat.ofDigitChars_append, Nat.ofDigitChars_replicate_zero]
    exact spelled.number
  · simp only [pointedNumber, List.length_append, List.length_replicate]
    omega

/-- Zeros between the digits and the point, and one behind it. -/
theorem Spelled.reads_whole (spelled : Spelled digits value.digits) {zeros : Nat}
    (exponent : value.exponent = zeros) :
    Reads ((digits ++ List.replicate zeros '0') ++ '.' :: ['0']) value.toRat := by
  obtain ⟨c, more, written, leading⟩ := spelled.head
  refine reads_point ?_ (by simp) (by simp) ?_
  · refine isPlainNumeral_of_head (by rw [written, List.cons_append]) leading ?_
    intro d member
    exact (List.mem_append.mp member).elim (spelled.plain d) (isDigit_of_mem_replicate d)
  · rw [pointedNumber, Decimal.toRat, Decimal.toRat, Nat.ofDigitChars_append, Nat.ofDigitChars_append,
      Nat.ofDigitChars_replicate_zero, spelled.number, exponent, zpow_natCast]
    have last : Nat.ofDigitChars 10 ['0'] (10 ^ zeros * value.digits) = 10 * (10 ^ zeros * value.digits) := rfl
    have tenth : (10 : ℚ) ^ ((0 : Int) - ((['0'] : List Char).length : Nat)) = 1 / 10 := by
      rw [List.length_singleton, zero_sub, Nat.cast_one, zpow_neg_one, one_div]
    rw [last, tenth]
    push_cast
    ring

/-- The point between two digits. -/
theorem Spelled.reads_between (spelled : Spelled digits value.digits) {count : Nat}
    (inside : ¬ digits.length ≤ count + 1) (exponent : value.exponent + digits.length = (count + 1 : Nat)) :
    Reads (digits.take (count + 1) ++ '.' :: digits.drop (count + 1)) value.toRat := by
  obtain ⟨c, more, written, leading⟩ := spelled.head
  refine reads_point ?_ ?_ ?_ (toRat_eq_of ?_ ?_)
  · refine isPlainNumeral_of_head (by rw [written, List.take_succ_cons]) leading ?_
    exact fun d member => spelled.plain d (List.mem_of_mem_take member)
  · rwa [Ne, List.drop_eq_nil_iff]
  · exact fun d member => spelled.plain d (List.mem_of_mem_drop member)
  · rw [pointedNumber, List.take_append_drop]
    exact spelled.number
  · simp only [pointedNumber, List.length_drop]
    omega

theorem reads_positional (positive : value.digits ≠ 0) :
    Reads (Layout.positional (Text.decimalDigits value.digits)
      (value.exponent + (Text.decimalDigits value.digits).length - 1)) value.toRat := by
  have spelled := spelled_decimalDigits positive
  have long := List.length_pos_of_ne_nil spelled.ne_nil
  generalize Text.decimalDigits value.digits = digits at *
  rw [Layout.positional]
  split
  case isTrue below => exact spelled.reads_below (by omega)
  case isFalse notBelow =>
    obtain ⟨count, countIs⟩ : ∃ count : Nat, value.exponent + digits.length - 1 = count :=
      Int.eq_ofNat_of_zero_le (Int.not_lt.mp notBelow)
    simp only [countIs, Int.toNat_natCast]
    split
    case isTrue short => exact spelled.reads_whole (by omega)
    case isFalse notShort => exact spelled.reads_between notShort (by omega)

theorem isDigit_of_mem_padded {width size : Nat} :
    ∀ c ∈ (Text.padded width size).toList, c.isDigit = true := by
  intro c member
  rw [Text.padded, String.toList_ofList] at member
  exact (List.mem_append.mp member).elim (isDigit_of_mem_replicate c) Text.isDigit_of_mem_decimalDigits

theorem padded_ne_nil (width size : Nat) : (Text.padded width size).toList ≠ [] := by
  rw [Text.padded, String.toList_ofList]
  exact List.append_ne_nil_of_right_ne_nil _ Nat.toDigits_ne_nil

theorem ofDigitChars_padded (width size : Nat) :
    Nat.ofDigitChars 10 (Text.padded width size).toList 0 = size := by
  rw [Text.padded, String.toList_ofList, Nat.ofDigitChars_append, Nat.ofDigitChars_replicate_zero]
  exact Nat.ofDigitChars_ten_toDigits

theorem reads_scientific (layout : Layout) (positive : value.digits ≠ 0) :
    Reads (layout.scientific (Text.decimalDigits value.digits)
      (value.exponent + (Text.decimalDigits value.digits).length - 1)) value.toRat := by
  obtain ⟨plain, number, c, more, written, leading⟩ := spelled_decimalDigits positive
  generalize Text.decimalDigits value.digits = digits at *
  generalize powerIs : value.exponent + digits.length - 1 = power
  have exponent : (if decide (power < 0) then -(power.natAbs : Int) else power.natAbs) = power := by
    simp only [decide_eq_true_eq]
    split <;> omega
  have sign : (if power < 0 then '-' else '+') = exponentSign (decide (power < 0)) := by
    rw [exponentSign]
    simp only [decide_eq_true_eq]
  subst written
  intro negative rest ends
  have first : Text.isPlainNumeral [c] = true :=
    isPlainNumeral_of_head rfl leading fun d member =>
      plain d (List.mem_singleton.mp member ▸ List.mem_cons_self)
  have read := readUnsigned_exponent negative (decide (power < 0)) first
    (fun d member => plain d (List.mem_cons_of_mem c member))
    (padded_ne_nil layout.exponentWidth power.natAbs) isDigit_of_mem_padded ends
  rw [ofDigitChars_padded, exponent] at read
  refine ⟨pointedNumber [c] more power, toRat_eq_of number ?_, ?_⟩
  · rw [List.length_cons] at powerIs
    simp only [pointedNumber]
    omega
  · rw [← read, Layout.scientific, sign]
    cases more <;> simp [pointed]

/-- A decimal number is read from its text, in whatever layout. -/
theorem reads_renderDecimal (layout : Layout) (value : Decimal) :
    Reads (layout.renderDecimal value) value.toRat := by
  rw [Layout.renderDecimal]
  split
  case isTrue zero =>
    change Reads (['0'] ++ '.' :: ['0']) _
    refine reads_point rfl (by simp) (by simp) ?_
    rw [pointedNumber, Decimal.toRat, Decimal.toRat, zero]
    simp [Nat.ofDigitChars_cons]
  case isFalse positive =>
    split
    · exact reads_positional positive
    · exact reads_scientific layout positive

/-- The text of a decimal number starts with a digit. -/
theorem head_renderDecimal (layout : Layout) (value : Decimal) :
    ∃ c more, layout.renderDecimal value = c :: more ∧ c.isDigit = true := by
  have plain : ∀ c ∈ Text.decimalDigits value.digits, c.isDigit = true := fun c member =>
    Text.isDigit_of_mem_decimalDigits member
  obtain ⟨c, more, written⟩ := List.exists_cons_of_ne_nil
    (show Text.decimalDigits value.digits ≠ [] from Nat.toDigits_ne_nil)
  have digit := plain c (written ▸ List.mem_cons_self)
  simp only [Layout.renderDecimal, written]
  split
  · exact ⟨_, _, rfl, rfl⟩
  split
  · rw [Layout.positional]
    split
    · exact ⟨_, _, rfl, rfl⟩
    simp only
    split
    · exact ⟨_, _, rfl, digit⟩
    · exact ⟨_, _, rfl, digit⟩
  · exact ⟨_, _, rfl, digit⟩

end

theorem toList_render_finite {layout : Layout} {x : Float} {negative : Bool} {value : Binary}
    (read : Magnitude.ofFloat x = (negative, .finite value)) :
    (layout.render x).toList =
      if negative then '-' :: layout.renderDecimal value.shortest else layout.renderDecimal value.shortest := by
  rw [Layout.render, read]
  cases negative <;> simp

theorem toList_render_undefined {x : Float} {negative : Bool}
    (read : Magnitude.ofFloat x = (negative, .undefined)) :
    (documentLayout.render x).toList = ['N', 'a', 'N'] := by
  rw [Layout.render, read]
  cases negative <;> rfl

theorem toList_render_infinite {x : Float} {negative : Bool}
    (read : Magnitude.ofFloat x = (negative, .infinite)) :
    (documentLayout.render x).toList =
      if negative then '-' :: ['I', 'n', 'f', 'i', 'n', 'i', 't', 'y']
      else ['I', 'n', 'f', 'i', 'n', 'i', 't', 'y'] := by
  rw [Layout.render, read]
  cases negative <;> rfl

/-- A float is read from its text in a document. -/
theorem readScalar_float (x : Float) {rest : List Char} (ends : endsNumber rest = true) :
    readScalar ((documentLayout.render x).toList ++ rest) = .ok (.float x, rest) := by
  cases size : Magnitude.ofFloat x with
  | mk negative magnitude =>
  cases magnitude with
  | undefined =>
      rw [toList_render_undefined size, Magnitude.eq_of_undefined size]
      rfl
  | infinite =>
      rw [toList_render_infinite size, Magnitude.eq_of_infinite size]
      cases negative <;> rfl
  | finite value =>
      obtain ⟨c, more, written, digit⟩ := head_renderDecimal documentLayout value.shortest
      obtain ⟨decimal, same, reads⟩ := reads_renderDecimal documentLayout value.shortest negative ends
      rw [Decimal.toFloat_of_same size same, written, List.cons_append] at reads
      rw [toList_render_finite size, written]
      cases negative with
      | false => exact (readScalar_unsigned digit _).trans reads
      | true => exact readScalar_signed digit reads

theorem startsNumber_float (x : Float) :
    ∃ c more, (documentLayout.render x).toList = c :: more ∧ startsNumber c = true := by
  cases size : Magnitude.ofFloat x with
  | mk negative magnitude =>
  cases magnitude with
  | undefined => exact ⟨_, _, toList_render_undefined size, rfl⟩
  | infinite =>
      rw [toList_render_infinite size]
      cases negative <;> exact ⟨_, _, rfl, rfl⟩
  | finite value =>
      rw [toList_render_finite size]
      obtain ⟨c, more, written, digit⟩ := head_renderDecimal documentLayout value.shortest
      cases negative with
      | false =>
          refine ⟨c, more, written, ?_⟩
          rw [startsNumber, digit]
          rfl
      | true => exact ⟨_, _, rfl, rfl⟩

end Json

end TapeMultiplier
