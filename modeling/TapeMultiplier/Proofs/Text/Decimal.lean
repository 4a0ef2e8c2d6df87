/-
Module: TapeMultiplier.Proofs.Text.Decimal
Layer: Proofs
Purpose: Plain decimal numerals are read back as the numbers they were written for, and a numeral
  without superfluous leading zeros is the one that is written for its number.
Main exports: readInteger_digits, hasDecimal_of_readInteger, readInteger_decimal, decimal_inj, isPlainNumeral,
  decimalDigits_ofDigitChars
-/
import Mathlib.Algebra.Group.Nat.Defs
import Mathlib.Data.List.Induction
import TapeMultiplier.Text.Integer

namespace TapeMultiplier.Text

/-! ### The digits of ASCII among the digits of all scripts -/

-- There are ten of them, so what is true of all is checked for each.
theorem exists_digitChar {c : Char} (digit : c.isDigit = true) :
    ∃ value : Fin 10, c = Nat.digitChar value.val := by
  simp only [Char.isDigit, Bool.and_eq_true, decide_eq_true_eq, ge_iff_le] at digit
  obtain ⟨lower, upper⟩ := digit
  have lower : 48 ≤ c.toNat := lower
  have upper : c.toNat ≤ 57 := upper
  have inside : c.toNat - 48 < 10 := by omega
  refine ⟨⟨c.toNat - 48, inside⟩, Char.ext (UInt32.toNat_inj.mp ?_)⟩
  have code := Nat.toNat_digitChar_of_lt_ten inside
  show c.toNat = (Nat.digitChar (c.toNat - 48)).toNat
  omega

theorem decimalValue?_of_isDigit {c : Char} (digit : c.isDigit = true) :
    decimalValue? c = some (c.toNat - 48) := by
  obtain ⟨value, rfl⟩ := exists_digitChar digit
  revert value
  decide

theorem isNumeralPart_of_isDigit {c : Char} (digit : c.isDigit = true) : isNumeralPart c = true := by
  rw [isNumeralPart, decimalValue?_of_isDigit digit]
  simp

theorem isDigitLike_of_isDigit {c : Char} (digit : c.isDigit = true) : isDigitLike c = true := by
  obtain ⟨value, rfl⟩ := exists_digitChar digit
  revert value
  decide

theorem isPadding_of_isDigit {c : Char} (digit : c.isDigit = true) : isPadding c = false := by
  obtain ⟨value, rfl⟩ := exists_digitChar digit
  revert value
  decide

/-! ### Reading a numeral -/

theorem trimPadding_of_none {text : List Char} (none : ∀ c ∈ text, isPadding c = false) :
    trimPadding text = text := by
  have kept : ∀ part : List Char, (∀ c ∈ part, isPadding c = false) →
      part.dropWhile isPadding = part := by
    intro part notPadding
    cases part with
    | nil => rfl
    | cons c rest =>
        rw [List.dropWhile_cons_of_neg]
        simp [notPadding c List.mem_cons_self]
  have reversed : ∀ c ∈ text.reverse, isPadding c = false := by
    intro c member
    exact none c (List.mem_reverse.mp member)
  rw [trimPadding, kept text none, kept text.reverse reversed, List.reverse_reverse]

theorem splitSign_of_isDigit {c : Char} {rest : List Char} (digit : c.isDigit = true) :
    splitSign (c :: rest) = (false, c :: rest) := by
  unfold splitSign
  split
  · next sign => cases sign; simp at digit
  · next sign => cases sign; simp at digit
  · rfl

theorem numeralDigits_of_isDigit {digits : List Char} (nonempty : digits ≠ [])
    (plain : ∀ c ∈ digits, c.isDigit = true) :
    numeralDigits digits = some (digits.map fun c => c.toNat - 48) := by
  induction digits with
  | nil => contradiction
  | cons c rest ih =>
      have value := decimalValue?_of_isDigit (plain c List.mem_cons_self)
      have plainRest : ∀ d ∈ rest, d.isDigit = true := fun d member =>
        plain d (List.mem_cons_of_mem c member)
      cases rest with
      | nil => simp [numeralDigits, value]
      | cons d rest =>
          have notMark : d ≠ '_' := by
            rintro rfl
            have digit := plainRest '_' List.mem_cons_self
            simp at digit
          have tail := ih (List.cons_ne_nil d rest) plainRest
          rw [numeralDigits.eq_4 c (d :: rest) (by simp) (by rintro _ ⟨⟩; exact notMark rfl), value, tail]
          rfl

theorem ofDigits_map (digits : List Char) :
    ofDigits (digits.map fun c => c.toNat - 48) = Nat.ofDigitChars 10 digits 0 := by
  rw [ofDigits, Nat.ofDigitChars_eq_foldl, List.foldl_map]
  rfl

/-- A numeral of ASCII digits is read as its value, unless it is too long. -/
theorem readInteger_digits (digits : List Char) (nonempty : digits ≠ [])
    (plain : ∀ c ∈ digits, c.isDigit = true) :
    readInteger (String.ofList digits) =
      if digitLimit < digits.length then .error (.tooLong digits.length)
      else .ok (Nat.ofDigitChars 10 digits 0 : Int) := by
  have trimmed : trimPadding digits = digits :=
    trimPadding_of_none fun c member => isPadding_of_isDigit (plain c member)
  have unsigned : splitSign digits = (false, digits) := by
    obtain ⟨c, rest, rfl⟩ := List.exists_cons_of_ne_nil nonempty
    exact splitSign_of_isDigit (plain c List.mem_cons_self)
  have part : ∀ c ∈ digits, isNumeralPart c = true := fun c member =>
    isNumeralPart_of_isDigit (plain c member)
  have whole : digits.takeWhile isNumeralPart = digits := by
    have taken : (digits ++ []).takeWhile isNumeralPart = digits ++ [].takeWhile isNumeralPart :=
      List.takeWhile_append_of_pos part
    simpa using taken
  simp only [readInteger, String.toList_ofList, trimmed, unsigned, whole,
    numeralDigits_of_isDigit nonempty plain, List.length_map, ofDigits_map]
  rw [if_pos (List.all_eq_true.mpr part)]
  rfl

theorem isDigit_of_mem_decimalDigits {c : Char} {value : Nat} (member : c ∈ decimalDigits value) :
    c.isDigit = true :=
  Nat.isDigit_of_mem_toDigits (by decide) (by decide) member

theorem length_decimalDigits_le {value : Nat} (small : value < 10 ^ digitLimit) :
    (decimalDigits value).length ≤ digitLimit :=
  (Nat.length_toDigits_le_iff (by decide) (by decide)).mpr small

theorem ofDigits_lt {digits : List Nat} (small : ∀ digit ∈ digits, digit < 10) :
    ofDigits digits < 10 ^ digits.length := by
  induction digits using List.reverseRecOn with
  | nil => exact Nat.one_pos
  | append_singleton digits last ih =>
      have front := ih fun digit member => small digit (List.mem_append_left _ member)
      have lastSmall := small last (List.mem_append_right _ List.mem_cons_self)
      have value : ofDigits (digits ++ [last]) = 10 * ofDigits digits + last := by
        simp [ofDigits]
      rw [value, List.length_append, List.length_singleton, Nat.pow_succ]
      omega

/-- A number of few enough digits has a decimal form, with either sign. -/
theorem hasDecimal_ofDigits (negative : Bool) {digits : List Nat} (small : ∀ digit ∈ digits, digit < 10)
    (short : digits.length ≤ digitLimit) :
    hasDecimal (if negative then -(ofDigits digits : Int) else ofDigits digits) = true := by
  have below : ofDigits digits < 10 ^ digitLimit :=
    Nat.lt_of_lt_of_le (ofDigits_lt small) (Nat.pow_le_pow_right (by decide) short)
  have size : (if negative then -(ofDigits digits : Int) else ofDigits digits).natAbs = ofDigits digits := by
    cases negative <;> simp
  rw [hasDecimal, size, decide_eq_true_eq]
  exact length_decimalDigits_le below

theorem decimalValue?_lt {c : Char} {digit : Nat} (found : decimalValue? c = some digit) : digit < 10 := by
  obtain ⟨start, -, rfl⟩ := Option.map_eq_some_iff.mp found
  exact Nat.mod_lt _ (by decide)

theorem numeralDigits_lt {text : List Char} {digits : List Nat} (read : numeralDigits text = some digits) :
    ∀ digit ∈ digits, digit < 10 := by
  induction text using numeralDigits.induct generalizing digits with
  | case1 => cases read
  | case2 c =>
      obtain ⟨digit, found, rfl⟩ := Option.map_eq_some_iff.mp read
      simpa using decimalValue?_lt found
  | case3 c rest ih =>
      rw [numeralDigits] at read
      obtain ⟨digit, found, read⟩ := Option.bind_eq_some_iff.mp read
      obtain ⟨others, rested, ⟨⟩⟩ := Option.bind_eq_some_iff.mp read
      exact List.forall_mem_cons.mpr ⟨decimalValue?_lt found, ih rested⟩
  | case4 c rest nonempty notMark ih =>
      rw [numeralDigits.eq_4 c rest nonempty notMark] at read
      obtain ⟨digit, found, read⟩ := Option.bind_eq_some_iff.mp read
      obtain ⟨others, rested, ⟨⟩⟩ := Option.bind_eq_some_iff.mp read
      exact List.forall_mem_cons.mpr ⟨decimalValue?_lt found, ih rested⟩

/-- An integer that is read has a decimal form. -/
theorem hasDecimal_of_readInteger {text : String} {value : Int} (read : readInteger text = .ok value) :
    hasDecimal value = true := by
  rw [readInteger] at read
  split at read
  next negative numeral signed =>
  split at read
  · cases read
  · next digits found =>
    split at read
    · cases read
    · next short =>
      split at read
      · cases read
        exact hasDecimal_ofDigits negative (numeralDigits_lt found) (Nat.le_of_not_lt short)
      · cases read

/-- The decimal form of a number that is not too large is read as the number. -/
theorem readInteger_decimal {value : Nat} (small : value < 10 ^ digitLimit) :
    readInteger (decimal value) = .ok (value : Int) := by
  have read := readInteger_digits (decimalDigits value) Nat.toDigits_ne_nil fun c member =>
    isDigit_of_mem_decimalDigits member
  rw [if_neg (Nat.not_lt.mpr (length_decimalDigits_le small)), decimalDigits,
    Nat.ofDigitChars_ten_toDigits] at read
  exact read

theorem toList_decimalInt_of_nonneg {value : Int} (nonneg : 0 ≤ value) :
    (decimalInt value).toList = decimalDigits value.natAbs := by
  obtain ⟨size, rfl⟩ := Int.eq_ofNat_of_zero_le nonneg
  simp [decimalInt, decimal]

theorem toList_decimalInt_of_neg {value : Int} (negative : value < 0) :
    (decimalInt value).toList = '-' :: decimalDigits value.natAbs := by
  obtain ⟨size, rfl⟩ := Int.eq_negSucc_of_lt_zero negative
  simp [decimalInt, decimal, Int.natAbs_negSucc]

/-! ### One numeral for each number -/

theorem decimalDigits_inj {left right : Nat} (same : decimalDigits left = decimalDigits right) :
    left = right := by
  have values := congrArg (fun digits => Nat.ofDigitChars 10 digits 0) same
  simpa [decimalDigits] using values

theorem decimal_inj {left right : Nat} (same : decimal left = decimal right) : left = right := by
  have digits := congrArg String.toList same
  simp only [decimal, String.toList_ofList] at digits
  exact decimalDigits_inj digits

theorem decimalDigits_of_isDigit {c : Char} (digit : c.isDigit = true) :
    decimalDigits (c.toNat - 48) = [c] := by
  obtain ⟨value, rfl⟩ := exists_digitChar digit
  revert value
  decide

theorem digitValue_lt {c : Char} (digit : c.isDigit = true) : c.toNat - 48 < 10 := by
  obtain ⟨value, rfl⟩ := exists_digitChar digit
  rw [Nat.toNat_digitChar_sub_48_of_lt_ten value.isLt]
  exact value.isLt

-- A number above zero keeps its numeral while digits are read behind it.
theorem decimalDigits_ofDigitChars_pos {digits : List Char} (plain : ∀ c ∈ digits, c.isDigit = true)
    {value : Nat} (positive : 0 < value) :
    decimalDigits (Nat.ofDigitChars 10 digits value) = decimalDigits value ++ digits := by
  induction digits generalizing value with
  | nil => simp
  | cons c rest ih =>
      have digit := plain c List.mem_cons_self
      have plainRest : ∀ d ∈ rest, d.isDigit = true := fun d member =>
        plain d (List.mem_cons_of_mem c member)
      have longer : decimalDigits (10 * value + (c.toNat - 48)) = decimalDigits value ++ [c] := by
        rw [← decimalDigits_of_isDigit digit]
        exact (Nat.toDigits_append_toDigits (by decide) positive (digitValue_lt digit)).symm
      rw [Nat.ofDigitChars_cons]
      show decimalDigits (Nat.ofDigitChars 10 rest (10 * value + (c.toNat - 48))) = _
      rw [ih plainRest (by omega), longer, List.append_assoc]
      rfl

/-- Whether a text is a decimal numeral of ASCII digits without superfluous leading zeros. -/
def isPlainNumeral (digits : List Char) : Bool :=
  digits.all Char.isDigit && (digits == ['0'] || digits.head?.any fun c => c != '0')

/-- A decimal form has no superfluous zero in front. -/
theorem head_decimalDigits {value : Nat} (positive : 0 < value) :
    ∃ c rest, decimalDigits value = c :: rest ∧ c ≠ '0' := by
  induction value using Nat.strongRecOn with
  | ind value ih =>
      by_cases single : value < 10
      · refine ⟨value.digitChar, [], Nat.toDigits_of_lt_base single, ?_⟩
        rw [Ne, Nat.digitChar_eq_zero]
        omega
      · obtain ⟨c, rest, digits, leading⟩ := ih (value / 10) (by omega) (by omega)
        refine ⟨c, rest ++ [(value % 10).digitChar], ?_, leading⟩
        rw [decimalDigits] at digits ⊢
        rw [Nat.toDigits_of_base_le (by decide) (by omega), digits]
        rfl

theorem isDigit_of_isPlainNumeral {digits : List Char} (plain : isPlainNumeral digits = true) :
    ∀ c ∈ digits, c.isDigit = true := by
  rw [isPlainNumeral, Bool.and_eq_true, List.all_eq_true] at plain
  exact plain.1

/-- A decimal form is a plain numeral. -/
theorem isPlainNumeral_decimalDigits (value : Nat) : isPlainNumeral (decimalDigits value) = true := by
  rw [isPlainNumeral, Bool.and_eq_true, List.all_eq_true, Bool.or_eq_true]
  refine ⟨fun c member => isDigit_of_mem_decimalDigits member, ?_⟩
  rcases Nat.eq_zero_or_pos value with rfl | positive
  · exact .inl rfl
  · obtain ⟨c, rest, digits, leading⟩ := head_decimalDigits positive
    rw [digits, List.head?_cons, Option.any_some, bne_iff_ne]
    exact .inr leading

/-- A plain numeral is the decimal form of its value. -/
theorem decimalDigits_ofDigitChars {digits : List Char} (plain : isPlainNumeral digits = true) :
    decimalDigits (Nat.ofDigitChars 10 digits 0) = digits := by
  simp only [isPlainNumeral, Bool.and_eq_true, List.all_eq_true, Bool.or_eq_true, beq_iff_eq] at plain
  obtain ⟨allDigits, rfl | leading⟩ := plain
  · rfl
  · cases digits with
    | nil => simp at leading
    | cons c rest =>
        have digit := allDigits c List.mem_cons_self
        have positive : 0 < c.toNat - 48 := by
          obtain ⟨value, rfl⟩ := exists_digitChar digit
          rw [Nat.toNat_digitChar_sub_48_of_lt_ten value.isLt]
          simp only [List.head?_cons, Option.any_some, bne_iff_ne, ne_eq, Nat.digitChar_eq_zero] at leading
          omega
        rw [Nat.ofDigitChars_cons, Nat.mul_zero, Nat.zero_add]
        show decimalDigits (Nat.ofDigitChars 10 rest (c.toNat - 48)) = _
        rw [decimalDigits_ofDigitChars_pos (fun d member => allDigits d (List.mem_cons_of_mem c member))
          positive, decimalDigits_of_isDigit digit]
        rfl

end TapeMultiplier.Text
