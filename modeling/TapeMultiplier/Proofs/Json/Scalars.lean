/-
Module: TapeMultiplier.Proofs.Json.Scalars
Layer: Proofs
Purpose: Strings and integers of JSON texts are read as they were written, whatever follows them.
Main exports: Json.readString_written, Json.endsNumber, Json.readScalar_decimalInt
-/
import TapeMultiplier.Json.Reader
import TapeMultiplier.Json.Writer
import TapeMultiplier.Proofs.Text.Decimal

namespace TapeMultiplier

/-! ### Texts without halves -/

theorem all_elements_ofString (text : String) :
    ((RawText.ofString text).elements.all fun element => !element.isHalf) = true := by
  rw [RawText.ofString, List.all_map, List.all_eq_true]
  intro c _
  rfl

theorem ofString_injective : Function.Injective RawText.ofString :=
  Function.LeftInverse.injective RawText.shown_ofString

namespace Json

/-! ### Strings -/

theorem hexValue?_hexDigit {value : Nat} (below : value < 16) :
    hexValue? (Text.hexDigit value) = some value := by
  have all : ∀ value : Fin 16, hexValue? (Text.hexDigit value.val) = some value.val := by
    decide
  exact all ⟨value, below⟩

theorem readUnit?_hexDigits {unit : Nat} (below : unit < 0x10000) (next : Char) (rest : List Char) :
    readUnit? (Text.hexDigits 4 unit ++ next :: rest) = some (unit, next :: rest) := by
  have first := hexValue?_hexDigit (show unit / 16 / 16 / 16 % 16 < 16 by omega)
  have second := hexValue?_hexDigit (show unit / 16 / 16 % 16 < 16 by omega)
  have third := hexValue?_hexDigit (show unit / 16 % 16 < 16 by omega)
  have fourth := hexValue?_hexDigit (show unit % 16 < 16 by omega)
  have value : ((unit / 16 / 16 / 16 % 16 * 16 + unit / 16 / 16 % 16) * 16 + unit / 16 % 16) * 16 +
      unit % 16 = unit := by
    omega
  simp only [Text.hexDigits, List.nil_append, List.cons_append, readUnit?, first, second, third, fourth,
    bind, Option.bind, pure, value]

theorem toNat_lt_of_char (c : Char) : c.toNat < 0xD800 ∨ 0xDFFF < c.toNat ∧ c.toNat < 0x110000 := by
  rcases c.valid with low | ⟨above, below⟩
  · exact Or.inl low
  · exact Or.inr ⟨above, below⟩

theorem toNat_lt (c : Char) : c.toNat < 0x110000 := by
  rcases toNat_lt_of_char c with low | ⟨-, below⟩
  · exact Nat.lt_trans low (by decide)
  · exact below

theorem ofUnit_toNat {c : Char} (below : c.toNat < 0x10000) : RawChar.ofUnit c.toNat = .char c := by
  rw [RawChar.ofUnit, if_neg, Char.ofNat_toNat]
  rintro ⟨above, under⟩
  rcases toNat_lt_of_char c with low | ⟨high, -⟩
  · omega
  · omega

theorem readEscape_unit {c : Char} (below : c.toNat < 0x10000) (next : Char) (rest : List Char) :
    readEscape ('u' :: (Text.hexDigits 4 c.toNat ++ next :: rest)) = .ok (.char c, next :: rest) := by
  have unit := readUnit?_hexDigits below next rest
  have single : ¬(0xD800 ≤ c.toNat ∧ c.toNat ≤ 0xDBFF) := by
    rintro ⟨above, under⟩
    rcases toNat_lt_of_char c with low | ⟨high, -⟩
    · omega
    · omega
  simp only [readEscape, if_true, readUnits?, unit, bind, Option.bind, if_neg single, pure,
    ofUnit_toNat below]

theorem readEscape_halves {high low : Nat} (highRange : 0xD800 ≤ high ∧ high ≤ 0xDBFF)
    (lowRange : 0xDC00 ≤ low ∧ low ≤ 0xDFFF) (next : Char) (rest : List Char) :
    readEscape ('u' :: (Text.hexDigits 4 high ++ (escapeUnit low ++ next :: rest))) =
      .ok (.char (Char.ofNat (0x10000 + (high - 0xD800) * 0x400 + (low - 0xDC00))),
        next :: rest) := by
  have highUnit := readUnit?_hexDigits (show high < 0x10000 by omega) '\x5c'
    ('u' :: (Text.hexDigits 4 low ++ next :: rest))
  have lowUnit := readUnit?_hexDigits (show low < 0x10000 by omega) next rest
  simp only [readEscape, if_true, readUnits?, readLowUnit?, escapeUnit, List.cons_append, highUnit,
    lowUnit, bind, Option.bind, if_pos highRange, if_pos lowRange, pure]

theorem readEscape_pair {c : Char} (above : 0x10000 ≤ c.toNat) (next : Char) (rest : List Char) :
    readEscape ('u' :: (Text.hexDigits 4 (0xD800 + (c.toNat - 0x10000) / 0x400) ++
      (escapeUnit (0xDC00 + (c.toNat - 0x10000) % 0x400) ++ next :: rest))) =
      .ok (.char c, next :: rest) := by
  have below := toNat_lt c
  generalize highIs : 0xD800 + (c.toNat - 0x10000) / 0x400 = high
  generalize lowIs : 0xDC00 + (c.toNat - 0x10000) % 0x400 = low
  have number : 0x10000 + (high - 0xD800) * 0x400 + (low - 0xDC00) = c.toNat := by
    omega
  rw [readEscape_halves (by omega) (by omega), number, Char.ofNat_toNat]

/-- One character of a string is read from its written form. -/
theorem readCharacters_escapeChar (read : List RawChar) (fuel : Nat) (c next : Char)
    (rest : List Char) :
    readCharacters read (fuel + 1) (escapeChar c ++ next :: rest) =
      readCharacters (.char c :: read) fuel (next :: rest) := by
  unfold escapeChar
  split
  · next special => rcases special with rfl | rfl <;> rfl
  split
  · next special => rw [special]; rfl
  split
  · next special => rw [special]; rfl
  split
  · next special => rw [special]; rfl
  split
  · next special => rw [special]; rfl
  split
  · next special => rw [special]; rfl
  next notQuoted _ _ _ _ _ =>
  rw [not_or] at notQuoted
  obtain ⟨notQuote, notBackslash⟩ := notQuoted
  split
  · next printable =>
    rw [List.singleton_append, readCharacters, if_neg notQuote, if_neg notBackslash,
      if_neg (Nat.not_lt.mpr printable.1)]
  split
  · next below =>
    have escaped := readEscape_unit below next rest
    rw [escapeUnit, List.cons_append, List.cons_append, readCharacters, if_neg (by decide), if_pos rfl,
      escaped]
  · next above =>
    have escaped := readEscape_pair (Nat.le_of_not_lt above) next rest
    rw [List.append_assoc]
    generalize escapeUnit (0xDC00 + (c.toNat - 0x10000) % 0x400) ++ next :: rest = behind at escaped ⊢
    rw [escapeUnit, List.cons_append, List.cons_append, readCharacters, if_neg (by decide), if_pos rfl,
      escaped]

theorem escapeChar_ne_nil (c : Char) : escapeChar c ≠ [] := by
  unfold escapeChar
  repeat' split
  all_goals simp [escapeUnit]

theorem exists_cons_written (elements : List RawChar) (rest : List Char) :
    ∃ next more, elements.flatMap escapeElement ++ '\x22' :: rest = next :: more := by
  cases written : elements.flatMap escapeElement with
  | nil => exact ⟨_, _, rfl⟩
  | cons next more => exact ⟨next, more ++ '\x22' :: rest, rfl⟩

/-! ### Halves -/

/-- Whether two elements are a half and its other half, which are read as one character. -/
def joins : RawChar → RawChar → Bool
  | .half high, .half low => high.val < 0x400 && 0x400 ≤ low.val
  | _, _ => false

/-- Whether no half stands directly before its other half. -/
def unjoined : List RawChar → Bool
  | first :: second :: rest => !joins first second && unjoined (second :: rest)
  | _ => true

theorem unjoined_of_cons {first : RawChar} {rest : List RawChar} (apart : unjoined (first :: rest) = true) :
    unjoined rest = true := by
  cases rest with
  | nil => rfl
  | cons second rest =>
      rw [unjoined, Bool.and_eq_true] at apart
      exact apart.2

/-- Characters are never joined. -/
theorem unjoined_of_whole {elements : List RawChar}
    (whole : ∀ element ∈ elements, element.isHalf = false) : unjoined elements = true := by
  induction elements with
  | nil => rfl
  | cons first rest ih =>
      have apart := ih fun element member => whole element (List.mem_cons_of_mem first member)
      cases rest with
      | nil => rfl
      | cons second rest =>
          have isChar := whole first List.mem_cons_self
          cases first with
          | char c => rw [unjoined, apart]; rfl
          | half distance => cases isChar

theorem readLowUnit?_escapeUnit {unit : Nat} (below : unit < 0x10000)
    (notLow : ¬(0xDC00 ≤ unit ∧ unit ≤ 0xDFFF)) (next : Char) (rest : List Char) :
    readLowUnit? (escapeUnit unit ++ next :: rest) = none := by
  have read := readUnit?_hexDigits below next rest
  rw [escapeUnit, List.cons_append, List.cons_append]
  simp only [readLowUnit?, read, bind, Option.bind, if_neg notLow]

/-- No character looks like the second half of a pair. -/
theorem readLowUnit?_escapeChar (c next : Char) (rest : List Char) :
    readLowUnit? (escapeChar c ++ next :: rest) = none := by
  unfold escapeChar
  split
  · next special => rcases special with rfl | rfl <;> rfl
  split
  · rfl
  split
  · rfl
  split
  · rfl
  split
  · rfl
  split
  · rfl
  next notQuoted _ _ _ _ _ =>
  split
  · next printable =>
    have notBackslash : ∀ more, c :: next :: rest = '\x5c' :: 'u' :: more → False := by
      intro more same
      exact notQuoted (.inr (List.cons.inj same).1)
    rw [List.singleton_append, readLowUnit?.eq_2 _ notBackslash]
  split
  · next below =>
    refine readLowUnit?_escapeUnit below ?_ next rest
    rintro ⟨above, under⟩
    rcases toNat_lt_of_char c with low | ⟨high, -⟩
    · omega
    · omega
  · next above =>
    have below := toNat_lt c
    rw [List.append_assoc]
    exact readLowUnit?_escapeUnit (by omega) (by omega) '\x5c' _

theorem readLowUnit?_written {distance : Fin 2048} {elements : List RawChar}
    (apart : unjoined (.half distance :: elements) = true) (high : distance.val < 0x400)
    (rest : List Char) : readLowUnit? (elements.flatMap escapeElement ++ '\x22' :: rest) = none := by
  cases elements with
  | nil => rfl
  | cons second elements =>
      obtain ⟨next, more, behind⟩ := exists_cons_written elements rest
      rw [List.flatMap_cons, List.append_assoc, behind]
      cases second with
      | char c => exact readLowUnit?_escapeChar c next more
      | half other =>
          simp only [unjoined, joins, high, decide_true, Bool.true_and, Bool.and_eq_true,
            Bool.not_eq_true', decide_eq_false_iff_not] at apart
          refine readLowUnit?_escapeUnit ?_ ?_ next more
          · rw [RawChar.unitOf]
            omega
          · rw [RawChar.unitOf]
            omega

theorem ofUnit_unitOf (distance : Fin 2048) : RawChar.ofUnit (RawChar.unitOf distance) = .half distance := by
  have below := distance.isLt
  rw [RawChar.ofUnit, RawChar.unitOf, if_pos (by omega), Nat.add_sub_cancel_left]
  exact congrArg RawChar.half (Fin.ext (Nat.mod_eq_of_lt below))

/-- A half is read from its unit, unless its other half follows. -/
theorem readEscape_half {distance : Fin 2048} {next : Char} {rest : List Char}
    (alone : distance.val < 0x400 → readLowUnit? (next :: rest) = none) :
    readEscape ('u' :: (Text.hexDigits 4 (RawChar.unitOf distance) ++ next :: rest)) =
      .ok (.half distance, next :: rest) := by
  have below := distance.isLt
  have unit := readUnit?_hexDigits (show RawChar.unitOf distance < 0x10000 by rw [RawChar.unitOf]; omega)
    next rest
  by_cases high : distance.val < 0x400
  · have range : 0xD800 ≤ RawChar.unitOf distance ∧ RawChar.unitOf distance ≤ 0xDBFF := by
      rw [RawChar.unitOf]
      omega
    simp only [readEscape, if_true, readUnits?, unit, bind, Option.bind, if_pos range, alone high, pure,
      ofUnit_unitOf]
  · have range : ¬(0xD800 ≤ RawChar.unitOf distance ∧ RawChar.unitOf distance ≤ 0xDBFF) := by
      rw [RawChar.unitOf]
      omega
    simp only [readEscape, if_true, readUnits?, unit, bind, Option.bind, if_neg range, pure, ofUnit_unitOf]

/-- Elements are read from their written forms, up to the closing quote. -/
theorem readCharacters_written {elements : List RawChar} (apart : unjoined elements = true)
    (read : List RawChar) {fuel : Nat} (enough : elements.length < fuel) (rest : List Char) :
    readCharacters read fuel (elements.flatMap escapeElement ++ '\x22' :: rest) =
      .ok (read.reverse ++ elements, rest) := by
  induction elements generalizing read fuel with
  | nil =>
      obtain ⟨fuel, rfl⟩ := Nat.exists_eq_succ_of_ne_zero (Nat.ne_of_gt enough)
      rw [List.flatMap_nil, List.nil_append, readCharacters, if_pos rfl, List.append_nil]
  | cons element elements ih =>
      rw [List.length_cons] at enough
      obtain ⟨fuel, rfl⟩ := Nat.exists_eq_succ_of_ne_zero (show fuel ≠ 0 by omega)
      obtain ⟨next, more, behind⟩ := exists_cons_written elements rest
      have first : readCharacters read (fuel + 1) (escapeElement element ++ next :: more) =
          readCharacters (element :: read) fuel (next :: more) := by
        cases element with
        | char c => exact readCharacters_escapeChar read fuel c next more
        | half distance =>
            have escaped := readEscape_half fun high => behind ▸ readLowUnit?_written apart high rest
            rw [escapeElement, escapeUnit, List.cons_append, List.cons_append, readCharacters,
              if_neg (by decide), if_pos rfl, escaped]
      have tail := ih (unjoined_of_cons apart) (element :: read) (show elements.length < fuel by omega)
      rw [behind] at tail
      rw [List.flatMap_cons, List.append_assoc, behind, first, tail]
      simp

/-- A string is read from its written form. -/
theorem readString_written {text : RawText} (apart : unjoined text.elements = true)
    {fuel : Nat} (enough : text.elements.length < fuel) (rest : List Char) :
    readString fuel (text.elements.flatMap escapeElement ++ '\x22' :: rest) = .ok (text, rest) := by
  rw [readString, readCharacters_written apart [] enough]
  rfl

theorem writeString_append (text : RawText) (rest : List Char) :
    writeString text ++ rest = '\x22' :: (text.elements.flatMap escapeElement ++ '\x22' :: rest) := by
  simp [writeString]

theorem length_le_length_writeString (text : RawText) :
    text.elements.length + 2 ≤ (writeString text).length := by
  have longer : ∀ elements : List RawChar,
      elements.length ≤ (elements.flatMap escapeElement).length := by
    intro elements
    induction elements with
    | nil => exact Nat.le_refl 0
    | cons element elements ih =>
        have positive : 0 < (escapeElement element).length := by
          cases element with
          | char c => exact List.length_pos_iff.mpr (escapeChar_ne_nil c)
          | half distance => simp [escapeElement, escapeUnit]
        rw [List.flatMap_cons, List.length_append, List.length_cons]
        omega
  have inside := longer text.elements
  rw [writeString, List.length_append, List.length_cons, List.length_singleton]
  omega

/-! ### Numbers -/

/-- Whether what follows a value ends a number: nothing, a comma, a closing bracket or a line break. -/
def endsNumber : List Char → Bool
  | [] => true
  | c :: _ => c == ',' || c == ']' || c == '\x7d' || c == '\n'

theorem cases_of_endsNumber {c : Char} {rest : List Char} (ends : endsNumber (c :: rest) = true) :
    c = ',' ∨ c = ']' ∨ c = '\x7d' ∨ c = '\n' := by
  simpa only [endsNumber, Bool.or_eq_true, beq_iff_eq, or_assoc] using ends

theorem stops_of_ends {rest : List Char} (ends : endsNumber rest = true) :
    ∀ c ∈ rest.head?, isNumeral c = false := by
  cases rest with
  | nil => simp
  | cons c rest =>
      rcases cases_of_endsNumber ends with rfl | rfl | rfl | rfl
      all_goals simp [isNumeral]

/-- Digits are read up to the first character that is none. -/
theorem spanDigits_append {digits rest : List Char} (plain : ∀ c ∈ digits, c.isDigit = true)
    (stops : ∀ c ∈ rest.head?, isNumeral c = false) :
    spanDigits (digits ++ rest) = (digits.map numeralValue, rest) := by
  have numeral : ∀ c ∈ digits, isNumeral c = true := by
    intro c member
    obtain ⟨value, same⟩ := Text.exists_digitChar (plain c member)
    rw [same]
    clear same
    revert value
    decide
  have rests : rest.takeWhile isNumeral = [] ∧ rest.dropWhile isNumeral = rest := by
    cases rest with
    | nil => exact ⟨rfl, rfl⟩
    | cons c rest =>
        have stop := stops c rfl
        rw [List.takeWhile_cons, List.dropWhile_cons, stop]
        exact ⟨rfl, rfl⟩
  rw [spanDigits, List.takeWhile_append_of_pos numeral, List.dropWhile_append_of_pos numeral, rests.1,
    rests.2, List.append_nil]

theorem readFraction_of_ends {rest : List Char} (ends : endsNumber rest = true) :
    readFraction rest = ([], rest) := by
  cases rest with
  | nil => rfl
  | cons c rest =>
      rcases cases_of_endsNumber ends with rfl | rfl | rfl | rfl
      all_goals rfl

theorem readExponent_of_ends {rest : List Char} (ends : endsNumber rest = true) :
    readExponent rest = (none, rest) := by
  cases rest with
  | nil => rfl
  | cons c rest =>
      rcases cases_of_endsNumber ends with rfl | rfl | rfl | rfl
      all_goals rfl

theorem readWhole_plain {digits rest : List Char} (plain : Text.isPlainNumeral digits = true)
    (stops : ∀ c ∈ rest.head?, isNumeral c = false) :
    readWhole (digits ++ rest) = (digits.map numeralValue, rest) := by
  have spanned := spanDigits_append (Text.isDigit_of_isPlainNumeral plain) stops
  rw [Text.isPlainNumeral, Bool.and_eq_true, Bool.or_eq_true, beq_iff_eq] at plain
  rcases plain.2 with rfl | leading
  · rfl
  · cases digits with
    | nil => cases leading
    | cons c others =>
        rw [List.head?_cons, Option.any_some, bne_iff_ne] at leading
        rw [List.cons_append] at spanned ⊢
        rw [readWhole.eq_2 _ (by rintro more same; exact leading (List.cons.inj same).1), spanned]

/-- The decimal form of a number is read as the number. -/
theorem readUnsigned_decimalDigits (negative : Bool) {value : Nat}
    (short : (Text.decimalDigits value).length ≤ Text.digitLimit) {rest : List Char}
    (ends : endsNumber rest = true) :
    readUnsigned negative (Text.decimalDigits value ++ rest) =
      .ok (.int (if negative then -(value : Int) else value), rest) := by
  have number : Text.ofDigits ((Text.decimalDigits value).map numeralValue) = value := by
    have digits := Text.ofDigits_map (Text.decimalDigits value)
    rw [Text.decimalDigits, Nat.ofDigitChars_ten_toDigits] at digits
    exact digits
  obtain ⟨c, others, written⟩ := List.exists_cons_of_ne_nil
    (show Text.decimalDigits value ≠ [] from Nat.toDigits_ne_nil)
  have whole := readWhole_plain (Text.isPlainNumeral_decimalDigits value) (stops_of_ends ends)
  have notLong : ¬Text.digitLimit < ((Text.decimalDigits value).map numeralValue).length := by
    rw [List.length_map]
    exact Nat.not_lt.mpr short
  rw [readUnsigned, whole]
  rw [written, List.map_cons] at number notLong ⊢
  simp only [readFraction_of_ends ends, readExponent_of_ends ends, List.isEmpty_nil, Option.isNone_none,
    Bool.and_self, if_true, if_neg notLong, number]

/-- No word starts as a number does. -/
theorem readWord?_of_isDigit {c : Char} (digit : c.isDigit = true) (rest : List Char) :
    readWord? (c :: rest) = none ∧ readWord? ('-' :: c :: rest) = none := by
  have listed : c ∈ ['0', '1', '2', '3', '4', '5', '6', '7', '8', '9'] := by
    obtain ⟨value, rfl⟩ := Text.exists_digitChar digit
    clear digit
    revert value
    decide
  simp only [List.mem_cons, List.not_mem_nil, or_false] at listed
  rcases listed with rfl | rfl | rfl | rfl | rfl | rfl | rfl | rfl | rfl | rfl
  all_goals exact ⟨rfl, rfl⟩

theorem readScalar_unsigned {c : Char} (digit : c.isDigit = true) (rest : List Char) :
    readScalar (c :: rest) = readUnsigned false (c :: rest) := by
  have unsigned : ∀ others, c :: rest = '-' :: others → False := by
    intro others same
    rw [(List.cons.inj same).1] at digit
    cases digit
  simp only [readScalar, (readWord?_of_isDigit digit rest).1]

theorem readScalar_signed {c : Char} (digit : c.isDigit = true) {rest : List Char}
    {found : Json × List Char} (read : readUnsigned true (c :: rest) = .ok found) :
    readScalar ('-' :: c :: rest) = .ok found := by
  simp only [readScalar, (readWord?_of_isDigit digit rest).2, read]

/-- An integer is read from its decimal form. -/
theorem readScalar_decimalInt {value : Int} (fits : Text.hasDecimal value = true) {rest : List Char}
    (ends : endsNumber rest = true) :
    readScalar ((Text.decimalInt value).toList ++ rest) = .ok (.int value, rest) := by
  simp only [Text.hasDecimal, decide_eq_true_eq] at fits
  obtain ⟨c, more, written⟩ := List.exists_cons_of_ne_nil
    (show Text.decimalDigits value.natAbs ≠ [] from Nat.toDigits_ne_nil)
  have digit : c.isDigit = true := Text.isDigit_of_mem_decimalDigits (written ▸ List.mem_cons_self)
  rcases Int.lt_or_le value 0 with negative | nonneg
  · have read := readUnsigned_decimalDigits true fits ends
    have number : -(value.natAbs : Int) = value := by omega
    rw [written, if_pos rfl, number, List.cons_append] at read
    rw [Text.toList_decimalInt_of_neg negative, written]
    exact readScalar_signed digit read
  · have read := readUnsigned_decimalDigits false fits ends
    have number : (value.natAbs : Int) = value := by omega
    rw [written, if_neg Bool.false_ne_true, number, List.cons_append] at read
    rw [Text.toList_decimalInt_of_nonneg nonneg, written, List.cons_append, readScalar_unsigned digit, read]

/-- Whether a number can start with a character. -/
def startsNumber (c : Char) : Bool :=
  c.isDigit || c == '-' || c == 'N' || c == 'I'

/-- A number starts with no white space and as no other value does. -/
theorem ne_of_startsNumber {c : Char} (starts : startsNumber c = true) :
    isGap c = false ∧ c ≠ ']' ∧ c ≠ '\x22' ∧ c ≠ '[' ∧ c ≠ '\x7b' ∧ c ≠ Char.ofNat 0xFEFF := by
  simp only [startsNumber, Bool.or_eq_true, beq_iff_eq] at starts
  rcases starts with ((digit | rfl) | rfl) | rfl
  · obtain ⟨value, rfl⟩ := Text.exists_digitChar digit
    clear digit
    revert value
    decide
  all_goals decide

theorem startsNumber_decimalInt (value : Int) :
    ∃ c more, (Text.decimalInt value).toList = c :: more ∧ startsNumber c = true := by
  rcases Int.lt_or_le value 0 with negative | nonneg
  · exact ⟨_, _, Text.toList_decimalInt_of_neg negative, rfl⟩
  · obtain ⟨c, more, written⟩ := List.exists_cons_of_ne_nil
      (show Text.decimalDigits value.natAbs ≠ [] from Nat.toDigits_ne_nil)
    have digit : c.isDigit = true := Text.isDigit_of_mem_decimalDigits (written ▸ List.mem_cons_self)
    refine ⟨c, more, (Text.toList_decimalInt_of_nonneg nonneg).trans written, ?_⟩
    rw [startsNumber, digit]
    rfl

end Json

end TapeMultiplier
