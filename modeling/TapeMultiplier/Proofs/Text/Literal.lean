/-
Module: TapeMultiplier.Proofs.Text.Literal
Layer: Proofs
Purpose: The grammar of integer literals.  A literal is a sign, which may be absent, and decimal digits of any
  script in groups with single underscores between them; what is read as an integer is a literal with padding
  around it.
Main exports: IntegerLiteral, Surrounded, exists_grouped_of_numeralDigits, Grouped.numeralDigits_intercalate,
  surrounded_dropWhile, dropWhile_of_surrounded, readInteger_eq_ok_iff, readInteger_trim_eq_ok_iff
-/
import Mathlib.Data.List.TakeWhile
import TapeMultiplier.Proofs.Text.Decimal

namespace TapeMultiplier.Text

/-! ### Literals -/

/-- The value of a decimal digit of any script. -/
def digitValue (c : Char) : Nat :=
  (decimalValue? c).getD 0

/-- Groups of decimal digits: there are some, and none is empty. -/
structure Grouped (groups : List (List Char)) : Prop where
  nonempty : groups ≠ []
  filled : ∀ group ∈ groups, group ≠ []
  decimal : ∀ group ∈ groups, ∀ c ∈ group, isDecimal c = true

/-- An integer literal: at most one sign, then decimal digits in groups that have single underscores between
them. -/
structure IntegerLiteral where
  sign : List Char
  groups : List (List Char)
  signed : sign = [] ∨ sign = ['+'] ∨ sign = ['-']
  grouped : Grouped groups
  short : groups.flatten.length ≤ digitLimit

namespace IntegerLiteral

/-- The digits of the literal with the underscores between them. -/
def numeral (literal : IntegerLiteral) : List Char :=
  ['_'].intercalate literal.groups

/-- The literal as it is typed. -/
def text (literal : IntegerLiteral) : List Char :=
  literal.sign ++ literal.numeral

/-- The number that the literal stands for. -/
def value (literal : IntegerLiteral) : Int :=
  let size : Int := ofDigits (literal.groups.flatten.map digitValue)
  if literal.sign = ['-'] then -size else size

end IntegerLiteral

/-! ### Digits -/

theorem decimalValue?_eq_some_iff {c : Char} {digit : Nat} :
    decimalValue? c = some digit ↔ isDecimal c = true ∧ digit = digitValue c := by
  have found : isDecimal c = (decimalValue? c).isSome := by
    rw [Bool.eq_iff_iff, isDecimal, Ranges.contains, decimalValue?, Ranges.startOf?, Option.isSome_map,
      Option.isSome_map, List.any_eq_true, List.find?_isSome]
  rw [digitValue, found]
  cases decimalValue? c with
  | none => simp
  | some value => simp [eq_comm]

theorem decimalValue?_of_isDecimal {c : Char} (digit : isDecimal c = true) :
    decimalValue? c = some (digitValue c) :=
  decimalValue?_eq_some_iff.mpr ⟨digit, rfl⟩

theorem isNumeralPart_iff {c : Char} : isNumeralPart c = true ↔ c = '_' ∨ isDecimal c = true := by
  rw [isNumeralPart, Bool.or_eq_true, beq_iff_eq, Option.isSome_iff_exists]
  simp [decimalValue?_eq_some_iff]

/-! ### Numerals -/

theorem Grouped.singleton {group : List Char} (filled : group ≠ [])
    (decimal : ∀ c ∈ group, isDecimal c = true) : Grouped [group] :=
  ⟨List.cons_ne_nil _ _, List.forall_mem_singleton.mpr filled, List.forall_mem_singleton.mpr decimal⟩

theorem Grouped.cons {group : List Char} {groups : List (List Char)} (filled : group ≠ [])
    (decimal : ∀ c ∈ group, isDecimal c = true) (grouped : Grouped groups) : Grouped (group :: groups) :=
  ⟨List.cons_ne_nil _ _, List.forall_mem_cons.mpr ⟨filled, grouped.filled⟩,
    List.forall_mem_cons.mpr ⟨decimal, grouped.decimal⟩⟩

/-- One more digit in front of the first group. -/
theorem Grouped.extend {c : Char} {group : List Char} {groups : List (List Char)} (decimal : isDecimal c = true)
    (grouped : Grouped (group :: groups)) : Grouped ((c :: group) :: groups) := by
  obtain ⟨-, filled⟩ := List.forall_mem_cons.mp grouped.filled
  obtain ⟨first, others⟩ := List.forall_mem_cons.mp grouped.decimal
  exact ⟨List.cons_ne_nil _ _, List.forall_mem_cons.mpr ⟨List.cons_ne_nil c group, filled⟩,
    List.forall_mem_cons.mpr ⟨List.forall_mem_cons.mpr ⟨decimal, first⟩, others⟩⟩

/-- Digits, and what follows them if it is nothing or an underscore and a numeral. -/
theorem numeralDigits_group {group : List Char} (filled : group ≠ [])
    (decimal : ∀ c ∈ group, isDecimal c = true) (rest : List Char) :
    numeralDigits group = some (group.map digitValue) ∧
      numeralDigits (group ++ '_' :: rest) =
        (numeralDigits rest).map fun digits => group.map digitValue ++ digits := by
  induction group with
  | nil => contradiction
  | cons c group ih =>
      obtain ⟨first, others⟩ := List.forall_mem_cons.mp decimal
      have value := decimalValue?_of_isDecimal first
      cases group with
      | nil =>
          rw [List.singleton_append, numeralDigits, numeralDigits, value]
          cases numeralDigits rest <;> exact ⟨rfl, rfl⟩
      | cons d group =>
          obtain ⟨alone, followed⟩ := ih (List.cons_ne_nil d group) others
          have notMark : d ≠ '_' := by
            rintro rfl
            exact absurd (others '_' List.mem_cons_self) (by decide)
          have next (more : List Char) : numeralDigits (c :: d :: more) =
              (numeralDigits (d :: more)).map fun digits => digitValue c :: digits := by
            rw [numeralDigits.eq_4 c (d :: more) (by simp) (by rintro _ ⟨⟩; exact notMark rfl), value]
            cases numeralDigits (d :: more) <;> rfl
          rw [List.cons_append, List.cons_append, next, next, alone]
          refine ⟨rfl, ?_⟩
          rw [List.cons_append] at followed
          rw [followed, Option.map_map]
          rfl

/-- A digit and the digits of the rest are read together. -/
theorem digit_bind_eq_some {c : Char} {rest : List Char} {digits : List Nat}
    (read : (do
      let digit ← decimalValue? c
      let others ← numeralDigits rest
      return digit :: others) = some digits) :
    isDecimal c = true ∧ ∃ others, numeralDigits rest = some others ∧ digits = digitValue c :: others := by
  obtain ⟨digit, found, read⟩ := Option.bind_eq_some_iff.mp read
  obtain ⟨others, rested, ⟨⟩⟩ := Option.bind_eq_some_iff.mp read
  obtain ⟨decimal, rfl⟩ := decimalValue?_eq_some_iff.mp found
  exact ⟨decimal, others, rested, rfl⟩

/-- What is read as a numeral is made of groups of digits with single underscores between them. -/
theorem exists_grouped_of_numeralDigits {text : List Char} {digits : List Nat}
    (read : numeralDigits text = some digits) :
    ∃ groups, Grouped groups ∧ text = ['_'].intercalate groups ∧ digits = groups.flatten.map digitValue := by
  induction text using numeralDigits.induct generalizing digits with
  | case1 => cases read
  | case2 c =>
      obtain ⟨digit, found, rfl⟩ := Option.map_eq_some_iff.mp read
      obtain ⟨decimal, rfl⟩ := decimalValue?_eq_some_iff.mp found
      refine ⟨[[c]], .singleton (List.cons_ne_nil c []) (List.forall_mem_singleton.mpr decimal), ?_, rfl⟩
      simp
  | case3 c rest ih =>
      -- An underscore ends the group of the digit before it.
      rw [numeralDigits] at read
      obtain ⟨decimal, others, rested, rfl⟩ := digit_bind_eq_some read
      obtain ⟨groups, grouped, rfl, rfl⟩ := ih rested
      refine ⟨[c] :: groups,
        .cons (List.cons_ne_nil c []) (List.forall_mem_singleton.mpr decimal) grouped, ?_, rfl⟩
      obtain ⟨group, more, rfl⟩ := List.exists_cons_of_ne_nil grouped.nonempty
      rw [List.intercalate_cons_cons]
      rfl
  | case4 c rest nonempty notMark ih =>
      -- Any other character belongs to the same group.
      rw [numeralDigits.eq_4 c rest nonempty notMark] at read
      obtain ⟨decimal, others, rested, rfl⟩ := digit_bind_eq_some read
      obtain ⟨groups, grouped, rfl, rfl⟩ := ih rested
      obtain ⟨group, more, rfl⟩ := List.exists_cons_of_ne_nil grouped.nonempty
      refine ⟨(c :: group) :: more, grouped.extend decimal, ?_, rfl⟩
      cases more with
      | nil => simp
      | cons next more => rw [List.intercalate_cons_cons, List.intercalate_cons_cons]; rfl

/-- Groups of digits with single underscores between them are read as their digits. -/
theorem Grouped.numeralDigits_intercalate {groups : List (List Char)} (grouped : Grouped groups) :
    numeralDigits (['_'].intercalate groups) = some (groups.flatten.map digitValue) := by
  induction groups with
  | nil => exact absurd rfl grouped.nonempty
  | cons group groups ih =>
      obtain ⟨filled, others⟩ := List.forall_mem_cons.mp grouped.filled
      obtain ⟨decimal, decimals⟩ := List.forall_mem_cons.mp grouped.decimal
      cases groups with
      | nil => simpa using (numeralDigits_group filled decimal []).1
      | cons next more =>
          have rest := ih ⟨List.cons_ne_nil next more, others, decimals⟩
          rw [List.intercalate_cons_cons, List.append_assoc, List.singleton_append,
            (numeralDigits_group filled decimal _).2, rest]
          simp

/-- A numeral is made of groups of digits with single underscores between them. -/
theorem numeralDigits_eq_some_iff {text : List Char} {digits : List Nat} :
    numeralDigits text = some digits ↔ ∃ groups, Grouped groups ∧ text = ['_'].intercalate groups ∧
      digits = groups.flatten.map digitValue := by
  refine ⟨exists_grouped_of_numeralDigits, ?_⟩
  rintro ⟨groups, grouped, rfl, rfl⟩
  exact grouped.numeralDigits_intercalate

/-- All characters of a numeral are parts of one. -/
theorem Grouped.isNumeralPart_of_mem {groups : List (List Char)} (grouped : Grouped groups) :
    ∀ c ∈ ['_'].intercalate groups, isNumeralPart c = true := by
  induction groups with
  | nil => exact absurd rfl grouped.nonempty
  | cons group groups ih =>
      obtain ⟨decimal, decimals⟩ := List.forall_mem_cons.mp grouped.decimal
      have digits : ∀ c ∈ group, isNumeralPart c = true := fun c member =>
        isNumeralPart_iff.mpr (.inr (decimal c member))
      cases groups with
      | nil => simpa using digits
      | cons next more =>
          have rest := ih ⟨List.cons_ne_nil next more, (List.forall_mem_cons.mp grouped.filled).2, decimals⟩
          rw [List.intercalate_cons_cons, List.forall_mem_append, List.forall_mem_append]
          exact ⟨⟨digits, List.forall_mem_singleton.mpr (isNumeralPart_iff.mpr (.inl rfl))⟩, rest⟩

/-! ### Text around literals -/

/-- A text with a core in it, and characters of a class at both ends. -/
def Surrounded (isOuter : Char → Bool) (core text : List Char) : Prop :=
  ∃ front back, text = front ++ core ++ back ∧ ∀ c ∈ front ++ back, isOuter c = true

theorem surrounded_dropWhile (isOuter : Char → Bool) (text : List Char) :
    Surrounded isOuter ((text.dropWhile isOuter).reverse.dropWhile isOuter).reverse text := by
  refine ⟨text.takeWhile isOuter, ((text.dropWhile isOuter).reverse.takeWhile isOuter).reverse, ?_, ?_⟩
  · rw [List.append_assoc, ← List.reverse_append, List.takeWhile_append_dropWhile, List.reverse_reverse,
      List.takeWhile_append_dropWhile]
  · rw [List.forall_mem_append]
    exact ⟨fun c member => List.mem_takeWhile_imp member,
      fun c member => List.mem_takeWhile_imp (List.mem_reverse.mp member)⟩

/-- What is dropped from both ends of a text is what stands around its core. -/
theorem dropWhile_of_surrounded {isOuter : Char → Bool} {core text : List Char}
    (solid : ∀ c ∈ core, isOuter c = false) (surrounded : Surrounded isOuter core text) :
    ((text.dropWhile isOuter).reverse.dropWhile isOuter).reverse = core := by
  obtain ⟨front, back, rfl, outer⟩ := surrounded
  obtain ⟨before, behind⟩ := List.forall_mem_append.mp outer
  have kept : ∀ part rest : List Char, (∀ c ∈ part, isOuter c = false) → part ≠ [] →
      (part ++ rest).dropWhile isOuter = part ++ rest := by
    intro part rest inner nonempty
    obtain ⟨c, more, rfl⟩ := List.exists_cons_of_ne_nil nonempty
    exact List.dropWhile_cons_of_neg (by simp [inner c List.mem_cons_self])
  rw [List.append_assoc, List.dropWhile_append_of_pos before]
  by_cases empty : core = []
  · subst empty
    have none : back.dropWhile isOuter = [] := List.dropWhile_eq_nil_iff.mpr behind
    rw [List.nil_append, none]
    rfl
  · have reversed : ∀ c ∈ core.reverse, isOuter c = false := fun c member =>
      solid c (List.mem_reverse.mp member)
    have ended : ∀ c ∈ back.reverse, isOuter c = true := fun c member =>
      behind c (List.mem_reverse.mp member)
    have last := kept core.reverse [] reversed (by simpa using empty)
    rw [List.append_nil] at last
    rw [kept core back solid empty, List.reverse_append, List.dropWhile_append_of_pos ended, last,
      List.reverse_reverse]

/-! ### Reading literals -/

theorem Ranges.contains_of_apart {left right : Ranges} {point : Nat}
    (apart : ∀ range ∈ left, ∀ other ∈ right, range.2 < other.1 ∨ other.2 < range.1)
    (inside : left.contains point = true) : right.contains point = false := by
  rw [contains, List.any_eq_true] at inside
  obtain ⟨range, listed, within⟩ := inside
  rw [contains, List.any_eq_false]
  intro other member
  have beside := apart range listed other member
  simp only [Bool.and_eq_true, decide_eq_true_eq] at within ⊢
  omega

theorem isBlank_of_isDecimal {c : Char} (digit : isDecimal c = true) : isBlank c = false := by
  refine Ranges.contains_of_apart ?_ digit
  decide +kernel

theorem isBlank_of_isNumeralPart {c : Char} (part : isNumeralPart c = true) : isBlank c = false := by
  rcases isNumeralPart_iff.mp part with rfl | digit
  · rfl
  · exact isBlank_of_isDecimal digit

theorem exists_sign (text : List Char) : ∃ sign : List Char,
    (sign = [] ∨ sign = ['+'] ∨ sign = ['-']) ∧ text = sign ++ (splitSign text).2 ∧
      (splitSign text).1 = decide (sign = ['-']) := by
  unfold splitSign
  split
  · exact ⟨['-'], by simp, rfl, rfl⟩
  · exact ⟨['+'], by simp, rfl, rfl⟩
  · exact ⟨[], by simp, rfl, rfl⟩

namespace IntegerLiteral

variable (literal : IntegerLiteral)

theorem splitSign_text : splitSign literal.text = (decide (literal.sign = ['-']), literal.numeral) := by
  rw [text]
  rcases literal.signed with unsigned | positive | negative
  · -- A numeral does not start with a sign.
    have part := literal.grouped.isNumeralPart_of_mem
    rw [← numeral] at part
    rw [unsigned, List.nil_append]
    generalize literal.numeral = numeral at part
    unfold splitSign
    split
    · exact absurd (part '-' List.mem_cons_self) (by decide)
    · exact absurd (part '+' List.mem_cons_self) (by decide)
    · rfl
  · rw [positive]
    rfl
  · rw [negative]
    rfl

/-- There is no white space in a literal. -/
theorem isBlank_of_mem_text : ∀ c ∈ literal.text, isBlank c = false := by
  rw [text, List.forall_mem_append]
  refine ⟨?_, fun c member => isBlank_of_isNumeralPart (literal.grouped.isNumeralPart_of_mem c member)⟩
  rcases literal.signed with unsigned | positive | negative
  · rw [unsigned]
    exact List.forall_mem_nil _
  · rw [positive]
    exact List.forall_mem_singleton.mpr rfl
  · rw [negative]
    exact List.forall_mem_singleton.mpr rfl

end IntegerLiteral

theorem digitValue_of_isDigit {c : Char} (digit : c.isDigit = true) :
    isDecimal c = true ∧ digitValue c = c.toNat - 48 := by
  obtain ⟨decimal, value⟩ := decimalValue?_eq_some_iff.mp (decimalValue?_of_isDigit digit)
  exact ⟨decimal, value.symm⟩

/-- The decimal form of a natural number is a literal for it. -/
theorem exists_literal_decimal {value : Nat} (short : (decimalDigits value).length ≤ digitLimit) :
    ∃ literal : IntegerLiteral, literal.text = decimalDigits value ∧ literal.value = value := by
  have digits : ∀ c ∈ decimalDigits value, c.isDigit = true := fun c member =>
    isDigit_of_mem_decimalDigits member
  have values : (decimalDigits value).map digitValue = (decimalDigits value).map fun c => c.toNat - 48 :=
    List.map_congr_left fun c member => (digitValue_of_isDigit (digits c member)).2
  refine ⟨{ sign := [], groups := [decimalDigits value], signed := .inl rfl, short := by simpa using short
            grouped := .singleton Nat.toDigits_ne_nil fun c member =>
              (digitValue_of_isDigit (digits c member)).1 }, ?_, ?_⟩
  · simp [IntegerLiteral.text, IntegerLiteral.numeral]
  · have size : ofDigits ((decimalDigits value).map digitValue) = value := by
      rw [values, ofDigits_map, decimalDigits, Nat.ofDigitChars_ten_toDigits]
    simp [IntegerLiteral.value, size]

theorem isBlank_of_isPadding {c : Char} (padding : isPadding c = true) : isBlank c = true :=
  (Bool.and_eq_true_iff.mp padding).1

/-- What is read as an integer is a literal with padding around it. -/
theorem readInteger_eq_ok_iff {text : List Char} {value : Int} :
    readInteger (String.ofList text) = .ok value ↔
      ∃ literal : IntegerLiteral, Surrounded isPadding literal.text text ∧ literal.value = value := by
  rw [readInteger, String.toList_ofList]
  constructor
  · intro read
    have surrounded := surrounded_dropWhile isPadding text
    rw [← trimPadding] at surrounded
    obtain ⟨sign, signed, whole, negative⟩ := exists_sign (trimPadding text)
    generalize splitSign (trimPadding text) = parts at read whole negative
    obtain ⟨isNegative, numeral⟩ := parts
    dsimp only at read whole negative
    split at read
    · cases read
    · next digits found =>
      split at read
      · cases read
      · next short =>
        split at read
        · next parts =>
          cases read
          rw [List.takeWhile_eq_self_iff.mpr (List.all_eq_true.mp parts)] at found
          obtain ⟨groups, grouped, rfl, rfl⟩ := numeralDigits_eq_some_iff.mp found
          rw [List.length_map, Nat.not_lt] at short
          refine ⟨⟨sign, groups, signed, grouped, short⟩, ?_, ?_⟩
          · rwa [whole] at surrounded
          · subst negative
            simp [IntegerLiteral.value]
        · cases read
  · rintro ⟨literal, surrounded, rfl⟩
    have core : trimPadding text = literal.text := by
      refine dropWhile_of_surrounded (fun c member => ?_) surrounded
      rw [isPadding, literal.isBlank_of_mem_text c member, Bool.false_and]
    have parts := literal.grouped.isNumeralPart_of_mem
    rw [← IntegerLiteral.numeral] at parts
    have found : numeralDigits literal.numeral = some (literal.groups.flatten.map digitValue) :=
      numeralDigits_eq_some_iff.mpr ⟨literal.groups, literal.grouped, rfl, rfl⟩
    have short : ¬digitLimit < (literal.groups.flatten.map digitValue).length := by
      rw [List.length_map]
      exact Nat.not_lt.mpr literal.short
    rw [core, literal.splitSign_text]
    dsimp only
    rw [List.takeWhile_eq_self_iff.mpr parts, found]
    dsimp only
    rw [if_neg short, if_pos (List.all_eq_true.mpr parts)]
    simp [IntegerLiteral.value]

/-- A text is read as an integer, once it is trimmed, just if it is a literal with white space around it. -/
theorem readInteger_trim_eq_ok_iff {text : List Char} {value : Int} :
    readInteger (String.ofList (trim text)) = .ok value ↔
      ∃ literal : IntegerLiteral, Surrounded isBlank literal.text text ∧ literal.value = value := by
  rw [readInteger_eq_ok_iff]
  constructor
  · rintro ⟨literal, ⟨inFront, behind, inner, padding⟩, stands⟩
    obtain ⟨front, back, outer, blank⟩ := surrounded_dropWhile isBlank text
    refine ⟨literal, ⟨front ++ inFront, behind ++ back, ?_, ?_⟩, stands⟩
    · rw [outer, ← trim, inner]
      simp
    · intro c member
      simp only [List.mem_append] at member blank padding
      rcases member with (inOuter | inPadding) | inPadding | inOuter
      · exact blank c (.inl inOuter)
      · exact isBlank_of_isPadding (padding c (.inl inPadding))
      · exact isBlank_of_isPadding (padding c (.inr inPadding))
      · exact blank c (.inr inOuter)
  · rintro ⟨literal, surrounded, stands⟩
    have core : trim text = literal.text := dropWhile_of_surrounded literal.isBlank_of_mem_text surrounded
    exact ⟨literal, ⟨[], [], by simp [core], by simp⟩, stands⟩

end TapeMultiplier.Text
