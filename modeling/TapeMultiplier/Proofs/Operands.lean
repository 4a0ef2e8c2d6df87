/-
Module: TapeMultiplier.Proofs.Operands
Layer: Proofs
Purpose: Which texts are multiplication tasks.  A task is a product of two integer literals with white
  space around them, of positive values; every other text is refused with the first check that it fails. 
  The key of a pair is such a product, so it can be read back, and different pairs have different keys.
Main exports: CutsAtSign, SpellsFactor, SpellsProduct, parseOperands_cases, paddedKey,
  spellsProduct_paddedKey, parseOperands_grammar
-/
import TapeMultiplier.Operands
import TapeMultiplier.Proofs.Bind
import TapeMultiplier.Proofs.Text.Literal

namespace TapeMultiplier

/-! ### Sides -/

/-- A text is cut in two by its only multiplication sign. -/
structure CutsAtSign (text left right : List Char) : Prop where
  joined : ∃ sign, isTimes sign = true ∧ text = left ++ sign :: right
  left : ∀ c ∈ left, isTimes c = false
  right : ∀ c ∈ right, isTimes c = false

theorem factorTexts_of_unmarked {text : List Char} (unmarked : ∀ c ∈ text, isTimes c = false) :
    factorTexts text = [text] := by
  induction text with
  | nil => rfl
  | cons c text ih =>
      obtain ⟨first, rest⟩ := List.forall_mem_cons.mp unmarked
      rw [factorTexts, first, ih rest]
      rfl

theorem factorTexts_append {left : List Char} (unmarked : ∀ c ∈ left, isTimes c = false) {sign : Char}
    (marked : isTimes sign = true) (rest : List Char) :
    factorTexts (left ++ sign :: rest) = left :: factorTexts rest := by
  induction left with
  | nil => rw [List.nil_append, factorTexts, if_pos marked]
  | cons c left ih =>
      obtain ⟨first, others⟩ := List.forall_mem_cons.mp unmarked
      rw [List.cons_append, factorTexts, first, ih others]
      rfl

/-- There is one part more than there are signs. -/
theorem length_factorTexts (text : List Char) :
    (factorTexts text).length = text.countP isTimes + 1 := by
  induction text with
  | nil => rfl
  | cons c text ih =>
      rw [factorTexts]
      split
      · next marked => rw [List.length_cons, ih, List.countP_cons_of_pos marked]
      · next unmarked =>
        rw [List.countP_cons_of_neg unmarked, ← ih]
        cases parts : factorTexts text with
        | nil =>
            rw [parts] at ih
            cases ih
        | cons part parts => rfl

/-- A text with a single sign is cut in two there. -/
theorem exists_cutsAtSign {text : List Char} (single : text.countP isTimes = 1) :
    ∃ left right, CutsAtSign text left right := by
  have marked : 0 < text.countP isTimes := by omega
  obtain ⟨sign, member, isSign⟩ := List.countP_pos_iff.mp marked
  obtain ⟨left, right, rfl⟩ := List.append_of_mem member
  rw [List.countP_append, List.countP_cons_of_pos isSign] at single
  have noLeft : left.countP isTimes = 0 := by omega
  have noRight : right.countP isTimes = 0 := by omega
  rw [List.countP_eq_zero] at noLeft noRight
  exact ⟨left, right, ⟨sign, isSign, rfl⟩, fun c inside => by simpa using noLeft c inside,
    fun c inside => by simpa using noRight c inside⟩

namespace CutsAtSign

variable {text left right : List Char}

theorem factorTexts_eq (cuts : CutsAtSign text left right) : factorTexts text = [left, right] := by
  obtain ⟨⟨sign, marked, rfl⟩, inLeft, inRight⟩ := cuts
  rw [factorTexts_append inLeft marked, factorTexts_of_unmarked inRight]

theorem countP_eq (cuts : CutsAtSign text left right) : text.countP isTimes = 1 := by
  have parts := length_factorTexts text
  rw [cuts.factorTexts_eq] at parts
  exact (Nat.succ.inj parts).symm

end CutsAtSign

/-! ### Factors -/

/-- A side spells a number: it is a literal for the number with white space around it. -/
def SpellsFactor (side : List Char) (value : Int) : Prop :=
  ∃ literal : Text.IntegerLiteral, Text.Surrounded Text.isBlank literal.text side ∧ literal.value = value

theorem readFactor_eq_ok_iff {side : List Char} {value : Int} :
    readFactor side = .ok value ↔ SpellsFactor side value := by
  rw [SpellsFactor, ← Text.readInteger_trim_eq_ok_iff, readFactor]
  cases Text.readInteger (String.ofList (Text.trim side)) with
  | ok found => simp
  | error refusal => simp

theorem readFactor_of_not_spells {side : List Char} (noLiteral : ¬∃ value, SpellsFactor side value) :
    readFactor side = .error .wholeNumbers := by
  cases read : readFactor side with
  | ok value => exact absurd ⟨value, readFactor_eq_ok_iff.mp read⟩ noLiteral
  | error refusal =>
      rw [readFactor] at read
      split at read <;> cases read
      rfl

/-- A text spells a product: both sides of its only sign spell numbers. -/
def SpellsProduct (text : String) (a b : Int) : Prop :=
  ∃ left right, CutsAtSign text.toList left right ∧ SpellsFactor left a ∧ SpellsFactor right b

theorem SpellsProduct.single {text : String} {a b : Int} (spells : SpellsProduct text a b) :
    text.toList.countP isTimes = 1 := by
  obtain ⟨left, right, cuts, -⟩ := spells
  exact cuts.countP_eq

/-- A text spells one product at most. -/
theorem SpellsProduct.unique {text : String} {a b c d : Int} (spells : SpellsProduct text a b)
    (others : SpellsProduct text c d) : a = c ∧ b = d := by
  obtain ⟨left, right, cuts, first, second⟩ := spells
  obtain ⟨otherLeft, otherRight, otherCuts, third, fourth⟩ := others
  have parts := cuts.factorTexts_eq.symm.trans otherCuts.factorTexts_eq
  simp only [List.cons.injEq, and_true] at parts
  obtain ⟨rfl, rfl⟩ := parts
  rw [← readFactor_eq_ok_iff] at first second third fourth
  exact ⟨Except.ok.inj (first.symm.trans third), Except.ok.inj (second.symm.trans fourth)⟩

theorem checkOperands_eq {a b : Int} :
    checkOperands a b = if 1 ≤ a ∧ 1 ≤ b then .ok () else .error .positive := by
  rw [checkOperands]
  split <;> split <;> first | rfl | omega

/-! ### Reading tasks -/

variable {text : String}

theorem parseOperands_of_spells {a b : Int} (spells : SpellsProduct text a b) :
    parseOperands text = if 1 ≤ a ∧ 1 ≤ b then .ok (a, b) else .error .positive := by
  obtain ⟨left, right, cuts, first, second⟩ := spells
  rw [parseOperands, cuts.factorTexts_eq]
  dsimp only
  rw [readFactor_eq_ok_iff.mpr first, readFactor_eq_ok_iff.mpr second]
  show (checkOperands a b >>= fun _ => pure (a, b)) = _
  rw [checkOperands_eq]
  split <;> rfl

theorem parseOperands_of_not_spells (single : text.toList.countP isTimes = 1)
    (noProduct : ¬∃ a b, SpellsProduct text a b) : parseOperands text = .error .wholeNumbers := by
  obtain ⟨left, right, cuts⟩ := exists_cutsAtSign single
  rw [parseOperands, cuts.factorTexts_eq]
  dsimp only
  by_cases first : ∃ a, SpellsFactor left a
  · obtain ⟨a, spelt⟩ := first
    have second : ¬∃ b, SpellsFactor right b :=
      fun ⟨b, other⟩ => noProduct ⟨a, b, left, right, cuts, spelt, other⟩
    rw [readFactor_eq_ok_iff.mpr spelt, readFactor_of_not_spells second]
    rfl
  · rw [readFactor_of_not_spells first]
    rfl

theorem parseOperands_of_unsigned (other : text.toList.countP isTimes ≠ 1) :
    parseOperands text = .error .form := by
  rw [parseOperands]
  split
  · next left right parts =>
    have count := length_factorTexts text.toList
    rw [parts] at count
    exact absurd (Nat.succ.inj count).symm other
  · rfl

/-- What comes of a text: another number of signs than one is a wrong form, sides that are no literals are no
whole numbers, and literals give their numbers if these are positive. -/
theorem parseOperands_cases (text : String) :
    (text.toList.countP isTimes ≠ 1 ∧ parseOperands text = .error .form) ∨
      ((text.toList.countP isTimes = 1 ∧ ¬∃ a b, SpellsProduct text a b) ∧
        parseOperands text = .error .wholeNumbers) ∨
      ∃ a b, SpellsProduct text a b ∧
        parseOperands text = if 1 ≤ a ∧ 1 ≤ b then .ok (a, b) else .error .positive := by
  by_cases single : text.toList.countP isTimes = 1
  · by_cases product : ∃ a b, SpellsProduct text a b
    · obtain ⟨a, b, spells⟩ := product
      exact .inr (.inr ⟨a, b, spells, parseOperands_of_spells spells⟩)
    · exact .inr (.inl ⟨⟨single, product⟩, parseOperands_of_not_spells single product⟩)
  · exact .inl ⟨single, parseOperands_of_unsigned single⟩

/-- What is read of a text.  It is a pair of positive numbers or one of the three errors.  It is the pair just
if the text spells its product.  Of the errors, that of the form says that the number of signs is wrong; else
that of whole numbers says that a side is no literal; else a number is not positive. -/
structure ReadsTask (text : String) (outcome : Except OperandError (Int × Int)) : Prop where
  answers : (∃ a b, 1 ≤ a ∧ 1 ≤ b ∧ outcome = .ok (a, b)) ∨ ∃ refusal, outcome = .error refusal
  pair : ∀ a b, outcome = .ok (a, b) ↔ SpellsProduct text a b ∧ 1 ≤ a ∧ 1 ≤ b
  form : outcome = .error .form ↔ text.toList.countP isTimes ≠ 1
  wholeNumbers : outcome = .error .wholeNumbers ↔
    text.toList.countP isTimes = 1 ∧ ¬∃ a b, SpellsProduct text a b
  positive : outcome = .error .positive ↔ ∃ a b, SpellsProduct text a b ∧ ¬(1 ≤ a ∧ 1 ≤ b)

theorem readsTask_parseOperands (text : String) : ReadsTask text (parseOperands text) := by
  rcases parseOperands_cases text with ⟨other, read⟩ | ⟨⟨single, noProduct⟩, read⟩ | ⟨a, b, spells, read⟩
  · -- No product is spelt without its single sign.
    have none : ∀ a b, ¬SpellsProduct text a b := fun a b spells => other spells.single
    constructor <;> simp [read, other, none]
  · have none : ∀ a b, ¬SpellsProduct text a b := fun a b spells => noProduct ⟨a, b, spells⟩
    constructor <;> simp [read, single, none]
  · have only : ∀ c d, SpellsProduct text c d ↔ a = c ∧ b = d := by
      refine fun c d => ⟨spells.unique, ?_⟩
      rintro ⟨rfl, rfl⟩
      exact spells
    rw [read]
    by_cases positive : 1 ≤ a ∧ 1 ≤ b
    · rw [if_pos positive]
      constructor <;> simp [only, spells.single, positive]
    · have refused : 1 ≤ a → b < 1 := by omega
      rw [if_neg positive]
      refine ⟨.inr ⟨_, rfl⟩, ?_, ?_, ?_, ?_⟩
      · simpa [only] using refused
      · simp [spells.single]
      · simp [only]
      · simpa [only] using refused

/-! ### Keys -/

/-- The key of a pair with texts around its numbers. -/
def paddedKey (front behindFirst beforeSecond back : List Char) (a b : Int) : String :=
  String.ofList (front ++ (Text.decimalInt a).toList ++ behindFirst ++
    'x' :: (beforeSecond ++ (Text.decimalInt b).toList ++ back))

theorem paddedKey_nil (a b : Int) : paddedKey [] [] [] [] a b = pairKey a b := by
  rw [← String.toList_inj]
  simp [paddedKey, pairKey]

theorem isTimes_of_isBlank {c : Char} (blank : Text.isBlank c = true) : isTimes c = false := by
  rw [isTimes, Bool.or_eq_false_iff, beq_eq_false_iff_ne, beq_eq_false_iff_ne]
  constructor <;> rintro rfl <;> exact absurd blank (by decide)

/-- A side of the key of positive numbers is free of signs, and spells its number. -/
theorem spells_decimalInt {value : Int} (positive : 1 ≤ value) (short : Text.hasDecimal value = true)
    {front back : List Char} (blank : ∀ c ∈ front ++ back, Text.isBlank c = true) :
    SpellsFactor (front ++ (Text.decimalInt value).toList ++ back) value ∧
      ∀ c ∈ front ++ (Text.decimalInt value).toList ++ back, isTimes c = false := by
  have nonneg : 0 ≤ value := by omega
  rw [Text.hasDecimal, decide_eq_true_eq] at short
  rw [Text.toList_decimalInt_of_nonneg nonneg]
  obtain ⟨literal, typed, stands⟩ := Text.exists_literal_decimal short
  refine ⟨⟨literal, ⟨front, back, by rw [typed], blank⟩, by rw [stands]; omega⟩, ?_⟩
  obtain ⟨inFront, inBack⟩ := List.forall_mem_append.mp blank
  rw [List.forall_mem_append, List.forall_mem_append]
  refine ⟨⟨fun c member => isTimes_of_isBlank (inFront c member), fun c member => ?_⟩,
    fun c member => isTimes_of_isBlank (inBack c member)⟩
  have digit := Text.isDigit_of_mem_decimalDigits member
  rw [isTimes, Bool.or_eq_false_iff, beq_eq_false_iff_ne, beq_eq_false_iff_ne]
  constructor <;> rintro rfl <;> exact absurd digit (by decide)

/-- A key spells the product of its numbers, also with white space around them. -/
theorem spellsProduct_paddedKey {a b : Int} (first : 1 ≤ a) (second : 1 ≤ b)
    (firstShort : Text.hasDecimal a = true) (secondShort : Text.hasDecimal b = true)
    {front behindFirst beforeSecond back : List Char}
    (outer : ∀ c ∈ front ++ behindFirst, Text.isBlank c = true)
    (inner : ∀ c ∈ beforeSecond ++ back, Text.isBlank c = true) :
    SpellsProduct (paddedKey front behindFirst beforeSecond back a b) a b := by
  obtain ⟨spellsFirst, unmarkedFirst⟩ := spells_decimalInt first firstShort outer
  obtain ⟨spellsSecond, unmarkedSecond⟩ := spells_decimalInt second secondShort inner
  exact ⟨_, _, ⟨⟨'x', rfl, String.toList_ofList⟩, unmarkedFirst, unmarkedSecond⟩, spellsFirst, spellsSecond⟩

theorem parseOperands_paddedKey {a b : Int} (first : 1 ≤ a) (second : 1 ≤ b)
    (firstShort : Text.hasDecimal a = true) (secondShort : Text.hasDecimal b = true)
    {front behindFirst beforeSecond back : List Char}
    (outer : ∀ c ∈ front ++ behindFirst, Text.isBlank c = true)
    (inner : ∀ c ∈ beforeSecond ++ back, Text.isBlank c = true) :
    parseOperands (paddedKey front behindFirst beforeSecond back a b) = .ok (a, b) :=
  (readsTask_parseOperands _).pair a b |>.mpr
    ⟨spellsProduct_paddedKey first second firstShort secondShort outer inner, first, second⟩

/-- The texts of multiplication tasks are the products of positive integer literals, with a single sign of
either case and with white space around the literals; every other text is refused with the first check that it
fails.  The key of a pair of positive numbers is read as the pair, whatever white space stands around the
numbers, so there is no other such pair with the same key. -/
theorem parseOperands_grammar :
    (∀ text, ReadsTask text (parseOperands text)) ∧
    (∀ a b : Int, 1 ≤ a → 1 ≤ b → Text.hasDecimal a = true → Text.hasDecimal b = true →
      (∀ front behindFirst beforeSecond back : List Char,
        (∀ c ∈ front ++ behindFirst, Text.isBlank c = true) →
        (∀ c ∈ beforeSecond ++ back, Text.isBlank c = true) →
        parseOperands (paddedKey front behindFirst beforeSecond back a b) = .ok (a, b)) ∧
      ∀ c d : Int, 1 ≤ c → 1 ≤ d → Text.hasDecimal c = true → Text.hasDecimal d = true →
        pairKey a b = pairKey c d → a = c ∧ b = d) := by
  refine ⟨readsTask_parseOperands, fun a b first second firstShort secondShort => ⟨?_, ?_⟩⟩
  · intro front behindFirst beforeSecond back outer inner
    exact parseOperands_paddedKey first second firstShort secondShort outer inner
  · intro c d third fourth thirdShort fourthShort same
    have none : ∀ c ∈ ([] ++ [] : List Char), Text.isBlank c = true := by simp
    have read := parseOperands_paddedKey first second firstShort secondShort none none
    have other := parseOperands_paddedKey third fourth thirdShort fourthShort none none
    -- The same key is read as both pairs.
    rw [paddedKey_nil] at read other
    rw [same, other] at read
    cases read
    exact ⟨rfl, rfl⟩

theorem parseOperands_grammar_twelve_three : parseOperands "\t12 x3\n" = .ok (12, 3) := by
  have key : paddedKey ['\t'] [' '] [] ['\n'] 12 3 = "\t12 x3\n" := by decide
  have read := (parseOperands_grammar.2 12 3 (by decide) (by decide) (by decide) (by decide)).1
    ['\t'] [' '] [] ['\n'] (List.all_eq_true.mp rfl) (List.all_eq_true.mp rfl)
  rwa [key] at read

end TapeMultiplier
