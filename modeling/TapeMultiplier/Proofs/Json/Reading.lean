/-
Module: TapeMultiplier.Proofs.Json.Reading
Layer: Proofs
Purpose: What is read can be written and read again.  A value that a text yields has integers that are not
  too long, strings in which no half stands before its other half, different names in each object, and
  it is nested no deeper than there was room.
Main exports: Json.unjoined_of_readString, Json.Fits, Json.FieldFits, Json.fits_of_readWithin
-/
import Mathlib.Data.List.Chain
import Mathlib.Data.List.TakeWhile
import TapeMultiplier.Proofs.Json.RoundTrip

namespace TapeMultiplier

namespace Json

/-! ### Strings -/

theorem unjoined_iff_isChain {elements : List RawChar} :
    unjoined elements = true ↔ elements.IsChain fun first second => joins first second = false := by
  induction elements with
  | nil => simp [unjoined]
  | cons first rest ih =>
      cases rest with
      | nil => simp [unjoined]
      | cons second rest =>
          rw [unjoined, Bool.and_eq_true, ih, List.isChain_cons_cons, Bool.not_eq_true']

theorem joins_eq_true {first second : RawChar} : joins first second = true ↔
    ∃ high low : Fin 2048, first = .half high ∧ second = .half low ∧ high.val < 0x400 ∧
      0x400 ≤ low.val := by
  cases first with
  | char c => simp [joins]
  | half high =>
      cases second with
      | char c => simp [joins]
      | half low => simp [joins]

theorem unit_of_ofUnit {unit : Nat} {distance : Fin 2048} (half : RawChar.ofUnit unit = .half distance) :
    unit = 0xD800 + distance.val ∧ unit ≤ 0xDFFF := by
  rw [RawChar.ofUnit] at half
  split at half
  · next range =>
    have number := congrArg Fin.val (RawChar.half.inj half)
    rw [Fin.val_ofNat] at number
    omega
  · cases half

/-- A first half is read only where its other half does not follow, and a second half only from a unit
that would be the other half of a first one in front of it. -/
theorem readEscape_eq_half {text rest : List Char} {distance : Fin 2048}
    (read : readEscape text = .ok (.half distance, rest)) :
    (distance.val < 0x400 → readLowUnit? rest = none) ∧
      (0x400 ≤ distance.val → readLowUnit? ('\x5c' :: text) ≠ none) := by
  cases text with
  | nil => cases read
  | cons c text =>
      rw [readEscape] at read
      split at read
      · next mark =>
        subst mark
        split at read
        · next found units =>
          cases read
          obtain ⟨⟨unit, behind⟩, first, units⟩ := Option.bind_eq_some_iff.mp units
          dsimp only at units
          split at units
          · next high =>
            split at units
            · next => cases units
            · next alone =>
              obtain ⟨half, rfl⟩ := Prod.mk.inj (Option.some.inj units)
              obtain ⟨rfl, -⟩ := unit_of_ofUnit half
              exact ⟨fun _ => alone, fun low => by omega⟩
          · next notHigh =>
            obtain ⟨half, rfl⟩ := Prod.mk.inj (Option.some.inj units)
            obtain ⟨rfl, top⟩ := unit_of_ofUnit half
            refine ⟨fun high => by omega, fun low => ?_⟩
            simp only [readLowUnit?, first, bind, Option.bind]
            rw [if_pos (by omega)]
            exact Option.some_ne_none _
        · cases read
      · split at read
        · cases read
        · cases read

/-- The elements read so far, last first: no half stands before its other half, and none is about to. -/
structure Apart (read : List RawChar) (text : List Char) : Prop where
  chain : read.IsChain fun later earlier => joins earlier later = false
  alone : ∀ distance, read.head? = some (.half distance) → distance.val < 0x400 →
    readLowUnit? text = none

theorem Apart.push_char {read : List RawChar} {text : List Char} (apart : Apart read text) (c : Char)
    (rest : List Char) : Apart (.char c :: read) rest := by
  refine ⟨List.isChain_cons.mpr ⟨fun earlier _ => ?_, apart.chain⟩, fun distance first => ?_⟩
  · cases earlier <;> rfl
  · cases first

theorem Apart.push_escape {read : List RawChar} {text rest : List Char} {element : RawChar}
    (apart : Apart read ('\x5c' :: text)) (escaped : readEscape text = .ok (element, rest)) :
    Apart (element :: read) rest := by
  cases element with
  | char c => exact apart.push_char c rest
  | half distance =>
      obtain ⟨first, second⟩ := readEscape_eq_half escaped
      refine ⟨List.isChain_cons.mpr ⟨fun earlier last => ?_, apart.chain⟩, ?_⟩
      · rw [Bool.eq_false_iff]
        intro joined
        obtain ⟨high, low, rfl, ⟨⟩, highRange, lowRange⟩ := joins_eq_true.mp joined
        exact second lowRange (apart.alone high last highRange)
      · rintro _ ⟨⟩
        exact first

theorem unjoined_of_readCharacters {fuel : Nat} {read found : List RawChar} {text rest : List Char}
    (apart : Apart read text) (done : readCharacters read fuel text = .ok (found, rest)) :
    unjoined found = true := by
  induction fuel generalizing read text with
  | zero => cases done
  | succ fuel ih =>
      cases text with
      | nil => cases done
      | cons c text =>
          rw [readCharacters] at done
          split at done
          · cases done
            rw [unjoined_iff_isChain, List.isChain_reverse]
            exact apart.chain
          · split at done
            · next mark =>
              subst mark
              split at done
              · next escaped => exact ih (apart.push_escape escaped) done
              · cases done
            · split at done
              · cases done
              · exact ih (apart.push_char c text) done

/-- In a string that is read no half stands before its other half. -/
theorem unjoined_of_readString {fuel : Nat} {text rest : List Char} {found : RawText}
    (read : readString fuel text = .ok (found, rest)) : unjoined found.elements = true := by
  rw [readString] at read
  split at read
  · next done =>
    cases read
    exact unjoined_of_readCharacters ⟨List.isChain_nil, fun _ none => by cases none⟩ done
  · cases read
  · cases read

/-! ### Numbers and words -/

theorem numeralValue_lt {c : Char} (numeral : isNumeral c = true) : numeralValue c < 10 := by
  rw [isNumeral, Bool.and_eq_true, decide_eq_true_eq, decide_eq_true_eq] at numeral
  have above : '0'.toNat ≤ c.toNat := numeral.1
  have below : c.toNat ≤ '9'.toNat := numeral.2
  show c.toNat - 48 < 10
  have nine : '9'.toNat = 57 := rfl
  omega

theorem spanDigits_lt (text : List Char) : ∀ digit ∈ (spanDigits text).1, digit < 10 := by
  intro digit member
  obtain ⟨c, taken, rfl⟩ := List.mem_map.mp member
  exact numeralValue_lt (List.mem_takeWhile_imp taken)

theorem readWhole_lt (text : List Char) : ∀ digit ∈ (readWhole text).1, digit < 10 := by
  unfold readWhole
  split
  · intro digit member
    rw [List.mem_singleton.mp member]
    decide
  · exact spanDigits_lt text

/-- A value of no depth that is read as it was written. -/
def IsScalar (value : Json) : Prop :=
  faithful value = true ∧ depth value = 0

theorem isScalar_of_readUnsigned {negative : Bool} {text rest : List Char} {value : Json}
    (read : readUnsigned negative text = .ok (value, rest)) : IsScalar value := by
  have small := readWhole_lt text
  rw [readUnsigned] at read
  split at read
  · cases read
  · next whole behind notEmpty wholes =>
    rw [wholes] at small
    split at read
    split at read
    split at read
    · split at read
      · cases read
      · next short =>
        cases read
        exact ⟨Text.hasDecimal_ofDigits negative small (Nat.le_of_not_lt short), rfl⟩
    · cases read
      exact ⟨rfl, rfl⟩

theorem isScalar_of_readWord? {text rest : List Char} {value : Json}
    (read : readWord? text = some (value, rest)) : IsScalar value := by
  obtain ⟨⟨word, meaning⟩, listed, found⟩ := List.exists_of_findSome?_eq_some read
  obtain ⟨behind, -, same⟩ := Option.map_eq_some_iff.mp found
  obtain ⟨rfl, -⟩ := Prod.mk.inj same
  rw [wordValues] at listed
  simp only [List.mem_cons, List.not_mem_nil, or_false, Prod.mk.injEq] at listed
  rcases listed with ⟨-, rfl⟩ | ⟨-, rfl⟩ | ⟨-, rfl⟩ | ⟨-, rfl⟩ | ⟨-, rfl⟩ | ⟨-, rfl⟩
  all_goals exact ⟨rfl, rfl⟩

theorem isScalar_of_readScalar {text rest : List Char} {value : Json}
    (read : readScalar text = .ok (value, rest)) : IsScalar value := by
  unfold readScalar at read
  split at read
  · next found word =>
    cases read
    exact isScalar_of_readWord? word
  · split at read
    · split at read
      · cases read
      · next answer _ => exact isScalar_of_readUnsigned read
    · exact isScalar_of_readUnsigned read

/-! ### Values -/

/-- A value that is read as it was written, where there is so much room for what is nested. -/
def Fits (room : Nat) (value : Json) : Prop :=
  faithful value = true ∧ depth value ≤ room

theorem IsScalar.fits {value : Json} (scalar : IsScalar value) (room : Nat) : Fits room value :=
  ⟨scalar.1, scalar.2 ▸ Nat.zero_le room⟩

theorem Fits.mono {room more : Nat} {value : Json} (fit : Fits room value) (enough : room ≤ more) :
    Fits more value :=
  ⟨fit.1, Nat.le_trans fit.2 enough⟩

theorem fits_list {room : Nat} {items : List Json} (fit : ∀ item ∈ items, Fits room item) :
    Fits (room + 1) (.list items) := by
  refine ⟨faithfulItems_iff.mpr fun item member => (fit item member).1, ?_⟩
  rw [depth, Nat.add_le_add_iff_right]
  exact depthItems_le_iff.mpr fun item member => (fit item member).2

/-- A field whose name and whose value are read as they were written. -/
def FieldFits (room : Nat) (field : RawText × Json) : Prop :=
  unjoined field.1.elements = true ∧ Fits room field.2

theorem fits_object {room : Nat} {fields : List (RawText × Json)} (distinct : (names fields).Nodup)
    (fit : ∀ field ∈ fields, FieldFits room field) : Fits (room + 1) (.object fields) := by
  refine ⟨faithfulFields_iff.mpr ⟨distinct, fun field member => ?_⟩, ?_⟩
  · exact ⟨(fit field member).1, (fit field member).2.1⟩
  · rw [depth, Nat.add_le_add_iff_right]
    exact depthFields_le_iff.mpr fun field member => (fit field member).2.2

theorem Fits.of_object {room : Nat} {fields : List (RawText × Json)} (fit : Fits (room + 1) (.object fields)) :
    (names fields).Nodup ∧ ∀ field ∈ fields, FieldFits room field := by
  obtain ⟨isFaithful, shallow⟩ := fit
  obtain ⟨distinct, each⟩ := faithfulFields_iff.mp isFaithful
  rw [depth, Nat.add_le_add_iff_right] at shallow
  exact ⟨distinct, fun field member =>
    ⟨(each field member).1, (each field member).2, depthFields_le_iff.mp shallow field member⟩⟩

theorem fits_ofFields {room : Nat} {fields : List (RawText × Json)}
    (fit : ∀ field ∈ fields, FieldFits room field) : Fits (room + 1) (.object (ofFields fields)) := by
  have distinct : (names (ofFields fields)).Nodup := @nodup_overlay [] List.nodup_nil fields
  refine fits_object distinct fun field member => ?_
  rcases @mem_overlay [] fields field member with none | known
  · cases none
  · exact fit field known

mutual

theorem fits_of_readValue : ∀ {fuel room : Nat} {text rest : List Char} {value : Json},
    readValue fuel room text = .ok (value, rest) → Fits room value
  | 0, _, _, _, _, read => by cases read
  | fuel + 1, room, [], _, _, read => by cases read
  | fuel + 1, room, c :: text, rest, value, read => by
      unfold readValue at read
      dsimp only at read
      split at read
      · split at read
        · next found =>
          cases read
          exact ⟨unjoined_of_readString found, Nat.zero_le room⟩
        · cases read
      · split at read
        · cases room with
          | zero => cases read
          | succ room =>
              dsimp only at read
              split at read
              · cases read
                exact fits_list (List.forall_mem_nil _)
              · split at read
                · next found =>
                  cases read
                  exact fits_list (fits_of_readItems found)
                · cases read
        · split at read
          · cases room with
            | zero => cases read
            | succ room =>
                dsimp only at read
                split at read
                · cases read
                  exact fits_object List.nodup_nil (List.forall_mem_nil _)
                · split at read
                  · next found =>
                    cases read
                    exact fits_ofFields (fits_of_readFields found)
                  · cases read
          · exact (isScalar_of_readScalar read).fits room

theorem fits_of_readItems : ∀ {fuel room : Nat} {text rest : List Char} {items : List Json},
    readItems fuel room text = .ok (items, rest) → ∀ item ∈ items, Fits room item
  | 0, _, _, _, _, read => by cases read
  | fuel + 1, room, text, rest, items, read => by
      unfold readItems at read
      split at read
      · cases read
      · next item behind first =>
        have fit := fits_of_readValue first
        split at read
        · cases read
          exact List.forall_mem_singleton.mpr fit
        · split at read
          · next others =>
            cases read
            exact List.forall_mem_cons.mpr ⟨fit, fits_of_readItems others⟩
          · cases read
        · cases read

theorem fits_of_readFields : ∀ {fuel room : Nat} {text rest : List Char} {fields : List (RawText × Json)},
    readFields fuel room text = .ok (fields, rest) → ∀ field ∈ fields, FieldFits room field
  | 0, _, _, _, _, read => by cases read
  | fuel + 1, room, text, rest, fields, read => by
      unfold readFields at read
      split at read
      · split at read
        · cases read
        · next name behind named =>
          have apart := unjoined_of_readString named
          split at read
          · split at read
            · cases read
            · next value after first =>
              have fit : FieldFits room (name, value) := ⟨apart, fits_of_readValue first⟩
              split at read
              · cases read
                exact List.forall_mem_singleton.mpr fit
              · split at read
                · next others =>
                  cases read
                  exact List.forall_mem_cons.mpr ⟨fit, fits_of_readFields others⟩
                · cases read
              · cases read
          · cases read
      · cases read

end

/-- What a document holds is read as it was written, and it is not nested too deep. -/
theorem fits_of_readWithin {room : Nat} {text : List Char} {value : Json}
    (found : readWithin room text = .ok value) : Fits room value := by
  rw [readWithin] at found
  split at found
  · cases found
  · split at found
    · cases found
    · next done =>
      split at found
      · cases found
        exact fits_of_readValue done
      · cases found

end Json

end TapeMultiplier
