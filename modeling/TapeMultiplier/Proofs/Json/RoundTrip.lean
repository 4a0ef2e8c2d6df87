/-
Module: TapeMultiplier.Proofs.Json.RoundTrip
Layer: Proofs
Purpose: JSON texts are written and read back.  A value whose integers are not too long, in whose strings no
  half stands before its other half, whose names are distinct and which is not nested too deep, is read
  from its text, be it on one line or indented.
Main exports: Json.faithful, Json.plain, Json.depth, Json.readValue_render, Json.readWithin_render,
  Json.read_render
-/
import TapeMultiplier.Proofs.Json.Fields
import TapeMultiplier.Proofs.Json.Floats

namespace TapeMultiplier

namespace Json

/-! ### Values -/

mutual

/-- Whether a value is read as it was written: it has a text, no half stands before its other half, and no
name is twice in an object. -/
def faithful : Json → Bool
  | null => true
  | bool _ => true
  | int value => Text.hasDecimal value
  | float _ => true
  | string text => unjoined text.elements
  | list items => faithfulItems items
  | object fields => faithfulFields fields

/-- Whether all items are read as they were written. -/
def faithfulItems : List Json → Bool
  | [] => true
  | item :: items => faithful item && faithfulItems items

/-- Whether all fields are read as they were written. -/
def faithfulFields : List (RawText × Json) → Bool
  | [] => true
  | (name, value) :: fields =>
      unjoined name.elements && faithful value && fields.all (fun field => field.1 != name) &&
        faithfulFields fields

end

mutual

/-- Whether a value has a text without floats and without halves, and no name twice in an object. -/
def plain : Json → Bool
  | null => true
  | bool _ => true
  | int value => Text.hasDecimal value
  | float _ => false
  | string text => text.elements.all fun element => !element.isHalf
  | list items => plainItems items
  | object fields => plainFields fields

/-- Whether all items are plain. -/
def plainItems : List Json → Bool
  | [] => true
  | item :: items => plain item && plainItems items

/-- Whether all fields are plain, with different names. -/
def plainFields : List (RawText × Json) → Bool
  | [] => true
  | (name, value) :: fields =>
      name.elements.all (fun element => !element.isHalf) && plain value &&
        fields.all (fun field => field.1 != name) && plainFields fields

end

mutual

/-- The number of containers in each other. -/
def depth : Json → Nat
  | list items => depthItems items + 1
  | object fields => depthFields fields + 1
  | _ => 0

/-- The largest depth of items. -/
def depthItems : List Json → Nat
  | [] => 0
  | item :: items => max (depth item) (depthItems items)

/-- The largest depth of the values of fields. -/
def depthFields : List (RawText × Json) → Nat
  | [] => 0
  | (_, value) :: fields => max (depth value) (depthFields fields)

end

theorem unjoined_of_plain {elements : List RawChar}
    (whole : elements.all (fun element => !element.isHalf) = true) : unjoined elements = true := by
  refine unjoined_of_whole fun element member => ?_
  simpa using List.all_eq_true.mp whole element member

mutual

theorem faithful_of_plain : ∀ {value : Json}, plain value = true → faithful value = true
  | null, _ => rfl
  | bool _, _ => rfl
  | int _, isPlain => isPlain
  | float _, _ => rfl
  | string _, isPlain => unjoined_of_plain isPlain
  | list _, isPlain => faithfulItems_of_plain isPlain
  | object _, isPlain => faithfulFields_of_plain isPlain

theorem faithfulItems_of_plain :
    ∀ {items : List Json}, plainItems items = true → faithfulItems items = true
  | [], _ => rfl
  | item :: items, isPlain => by
      rw [plainItems, Bool.and_eq_true] at isPlain
      rw [faithfulItems, faithful_of_plain isPlain.1, faithfulItems_of_plain isPlain.2]
      rfl

theorem faithfulFields_of_plain :
    ∀ {fields : List (RawText × Json)}, plainFields fields = true → faithfulFields fields = true
  | [], _ => rfl
  | (name, value) :: fields, isPlain => by
      simp only [plainFields, Bool.and_eq_true] at isPlain
      obtain ⟨⟨⟨whole, first⟩, others⟩, rest⟩ := isPlain
      rw [faithfulFields, unjoined_of_plain whole, faithful_of_plain first, others,
        faithfulFields_of_plain rest]
      rfl

end

theorem faithfulItems_iff {items : List Json} :
    faithfulItems items = true ↔ ∀ item ∈ items, faithful item = true := by
  induction items with
  | nil => simp [faithfulItems]
  | cons item items ih => rw [faithfulItems, Bool.and_eq_true, ih, List.forall_mem_cons]

/-- The fields of an object are read as they were written if the names differ and each field is. -/
theorem faithfulFields_iff {fields : List (RawText × Json)} : faithfulFields fields = true ↔
    (names fields).Nodup ∧
      ∀ field ∈ fields, unjoined field.1.elements = true ∧ faithful field.2 = true := by
  induction fields with
  | nil => simp [faithfulFields, names]
  | cons field fields ih =>
      obtain ⟨name, value⟩ := field
      rw [names] at ih
      simp only [faithfulFields, Bool.and_eq_true, ih, List.all_eq_true, bne_iff_ne, names, List.map_cons,
        List.nodup_cons, List.forall_mem_cons, List.mem_map, not_exists, not_and]
      constructor
      · rintro ⟨⟨⟨apart, first⟩, others⟩, distinct, rest⟩
        exact ⟨⟨others, distinct⟩, ⟨apart, first⟩, rest⟩
      · rintro ⟨⟨others, distinct⟩, ⟨apart, first⟩, rest⟩
        exact ⟨⟨⟨apart, first⟩, others⟩, distinct, rest⟩

theorem depthItems_le_iff {items : List Json} {room : Nat} :
    depthItems items ≤ room ↔ ∀ item ∈ items, depth item ≤ room := by
  induction items with
  | nil => simp [depthItems]
  | cons item items ih => rw [depthItems, Nat.max_le, ih, List.forall_mem_cons]

theorem depthFields_le_iff {fields : List (RawText × Json)} {room : Nat} :
    depthFields fields ≤ room ↔ ∀ field ∈ fields, depth field.2 ≤ room := by
  induction fields with
  | nil => simp [depthFields]
  | cons field fields ih => rw [depthFields, Nat.max_le, ih, List.forall_mem_cons]

/-! ### Layout -/

theorem skipGap_append {gap : List Char} (blank : ∀ c ∈ gap, isGap c = true) {c : Char}
    (solid : isGap c = false) (rest : List Char) : skipGap (gap ++ c :: rest) = c :: rest := by
  rw [skipGap, List.dropWhile_append_of_pos blank, List.dropWhile_cons_of_neg]
  rw [solid]
  exact Bool.false_ne_true

theorem skipGap_solid {c : Char} (solid : isGap c = false) (rest : List Char) :
    skipGap (c :: rest) = c :: rest :=
  skipGap_append (List.forall_mem_nil _) solid rest

theorem skipGap_space {c : Char} (solid : isGap c = false) (rest : List Char) :
    skipGap (' ' :: c :: rest) = c :: rest :=
  skipGap_append (show ∀ c ∈ [' '], isGap c = true by simp [isGap]) solid rest

theorem isGap_of_mem_lineBreak {indent : Option Nat} {level : Nat} :
    ∀ c ∈ lineBreak indent level, isGap c = true := by
  intro c member
  cases indent with
  | none => cases member
  | some width =>
      rw [lineBreak] at member
      rcases List.mem_cons.mp member with rfl | member
      · rfl
      · rw [(List.mem_replicate.mp member).2]
        rfl

/-- What stands between items is a comma and white space. -/
theorem exists_separator (indent : Option Nat) (level : Nat) :
    ∃ gap, separator indent level = ',' :: gap ∧ ∀ c ∈ gap, isGap c = true := by
  cases indent with
  | none => exact ⟨[' '], rfl, by simp [isGap]⟩
  | some width => exact ⟨lineBreak (some width) level, rfl, isGap_of_mem_lineBreak⟩

/-- The text of a value starts with a character that is no white space and closes no list. -/
theorem exists_render (indent : Option Nat) (level : Nat) (value : Json) :
    ∃ c more, render indent level value = c :: more ∧ isGap c = false ∧ c ≠ ']' ∧
      c ≠ Char.ofNat 0xFEFF := by
  have number {text : List Char} (starts : ∃ c more, text = c :: more ∧ startsNumber c = true) :
      ∃ c more, text = c :: more ∧ isGap c = false ∧ c ≠ ']' ∧ c ≠ Char.ofNat 0xFEFF := by
    obtain ⟨c, more, written, starts⟩ := starts
    obtain ⟨solid, notClosed, -, -, -, notMark⟩ := ne_of_startsNumber starts
    exact ⟨c, more, written, solid, notClosed, notMark⟩
  cases value with
  | null => exact ⟨_, _, rfl, rfl, by decide, by decide⟩
  | bool truth => cases truth <;> exact ⟨_, _, rfl, rfl, by decide, by decide⟩
  | int value => exact number (startsNumber_decimalInt value)
  | float value => exact number (startsNumber_float value)
  | string text => exact ⟨_, _, rfl, rfl, by decide, by decide⟩
  | list items => cases items <;> exact ⟨_, _, rfl, rfl, by decide, by decide⟩
  | object fields => cases fields <;> exact ⟨_, _, rfl, rfl, by decide, by decide⟩

theorem endsNumber_items (indent : Option Nat) (level outer : Nat) (items : List Json) {close : Char}
    (closes : endsNumber [close] = true) (rest : List Char) :
    endsNumber (renderItems indent level items ++ (lineBreak indent outer ++ close :: rest)) = true := by
  cases items with
  | nil => cases indent with
      | none => exact closes
      | some width => rfl
  | cons item items => cases indent <;> rfl

theorem endsNumber_fields (indent : Option Nat) (level outer : Nat) (fields : List (RawText × Json))
    {close : Char} (closes : endsNumber [close] = true) (rest : List Char) :
    endsNumber (renderFields indent level fields ++ (lineBreak indent outer ++ close :: rest)) = true := by
  cases fields with
  | nil => cases indent with
      | none => exact closes
      | some width => rfl
  | cons field fields => cases indent <;> rfl

/-! ### Reading what was written -/

theorem readValue_scalar (fuel room : Nat) {c : Char} (notText : c ≠ '\x22') (notList : c ≠ '[')
    (notObject : c ≠ '\x7b') (rest : List Char) :
    readValue (fuel + 1) room (c :: rest) = readScalar (c :: rest) := by
  unfold readValue
  simp only [if_neg notText, if_neg notList, if_neg notObject]

theorem readValue_number (fuel room : Nat) {text rest : List Char} {value : Json}
    (starts : ∃ c more, text = c :: more ∧ startsNumber c = true)
    (read : readScalar (text ++ rest) = .ok (value, rest)) :
    readValue (fuel + 1) room (text ++ rest) = .ok (value, rest) := by
  obtain ⟨c, more, rfl, starts⟩ := starts
  obtain ⟨-, -, notText, notList, notObject, -⟩ := ne_of_startsNumber starts
  rw [List.cons_append] at read ⊢
  rw [readValue_scalar fuel room notText notList notObject, read]

theorem readString_writeString {fuel : Nat} {text : RawText} (apart : unjoined text.elements = true)
    (enough : (writeString text).length < fuel) (rest : List Char) :
    readString fuel (text.elements.flatMap escapeElement ++ '\x22' :: rest) = .ok (text, rest) := by
  have short := length_le_length_writeString text
  exact readString_written apart (by omega) rest

theorem readValue_string {fuel : Nat} (room : Nat) {text : RawText} (apart : unjoined text.elements = true)
    (enough : (writeString text).length < fuel) (rest : List Char) :
    readValue (fuel + 1) room (writeString text ++ rest) = .ok (.string text, rest) := by
  have read := readString_writeString apart enough rest
  rw [writeString_append]
  unfold readValue
  simp only [if_true, read]

theorem readValue_list {fuel room : Nat} {text more rest : List Char} {c : Char} {items : List Json}
    (opened : skipGap text = c :: more) (notClosed : c ≠ ']')
    (read : readItems fuel room (c :: more) = .ok (items, rest)) :
    readValue (fuel + 1) (room + 1) ('[' :: text) = .ok (.list items, rest) := by
  unfold readValue
  simp only [opened]
  rw [if_neg (by decide), if_pos trivial]
  split
  · next same => exact absurd (List.cons.inj same).1 notClosed
  · simp only [read]

theorem readValue_object {fuel room : Nat} {text more rest : List Char}
    {fields : List (RawText × Json)} (opened : skipGap text = '\x22' :: more)
    (read : readFields fuel room ('\x22' :: more) = .ok (fields, rest)) :
    readValue (fuel + 1) (room + 1) ('\x7b' :: text) = .ok (.object (ofFields fields), rest) := by
  unfold readValue
  simp only [opened]
  rw [if_neg (by decide), if_neg (by decide), if_pos trivial]
  split
  · next same => exact absurd (List.cons.inj same).1 (by decide)
  · rw [read]

theorem readItems_last {fuel room : Nat} {text after rest : List Char} {item : Json}
    (first : readValue fuel room text = .ok (item, after)) (closed : skipGap after = ']' :: rest) :
    readItems (fuel + 1) room text = .ok ([item], rest) := by
  unfold readItems
  simp only [first, closed]

theorem readItems_more {fuel room : Nat} {text after next rest : List Char} {item : Json}
    {items : List Json} (first : readValue fuel room text = .ok (item, after))
    (goesOn : skipGap after = ',' :: next)
    (others : readItems fuel room (skipGap next) = .ok (items, rest)) :
    readItems (fuel + 1) room text = .ok (item :: items, rest) := by
  unfold readItems
  simp only [first, goesOn, others]

theorem readFields_last {fuel room : Nat} {text behind after rest : List Char} {name : RawText}
    {value : Json} (named : readString fuel text = .ok (name, ':' :: behind))
    (first : readValue fuel room (skipGap behind) = .ok (value, after))
    (closed : skipGap after = '\x7d' :: rest) :
    readFields (fuel + 1) room ('\x22' :: text) = .ok ([(name, value)], rest) := by
  have colon : skipGap (':' :: behind) = ':' :: behind := rfl
  unfold readFields
  simp only [named, colon, first, closed]

theorem readFields_more {fuel room : Nat} {text behind after next rest : List Char} {name : RawText}
    {value : Json} {fields : List (RawText × Json)}
    (named : readString fuel text = .ok (name, ':' :: behind))
    (first : readValue fuel room (skipGap behind) = .ok (value, after))
    (goesOn : skipGap after = ',' :: next)
    (others : readFields fuel room (skipGap next) = .ok (fields, rest)) :
    readFields (fuel + 1) room ('\x22' :: text) = .ok ((name, value) :: fields, rest) := by
  have colon : skipGap (':' :: behind) = ':' :: behind := rfl
  unfold readFields
  simp only [named, colon, first, goesOn, others]

/-- The text of items without the brackets around them. -/
def itemsText (indent : Option Nat) (level : Nat) : List Json → List Char
  | [] => []
  | item :: items => render indent level item ++ renderItems indent level items

/-- The text of fields without the braces around them. -/
def fieldsText (indent : Option Nat) (level : Nat) : List (RawText × Json) → List Char
  | [] => []
  | (name, value) :: fields =>
      writeString name ++
        ':' :: ' ' :: (render indent level value ++ renderFields indent level fields)

theorem exists_itemsText (indent : Option Nat) (level : Nat) {items : List Json} (nonempty : items ≠ []) :
    ∃ c more, itemsText indent level items = c :: more ∧ isGap c = false ∧ c ≠ ']' := by
  obtain ⟨item, others, rfl⟩ := List.exists_cons_of_ne_nil nonempty
  obtain ⟨c, more, first, solid, notClosed, -⟩ := exists_render indent level item
  exact ⟨c, more ++ renderItems indent level others, by rw [itemsText, first]; rfl, solid, notClosed⟩

theorem exists_fieldsText (indent : Option Nat) (level : Nat) {fields : List (RawText × Json)}
    (nonempty : fields ≠ []) : ∃ more, fieldsText indent level fields = '\x22' :: more := by
  obtain ⟨⟨name, value⟩, others, rfl⟩ := List.exists_cons_of_ne_nil nonempty
  exact ⟨_, writeString_append name _⟩

mutual

/-- A faithful value is read from its text. -/
theorem readValue_render (indent : Option Nat) :
    ∀ (value : Json) (level : Nat) {room fuel : Nat} {rest : List Char}, faithful value = true →
      depth value ≤ room → 2 * (render indent level value).length < fuel → endsNumber rest = true →
      readValue fuel room (render indent level value ++ rest) = .ok (value, rest)
  | null, level, room, fuel + 1, rest, _, _, _, _ => by
      rw [render, List.cons_append, readValue_scalar fuel room (by decide) (by decide) (by decide)]
      rfl
  | bool true, level, room, fuel + 1, rest, _, _, _, _ => by
      rw [render, List.cons_append, readValue_scalar fuel room (by decide) (by decide) (by decide)]
      rfl
  | bool false, level, room, fuel + 1, rest, _, _, _, _ => by
      rw [render, List.cons_append, readValue_scalar fuel room (by decide) (by decide) (by decide)]
      rfl
  | int value, level, room, fuel + 1, rest, isFaithful, _, _, ends => by
      rw [render]
      exact readValue_number fuel room (startsNumber_decimalInt value) (readScalar_decimalInt isFaithful ends)
  | float value, level, room, fuel + 1, rest, _, _, _, ends => by
      rw [render]
      exact readValue_number fuel room (startsNumber_float value) (readScalar_float value ends)
  | string text, level, room, fuel + 1, rest, isFaithful, _, enough, _ => by
      rw [render] at enough ⊢
      have quotes := length_le_length_writeString text
      exact readValue_string room isFaithful (by omega) rest
  | list [], level, room + 1, fuel + 1, rest, _, _, _, _ => rfl
  | object [], level, room + 1, fuel + 1, rest, _, _, _, _ => rfl
  | list (item :: items), level, room + 1, fuel + 1, rest, isFaithful, shallow, enough, _ => by
      obtain ⟨c, more, leads, solid, notClosed⟩ :=
        exists_itemsText indent (level + 1) (List.cons_ne_nil item items)
      have text : render indent level (list (item :: items)) ++ rest =
          '[' :: (lineBreak indent (level + 1) ++ (itemsText indent (level + 1) (item :: items) ++
            (lineBreak indent level ++ ']' :: rest))) := by
        simp [render, itemsText]
      have room' : depthItems (item :: items) ≤ room := by
        rw [depth] at shallow
        omega
      have fuel' : 2 * (itemsText indent (level + 1) (item :: items)).length + 1 < fuel := by
        simp only [render, List.length_append, List.length_cons, List.length_nil] at enough
        rw [itemsText, List.length_append]
        omega
      have read := readItems_render indent (item :: items) (level + 1) level (List.cons_ne_nil _ _)
        isFaithful room' fuel' rest
      rw [leads, List.cons_append] at read text
      rw [text]
      exact readValue_list (skipGap_append isGap_of_mem_lineBreak solid _) notClosed read
  | object (field :: fields), level, room + 1, fuel + 1, rest, isFaithful, shallow, enough, _ => by
      obtain ⟨more, leads⟩ := exists_fieldsText indent (level + 1) (List.cons_ne_nil field fields)
      have text : render indent level (object (field :: fields)) ++ rest =
          '\x7b' :: (lineBreak indent (level + 1) ++ (fieldsText indent (level + 1) (field :: fields) ++
            (lineBreak indent level ++ '\x7d' :: rest))) := by
        simp [render, fieldsText]
      have room' : depthFields (field :: fields) ≤ room := by
        rw [depth] at shallow
        omega
      have fuel' : 2 * (fieldsText indent (level + 1) (field :: fields)).length + 1 < fuel := by
        simp only [render, List.length_append, List.length_cons, List.length_nil] at enough
        rw [fieldsText]
        simp only [List.length_append, List.length_cons]
        omega
      have read := readFields_render indent (field :: fields) (level + 1) level (List.cons_ne_nil _ _)
        isFaithful room' fuel' rest
      rw [leads, List.cons_append] at read text
      rw [text, readValue_object (skipGap_append isGap_of_mem_lineBreak rfl _) read,
        ofFields_of_nodup (faithfulFields_iff.mp isFaithful).1]
  | list _, level, 0, fuel, rest, _, shallow, _, _ => by simp [depth] at shallow
  | object _, level, 0, fuel, rest, _, shallow, _, _ => by simp [depth] at shallow
  | _, level, room, 0, rest, _, _, enough, _ => by omega

/-- Faithful items are read from their text. -/
theorem readItems_render (indent : Option Nat) :
    ∀ (items : List Json) (level outer : Nat) {room fuel : Nat}, items ≠ [] → faithfulItems items = true →
      depthItems items ≤ room → 2 * (itemsText indent level items).length + 1 < fuel →
      ∀ rest, readItems fuel room
        (itemsText indent level items ++ (lineBreak indent outer ++ ']' :: rest)) = .ok (items, rest)
  | [], level, outer, room, fuel, nonempty, _, _, _, rest => absurd rfl nonempty
  | item :: items, level, outer, room, 0, _, _, _, enough, rest => by omega
  | [item], level, outer, room, fuel + 1, _, isFaithful, shallow, enough, rest => by
      rw [faithfulItems, Bool.and_eq_true] at isFaithful
      rw [depthItems] at shallow
      have text : itemsText indent level [item] = render indent level item := by
        simp [itemsText, renderItems]
      rw [text] at enough ⊢
      have ends := endsNumber_items indent level outer [] (show endsNumber [']'] = true from rfl) rest
      have first := readValue_render indent item level isFaithful.1 (Nat.le_trans (Nat.le_max_left _ _) shallow)
        (show 2 * (render indent level item).length < fuel by omega) ends
      exact readItems_last first (skipGap_append isGap_of_mem_lineBreak rfl rest)
  | item :: next :: more, level, outer, room, fuel + 1, _, isFaithful, shallow, enough, rest => by
      rw [faithfulItems, Bool.and_eq_true] at isFaithful
      rw [depthItems] at shallow
      obtain ⟨gap, separated, blank⟩ := exists_separator indent level
      obtain ⟨c, others, leads, solid, -⟩ :=
        exists_itemsText indent level (List.cons_ne_nil next more)
      have behind : renderItems indent level (next :: more) =
          ',' :: (gap ++ itemsText indent level (next :: more)) := by
        simp [itemsText, renderItems, separated]
      have ends := endsNumber_items indent level outer (next :: more)
        (show endsNumber [']'] = true from rfl) rest
      rw [itemsText, behind] at enough ⊢
      rw [behind] at ends
      simp only [List.length_append, List.length_cons] at enough
      have first := readValue_render indent item level isFaithful.1 (Nat.le_trans (Nat.le_max_left _ _) shallow)
        (show 2 * (render indent level item).length < fuel by omega) ends
      have tail := readItems_render indent (next :: more) level outer (List.cons_ne_nil next more)
        isFaithful.2 (Nat.le_trans (Nat.le_max_right _ _) shallow) (show _ < fuel by omega) rest
      simp only [leads, List.cons_append, List.append_assoc] at first tail ⊢
      rw [← skipGap_append blank solid] at tail
      exact readItems_more first (skipGap_solid rfl _) tail

/-- Faithful fields are read from their text. -/
theorem readFields_render (indent : Option Nat) :
    ∀ (fields : List (RawText × Json)) (level outer : Nat) {room fuel : Nat}, fields ≠ [] →
      faithfulFields fields = true → depthFields fields ≤ room →
      2 * (fieldsText indent level fields).length + 1 < fuel →
      ∀ rest, readFields fuel room
        (fieldsText indent level fields ++ (lineBreak indent outer ++ '\x7d' :: rest)) =
          .ok (fields, rest)
  | [], level, outer, room, fuel, nonempty, _, _, _, rest => absurd rfl nonempty
  | field :: fields, level, outer, room, 0, _, _, _, enough, rest => by omega
  | [(name, value)], level, outer, room, fuel + 1, _, isFaithful, shallow, enough, rest => by
      rw [faithfulFields, Bool.and_eq_true, Bool.and_eq_true, Bool.and_eq_true] at isFaithful
      rw [depthFields] at shallow
      rw [fieldsText, renderFields, List.append_nil] at enough ⊢
      simp only [List.length_append, List.length_cons] at enough
      obtain ⟨c, more, leads, solid, -⟩ := exists_render indent level value
      have ends := endsNumber_fields indent level outer [] (show endsNumber ['\x7d'] = true from rfl) rest
      have first := readValue_render indent value level isFaithful.1.1.2
        (Nat.le_trans (Nat.le_max_left _ _) shallow)
        (show 2 * (render indent level value).length < fuel by omega) ends
      rw [leads, List.cons_append, ← skipGap_space solid] at first
      simp only [leads, List.cons_append, List.append_assoc]
      rw [writeString_append]
      refine readFields_last (readString_writeString isFaithful.1.1.1 (by omega) _) first ?_
      exact skipGap_append isGap_of_mem_lineBreak rfl rest
  | (name, value) :: next :: others, level, outer, room, fuel + 1, _, isFaithful, shallow, enough, rest => by
      rw [faithfulFields, Bool.and_eq_true, Bool.and_eq_true, Bool.and_eq_true] at isFaithful
      rw [depthFields] at shallow
      obtain ⟨gap, separated, blank⟩ := exists_separator indent level
      obtain ⟨tailText, tailLeads⟩ := exists_fieldsText indent level (List.cons_ne_nil next others)
      have behind : renderFields indent level (next :: others) =
          ',' :: (gap ++ fieldsText indent level (next :: others)) := by
        simp [fieldsText, renderFields, separated]
      have ends := endsNumber_fields indent level outer (next :: others)
        (show endsNumber ['\x7d'] = true from rfl) rest
      rw [fieldsText, behind] at enough ⊢
      rw [behind] at ends
      simp only [List.length_append, List.length_cons] at enough
      obtain ⟨c, more, leads, solid, -⟩ := exists_render indent level value
      have first := readValue_render indent value level isFaithful.1.1.2
        (Nat.le_trans (Nat.le_max_left _ _) shallow)
        (show 2 * (render indent level value).length < fuel by omega) ends
      have tail := readFields_render indent (next :: others) level outer (List.cons_ne_nil next others)
        isFaithful.2 (Nat.le_trans (Nat.le_max_right _ _) shallow) (show _ < fuel by omega) rest
      simp only [leads, tailLeads, List.cons_append, List.append_assoc] at first tail ⊢
      rw [← skipGap_space solid] at first
      rw [← skipGap_append blank rfl] at tail
      rw [writeString_append]
      exact readFields_more (readString_writeString isFaithful.1.1.1 (by omega) _) first
        (skipGap_solid rfl _) tail

end

/-- A faithful value is read from its document wherever there is room for it. -/
theorem readWithin_render (indent : Option Nat) {value : Json} {room : Nat} (isFaithful : faithful value = true)
    (shallow : depth value ≤ room) : readWithin room (render indent 0 value) = .ok value := by
  obtain ⟨c, more, leads, solid, -, notMark⟩ := exists_render indent 0 value
  have whole : readValue (2 * (render indent 0 value).length + 1) room (render indent 0 value) =
      .ok (value, []) := by
    have found := readValue_render indent value 0 isFaithful shallow (Nat.lt_succ_self _)
      (show endsNumber [] = true from rfl)
    rwa [List.append_nil] at found
  have noMark : (render indent 0 value).head? ≠ some (Char.ofNat 0xFEFF) := by
    rw [leads, List.head?_cons]
    intro same
    exact notMark (Option.some.inj same)
  have start : skipGap (render indent 0 value) = render indent 0 value := by
    rw [leads, skipGap_solid solid]
  rw [readWithin, if_neg noMark, start, whole]
  rfl

/-- A plain value that is not nested too deep is read from its document. -/
theorem read_render (indent : Option Nat) {value : Json} (isPlain : plain value = true)
    (shallow : depth value ≤ nestingLimit) : read (render indent 0 value) = .ok value :=
  readWithin_render indent (faithful_of_plain isPlain) shallow

end Json

end TapeMultiplier
