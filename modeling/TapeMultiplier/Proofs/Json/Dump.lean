/-
Module: TapeMultiplier.Proofs.Json.Dump
Layer: Proofs
Purpose: Documents that are written piece by piece.  What is written to its end is the indented text of
  the document, which then has a text and is hardly nested deeper than there is room; and all that is
  nested less deep than there is room is written to its end.
Main exports: Json.Writing.Gives, Json.gives_emit, Json.emit_of_shallow, Json.dump_eq_ok,
  Json.dump_of_shallow, Json.dump_of_deep
-/
import TapeMultiplier.Proofs.Bind
import TapeMultiplier.Proofs.Json.RoundTrip

namespace TapeMultiplier

namespace Json

/-! ### Pieces -/

theorem textOf_cons (piece : List Char) (pieces : List (List Char)) :
    textOf (piece :: pieces) = textOf pieces ++ piece := by
  rw [textOf, List.reverse_cons, List.flatten_append, List.flatten_singleton, textOf]

/-- Where writing succeeds, it adds a text, and something is known of what was written. -/
def Writing.Gives (writing : Writing Unit) (text : List Char) (known : Prop) : Prop :=
  ∀ pieces after, writing pieces = .ok () after → textOf after = textOf pieces ++ text ∧ known

namespace Writing.Gives

variable {first second : Writing Unit} {text more : List Char} {known other : Prop}

theorem put (piece : List Char) : (Json.put piece).Gives piece True := by
  rintro pieces _ ⟨⟩
  exact ⟨textOf_cons piece pieces, trivial⟩

theorem throw (fault : WriteFault) : Gives (MonadExcept.throw fault) text known := by
  rintro _ _ ⟨⟩

theorem nothing : Gives (pure ()) [] True := by
  rintro pieces _ ⟨⟩
  exact ⟨(List.append_nil _).symm, trivial⟩

/-- What is written in sequence is added in sequence. -/
theorem andThen (one : first.Gives text known) (two : second.Gives more other) :
    Gives (do first; second) (text ++ more) (known ∧ other) := by
  intro pieces after done
  obtain ⟨⟨⟩, between, begun, ended⟩ := EStateM.bind_eq_ok.mp done
  obtain ⟨begins, isKnown⟩ := one pieces between begun
  obtain ⟨ends, isOther⟩ := two between after ended
  exact ⟨by rw [ends, begins, List.append_assoc], isKnown, isOther⟩

theorem congr (gives : first.Gives text known) (same : text = more) (implies : known → other) :
    first.Gives more other :=
  fun pieces after done => (gives pieces after done).imp (fun added => same ▸ added) implies

end Writing.Gives

/-! ### What is written to its end -/

mutual

/-- A value that is written to its end is written as it is laid out.  Its integers have few enough
digits, and only a container with nothing in it may lie where no room is left. -/
theorem gives_emit : ∀ (value : Json) (level room : Nat) (lead : List Char),
    (emit level room lead value).Gives (lead ++ render (some 4) level value)
      (writable value = true ∧ depth value ≤ room + 1)
  | null, level, room, lead => (Writing.Gives.put _).congr rfl fun _ => ⟨rfl, Nat.zero_le _⟩
  | bool truth, level, room, lead => (Writing.Gives.put _).congr rfl fun _ => ⟨rfl, Nat.zero_le _⟩
  | string text, level, room, lead => (Writing.Gives.put _).congr rfl fun _ => ⟨rfl, Nat.zero_le _⟩
  | int number, level, room, lead => by
      rw [emit]
      split
      · next short => exact (Writing.Gives.put _).congr rfl fun _ => ⟨short, Nat.zero_le _⟩
      · exact .throw .digits
  | float number, level, room, lead => by
      rw [emit]
      split
      · exact .throw .floatTooDeep
      · exact (Writing.Gives.put _).congr rfl fun _ => ⟨rfl, Nat.zero_le _⟩
  | list [], level, room, lead => (Writing.Gives.put _).congr rfl fun _ => ⟨rfl, Nat.le_add_left 1 room⟩
  | object [], level, room, lead => (Writing.Gives.put _).congr rfl fun _ => ⟨rfl, Nat.le_add_left 1 room⟩
  | list (item :: items), level, 0, lead =>
      ((Writing.Gives.put lead).andThen (.throw .containerTooDeep)).congr rfl And.right
  | object ((name, value) :: fields), level, 0, lead =>
      ((Writing.Gives.put lead).andThen (.throw .containerTooDeep)).congr rfl And.right
  | list (item :: items), level, room + 1, lead => by
      have opened := gives_emit item (level + 1) room ('[' :: lineBreak (some 4) (level + 1))
      have others := gives_emitItems items (level + 1) room
      refine ((Writing.Gives.put lead).andThen (opened.andThen (others.andThen (.put _)))).congr ?_ ?_
      · simp only [render, List.append_assoc, List.cons_append]
      · rintro ⟨-, ⟨first, shallow⟩, ⟨rest, below⟩, -⟩
        refine ⟨?_, Nat.succ_le_succ (Nat.max_le.mpr ⟨shallow, below⟩)⟩
        rw [writable, writableItems, first, rest]
        rfl
  | object ((name, value) :: fields), level, room + 1, lead => by
      have held := gives_emit value (level + 1) room []
      have others := gives_emitFields fields (level + 1) room
      refine ((Writing.Gives.put lead).andThen ((Writing.Gives.put _).andThen
        (held.andThen (others.andThen (.put _))))).congr ?_ ?_
      · simp only [render, List.append_assoc, List.cons_append, List.nil_append]
      · rintro ⟨-, -, ⟨first, shallow⟩, ⟨rest, below⟩, -⟩
        refine ⟨?_, Nat.succ_le_succ (Nat.max_le.mpr ⟨shallow, below⟩)⟩
        rw [writable, writableFields, first, rest]
        rfl

theorem gives_emitItems : ∀ (items : List Json) (level room : Nat),
    (emitItems level room items).Gives (renderItems (some 4) level items)
      (writableItems items = true ∧ depthItems items ≤ room + 1)
  | [], level, room => Writing.Gives.nothing.congr rfl fun _ => ⟨rfl, Nat.zero_le _⟩
  | item :: items, level, room => by
      have first := gives_emit item level room (separator (some 4) level)
      refine (first.andThen (gives_emitItems items level room)).congr ?_ ?_
      · rw [renderItems]
      · rintro ⟨⟨one, shallow⟩, rest, below⟩
        refine ⟨?_, Nat.max_le.mpr ⟨shallow, below⟩⟩
        rw [writableItems, one, rest]
        rfl

theorem gives_emitFields : ∀ (fields : List (RawText × Json)) (level room : Nat),
    (emitFields level room fields).Gives (renderFields (some 4) level fields)
      (writableFields fields = true ∧ depthFields fields ≤ room + 1)
  | [], level, room => Writing.Gives.nothing.congr rfl fun _ => ⟨rfl, Nat.zero_le _⟩
  | (name, value) :: fields, level, room => by
      have held := gives_emit value level room []
      refine ((Writing.Gives.put _).andThen (held.andThen (gives_emitFields fields level room))).congr ?_ ?_
      · simp only [renderFields, List.append_assoc, List.cons_append, List.nil_append]
      · rintro ⟨-, ⟨one, shallow⟩, rest, below⟩
        refine ⟨?_, Nat.max_le.mpr ⟨shallow, below⟩⟩
        rw [writableFields, one, rest]
        rfl

end

/-! ### What can be written to its end -/

/-- Writing that succeeds whatever was written before. -/
def Writing.Succeeds (writing : Writing Unit) : Prop :=
  ∀ pieces, ∃ after, writing pieces = .ok () after

namespace Writing.Succeeds

variable {first second : Writing Unit}

theorem put (piece : List Char) : (Json.put piece).Succeeds :=
  fun pieces => ⟨piece :: pieces, rfl⟩

theorem andThen (one : first.Succeeds) (two : second.Succeeds) : Succeeds (do first; second) := by
  intro pieces
  obtain ⟨between, begun⟩ := one pieces
  obtain ⟨after, ended⟩ := two between
  exact ⟨after, (EStateM.bind_of_ok begun).trans ended⟩

end Writing.Succeeds

mutual

/-- A value that has a text is written to its end if it is nested less deep than there is room. -/
theorem succeeds_emit : ∀ (value : Json) (level room : Nat) (lead : List Char), writable value = true →
    depth value < room → (emit level room lead value).Succeeds
  | null, level, room, lead, _, _ => .put _
  | bool truth, level, room, lead, _, _ => .put _
  | string text, level, room, lead, _, _ => .put _
  | int number, level, room, lead, short, _ => by
      have hasText : Text.hasDecimal number = true := short
      rw [emit, if_pos hasText]
      exact .put _
  | float number, level, room, lead, _, shallow => by
      have someLeft : room ≠ 0 := Nat.ne_of_gt shallow
      rw [emit, if_neg someLeft]
      exact .put _
  | list [], level, room, lead, _, _ => .put _
  | object [], level, room, lead, _, _ => .put _
  | list (item :: items), level, room + 1, lead, written, shallow => by
      rw [writable, writableItems, Bool.and_eq_true] at written
      rw [depth, depthItems, Nat.add_lt_add_iff_right, Nat.max_lt] at shallow
      exact (Writing.Succeeds.put lead).andThen ((succeeds_emit item _ _ _ written.1 shallow.1).andThen
        ((succeeds_emitItems items _ _ written.2 shallow.2).andThen (.put _)))
  | object ((name, value) :: fields), level, room + 1, lead, written, shallow => by
      rw [writable, writableFields, Bool.and_eq_true] at written
      rw [depth, depthFields, Nat.add_lt_add_iff_right, Nat.max_lt] at shallow
      exact (Writing.Succeeds.put lead).andThen ((Writing.Succeeds.put _).andThen
        ((succeeds_emit value _ _ _ written.1 shallow.1).andThen
          ((succeeds_emitFields fields _ _ written.2 shallow.2).andThen (.put _))))

theorem succeeds_emitItems : ∀ (items : List Json) (level room : Nat), writableItems items = true →
    depthItems items < room → (emitItems level room items).Succeeds
  | [], level, room, _, _ => fun pieces => ⟨pieces, rfl⟩
  | item :: items, level, room, written, shallow => by
      rw [writableItems, Bool.and_eq_true] at written
      rw [depthItems, Nat.max_lt] at shallow
      exact (succeeds_emit item _ _ _ written.1 shallow.1).andThen
        (succeeds_emitItems items _ _ written.2 shallow.2)

theorem succeeds_emitFields :
    ∀ (fields : List (RawText × Json)) (level room : Nat), writableFields fields = true →
    depthFields fields < room → (emitFields level room fields).Succeeds
  | [], level, room, _, _ => fun pieces => ⟨pieces, rfl⟩
  | (name, value) :: fields, level, room, written, shallow => by
      rw [writableFields, Bool.and_eq_true] at written
      rw [depthFields, Nat.max_lt] at shallow
      exact (Writing.Succeeds.put _).andThen ((succeeds_emit value _ _ _ written.1 shallow.1).andThen
        (succeeds_emitFields fields _ _ written.2 shallow.2))

end

/-! ### What can be read back -/

theorem writableFields_iff {fields : List (RawText × Json)} :
    writableFields fields = true ↔ ∀ field ∈ fields, writable field.2 = true := by
  induction fields with
  | nil => simp [writableFields]
  | cons field fields ih => rw [writableFields, Bool.and_eq_true, ih, List.forall_mem_cons]

mutual

/-- A value that is read as it was written has a text. -/
theorem writable_of_faithful : ∀ {value : Json}, faithful value = true → writable value = true
  | null, _ => rfl
  | bool _, _ => rfl
  | int _, isFaithful => isFaithful
  | float _, _ => rfl
  | string _, _ => rfl
  | list _, isFaithful => writableItems_of_faithful isFaithful
  | object _, isFaithful => writableFields_of_faithful isFaithful

theorem writableItems_of_faithful :
    ∀ {items : List Json}, faithfulItems items = true → writableItems items = true
  | [], _ => rfl
  | item :: items, isFaithful => by
      rw [faithfulItems, Bool.and_eq_true] at isFaithful
      rw [writableItems, writable_of_faithful isFaithful.1, writableItems_of_faithful isFaithful.2]
      rfl

theorem writableFields_of_faithful :
    ∀ {fields : List (RawText × Json)}, faithfulFields fields = true → writableFields fields = true
  | [], _ => rfl
  | (name, value) :: fields, isFaithful => by
      simp only [faithfulFields, Bool.and_eq_true] at isFaithful
      obtain ⟨⟨⟨-, first⟩, -⟩, rest⟩ := isFaithful
      rw [writableFields, writable_of_faithful first, writableFields_of_faithful rest]
      rfl

end

/-! ### Documents -/

variable {value : Json} {room : Nat}

/-- A document that is written to its end has its indented text in the file; it has one, and it is nested
no deeper than there is room, but for a container with nothing in it. -/
theorem dump_eq_ok {text : String} (done : value.dump room = (text, .ok ())) :
    text = value.writeIndented ∧ writable value = true ∧ depth value ≤ room + 1 := by
  rw [dump] at done
  split at done
  · next pieces written =>
    obtain ⟨rfl, -⟩ := Prod.mk.inj done
    obtain ⟨added, known⟩ := gives_emit value 0 room [] [] pieces written
    exact ⟨congrArg String.ofList added, known⟩
  · cases done

/-- A document that has a text is written to its end if it is nested less deep than there is room. -/
theorem dump_of_shallow (written : writable value = true) (shallow : depth value < room) :
    value.dump room = (value.writeIndented, .ok ()) := by
  obtain ⟨pieces, done⟩ := succeeds_emit value 0 room [] written shallow []
  have ended : value.dump room = (String.ofList (textOf pieces), .ok ()) := by
    rw [dump, done]
  rw [ended, (dump_eq_ok ended).1]

/-- A document that is nested deeper than there is room is not written to its end. -/
theorem dump_of_deep (deep : room + 1 < depth value) :
    ∃ text fault, value.dump room = (text, .error fault) := by
  cases outcome : value.dump room with
  | mk text ended =>
      cases ended with
      | error fault => exact ⟨text, fault, rfl⟩
      | ok done => exact absurd (dump_eq_ok outcome).2.2 (Nat.not_le.mpr deep)

end Json

end TapeMultiplier
