/-
Module: TapeMultiplier.Proofs.Verification.Documents
Layer: Proofs
Purpose: What can be read back from the two files of a verification.  The lines of the results hold their
  entries, and the checkpoint holds its settings and the keys of the completed pairs.
Main exports: resultKeysIn?, completedKeysIn?, Json.Filed, entriesIn?_lines, filed_entry,
  equal_gridSignature, filed_checkpointDocument, completedKeysIn?_writeIndented
-/
import TapeMultiplier.Proofs.Journal
import TapeMultiplier.Verification

namespace TapeMultiplier

/-! ### What files say -/

/-- The document in the content of a file. -/
def documentIn? (content : ByteArray) : Option Json :=
  match Text.decodeUtf8 content with
  | .error _ => none
  | .ok text => (Json.read text.toList).toOption

/-- The lines of a text that are not empty. -/
def linesIn (text : List Char) : List (List Char) :=
  (text.splitOn '\n').filter fun line => !line.isEmpty

/-- The entries in the content of a file of results, one on a line. -/
def entriesIn? (content : ByteArray) : Option (List Json) :=
  match Text.decodeUtf8 content with
  | .error _ => none
  | .ok text => (linesIn text.toList).mapM fun line => (Json.read line).toOption

/-- The key of the pair that an entry is about. -/
def entryKey? (entry : Json) : Option String :=
  match entry.field? "a", entry.field? "b" with
  | some (.int a), some (.int b) => some (pairKey a b)
  | _, _ => none

/-- The keys of the entries in the content of a file of results. -/
def resultKeysIn? (content : ByteArray) : Option (List String) := do
  (← entriesIn? content).mapM entryKey?

/-- The text of a key in a checkpoint. -/
def keyText? : Json → Option String
  | .string text => (text.elements.mapM RawChar.char?).map String.ofList
  | _ => none

/-- The keys that the content of a checkpoint marks as completed. -/
def completedKeysIn? (content : ByteArray) : Option (List String) := do
  match (← documentIn? content).field? "completed" with
  | some (.list items) => items.mapM keyText?
  | _ => none

namespace Json

/-- Values that a file is written with: they are read as they are. -/
structure Filed (value : Json) : Prop where
  isPlain : plain value = true
  shallow : depth value ≤ nestingLimit

namespace Filed

variable {value : Json}

theorem read_write (filed : Filed value) : read value.write.toList = .ok value := by
  rw [toList_write]
  exact read_render none filed.isPlain filed.shallow

theorem read_writeIndented (filed : Filed value) : read value.writeIndented.toList = .ok value := by
  rw [toList_writeIndented]
  exact read_render (some 4) filed.isPlain filed.shallow

/-- The document of a file is the value with which the file was written. -/
theorem documentIn?_writeIndented (filed : Filed value) :
    documentIn? value.writeIndented.toUTF8 = some value := by
  rw [documentIn?, Text.decodeUtf8_toUTF8]
  show (read value.writeIndented.toList).toOption = some value
  rw [filed.read_writeIndented]
  rfl

end Filed

end Json

/-! ### Lines -/

theorem linesIn_cons {line rest : List Char} (nonempty : line ≠ []) (whole : '\n' ∉ line) :
    linesIn (line ++ '\n' :: rest) = line :: linesIn rest := by
  rw [linesIn, Journal.splitOn_line whole, List.filter_cons_of_pos (by simpa using nonempty), linesIn]

/-- The lines of entries are read as the entries. -/
theorem entriesIn?_lines {entries : List Json} (filed : ∀ entry ∈ entries, entry.Filed) :
    entriesIn? (Journal.lines entries).toUTF8 = some entries := by
  rw [entriesIn?, Text.decodeUtf8_toUTF8]
  show (linesIn (Journal.lines entries).toList).mapM _ = some entries
  induction entries with
  | nil => rfl
  | cons entry rest ih =>
      have first := filed entry List.mem_cons_self
      rw [Journal.toList_lines_cons, linesIn_cons (Json.write_ne_nil entry) (Json.notMem_write entry rfl),
        List.mapM_cons, first.read_write, ih fun other member => filed other (List.mem_cons_of_mem _ member)]
      rfl

/-! ### Entries -/

theorem entryKey?_entry (result : BatchResult) :
    entryKey? result.entry = some (pairKey result.a result.b) := rfl

/-- An object is plain if its names are different texts and its values are plain. -/
theorem Json.plain_object {names : List String} (distinct : names.Nodup) {fields : List (RawText × Json)}
    (named : fields.map Prod.fst = names.map RawText.ofString)
    (values : ∀ field ∈ fields, plain field.2 = true) : plain (object fields) = true := by
  show plainFields fields = true
  induction fields generalizing names with
  | nil => rfl
  | cons field rest ih =>
      obtain ⟨name, value⟩ := field
      cases names with
      | nil => cases named
      | cons text texts =>
          rw [List.map_cons, List.map_cons, List.cons.injEq] at named
          obtain ⟨rfl, namedRest⟩ := named
          obtain ⟨new, distinctRest⟩ := List.nodup_cons.mp distinct
          have others : (rest.all fun field => field.1 != RawText.ofString text) = true := by
            rw [List.all_eq_true]
            intro field member
            rw [bne_iff_ne]
            intro same
            have repeated : RawText.ofString text ∈ texts.map RawText.ofString := by
              rw [← namedRest, ← same]
              exact List.mem_map_of_mem member
            obtain ⟨other, inside, equal⟩ := List.mem_map.mp repeated
            exact new (ofString_injective equal ▸ inside)
          rw [plainFields, all_elements_ofString, values _ List.mem_cons_self, others,
            ih distinctRest namedRest fun field member => values field (List.mem_cons_of_mem _ member)]
          rfl

theorem filed_entry {result : BatchResult} (writable : result.entry.writable = true) :
    result.entry.Filed := by
  constructor
  · simp only [BatchResult.entry, Json.writable, Json.writableFields, Bool.and_eq_true] at writable
    refine Json.plain_object (show ["a", "b", "expected", "result", "steps", "status",
      "correct"].Nodup by decide) rfl ?_
    simp [Json.plain, all_elements_ofString, writable]
  · simp [BatchResult.entry, Json.depth, Json.depthFields, Json.nestingLimit]

/-! ### Checkpoints -/

/-- Completed pairs as a checkpoint holds them. -/
def completedList (keys : List String) : Json :=
  .list (keys.map Json.ofText)

theorem plainItems_map_ofText (keys : List String) : Json.plainItems (keys.map Json.ofText) = true := by
  induction keys with
  | nil => rfl
  | cons key keys ih =>
      rw [List.map_cons, Json.plainItems, ih, Json.ofText, Json.plain, all_elements_ofString]
      rfl

theorem depthItems_map_ofText (keys : List String) : Json.depthItems (keys.map Json.ofText) = 0 := by
  induction keys with
  | nil => rfl
  | cons key keys ih =>
      rw [List.map_cons, Json.depthItems, ih]
      rfl

theorem plain_signature {task : GridTask} {digest : String}
    (writable : (task.signature digest).writable = true) : (task.signature digest).plain = true := by
  simp only [GridTask.signature, gridSignature, Json.writable, Json.writableFields,
    Bool.and_eq_true] at writable
  refine Json.plain_object (show ["program_sha256", "max_steps", "tape_size", "engine"].Nodup by decide)
    rfl ?_
  cases engine : task.useEngine
  · simp_all [Json.plain, all_elements_ofString, Json.writable]
  · simp_all [Json.plain, all_elements_ofString]

theorem depth_signature (task : GridTask) (digest : String) : (task.signature digest).depth = 1 := by
  cases engine : task.useEngine <;>
    simp [GridTask.signature, gridSignature, Json.depth, Json.depthFields, engine]

/-- A checkpoint is read as it was written, if there is a text for its settings. -/
theorem same_ofText {left right : String} :
    (Json.ofText left).same (Json.ofText right) = true ↔ left = right := by
  simp [Json.ofText, Json.same, Json.sameScalar, ofString_injective.eq_iff]

theorem same_int {left right : Int} : (Json.int left).same (Json.int right) = true ↔ left = right := by
  simp [Json.same, Json.sameScalar]

/-- Settings compare equal just if all their parts do; with the engine, the size of the tape is no part
of them. -/
theorem equal_gridSignature {digest other : String} {maxSteps limit tapeSize size : Int}
    {useEngine engine : Bool} :
    (gridSignature digest (.int maxSteps) (.int tapeSize) useEngine).equal
        (gridSignature other (.int limit) (.int size) engine) = true ↔
      digest = other ∧ maxSteps = limit ∧ useEngine = engine ∧ (useEngine = false → tapeSize = size) := by
  have fields (first second named namedToo : Json) :
      Json.equal (.object [("program_sha256", .string digest), ("max_steps", .int maxSteps),
          ("tape_size", first), ("engine", named)])
        (.object [("program_sha256", .string other), ("max_steps", .int limit),
          ("tape_size", second), ("engine", namedToo)]) = true ↔
        digest = other ∧ maxSteps = limit ∧ named.same namedToo = true ∧ first.same second = true := by
    show ((Json.ofText digest).same (.ofText other) && ((Json.int maxSteps).same (.int limit) &&
      (first.same second && (named.same namedToo && true)))) = true ↔ _
    rw [Bool.and_true, Bool.and_comm (first.same second), Bool.and_eq_true, Bool.and_eq_true,
      Bool.and_eq_true, same_ofText, same_int]
  refine (fields _ _ _ _).trans (and_congr_right' (and_congr_right' ?_))
  cases useEngine with
  | false =>
      cases engine with
      | false =>
          exact and_congr (iff_of_true rfl rfl)
            (same_int.trans ⟨fun same _ => same, fun same => same rfl⟩)
      | true =>
          exact iff_of_false (fun both => absurd both.1 (by decide)) fun both => absurd both.1 (by decide)
  | true =>
      cases engine with
      | false =>
          exact iff_of_false (fun both => absurd both.1 (by decide)) fun both => absurd both.1 (by decide)
      | true => exact iff_of_true ⟨rfl, rfl⟩ ⟨rfl, nofun⟩
theorem filed_checkpointDocument {signature : Json} (isPlain : signature.plain = true)
    (shallow : signature.depth = 1) (keys : List String) :
    (checkpointDocument signature (completedList keys)).Filed := by
  constructor
  · refine Json.plain_object (show ["settings", "completed"].Nodup by decide) rfl ?_
    simp [isPlain, Json.plain, completedList, plainItems_map_ofText]
  · simp [checkpointDocument, completedList, Json.depth, Json.depthFields, depthItems_map_ofText,
      shallow, Json.nestingLimit]

theorem mapM_map_eq_some {α β : Type} {write : α → β} {read : β → Option α}
    (readable : ∀ item, read (write item) = some item) (items : List α) :
    (items.map write).mapM read = some items := by
  induction items with
  | nil => rfl
  | cons item rest ih =>
      rw [List.map_cons, List.mapM_cons, readable, ih]
      rfl

theorem keyText?_ofText (key : String) : keyText? (Json.ofText key) = some key := by
  have characters : (RawText.ofString key).elements.mapM RawChar.char? = some key.toList :=
    mapM_map_eq_some (show ∀ c, RawChar.char? (.char c) = some c from fun _ => rfl) key.toList
  rw [Json.ofText, keyText?, characters, Option.map_some, String.ofList_toList]

/-- The keys of a checkpoint are those with which it was written. -/
theorem completedKeysIn?_writeIndented {signature : Json} {keys : List String}
    (filed : (checkpointDocument signature (completedList keys)).Filed) :
    completedKeysIn? (checkpointDocument signature (completedList keys)).writeIndented.toUTF8 =
      some keys := by
  rw [completedKeysIn?, filed.documentIn?_writeIndented]
  exact mapM_map_eq_some keyText?_ofText keys

end TapeMultiplier
