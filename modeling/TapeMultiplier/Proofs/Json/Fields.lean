/-
Module: TapeMultiplier.Proofs.Json.Fields
Layer: Proofs
Purpose: Setting the fields of an object.  The names stay different, a known name keeps its place, and fields
  that are set one after the other over others with the same names in front come out as they are.
Main exports: Json.insertField_cases, Json.names_insertField, Json.mem_insertField,
  Json.nodup_insertField, Json.overlay, Json.overlay_induction, Json.overlay_eq, Json.lookupField_eq_some_iff,
  Json.lookupField_of_perm, Json.renewed, Json.overlay_eq_append, Json.names_overlay, Json.overlay_perm,
  Json.ofFields_of_nodup
-/
import Mathlib.Data.List.Nodup
import TapeMultiplier.Json

namespace TapeMultiplier

namespace Json

variable {fields base others : List (RawText × Json)} {name : RawText} {value : Json}

/-- The names of fields. -/
def names (fields : List (RawText × Json)) : List RawText :=
  fields.map Prod.fst

theorem mem_names {field : RawText × Json} (member : field ∈ fields) : field.1 ∈ names fields :=
  List.mem_map_of_mem member

theorem names_append (front behind : List (RawText × Json)) :
    names (front ++ behind) = names front ++ names behind :=
  List.map_append

/-! ### Setting a field -/

theorem insertField_of_known {front behind : List (RawText × Json)} (old value : Json)
    (new : name ∉ names front) :
    insertField (front ++ (name, old) :: behind) name value = front ++ (name, value) :: behind := by
  induction front with
  | nil => rw [List.nil_append, insertField, if_pos rfl, List.nil_append]
  | cons field front ih =>
      rw [names, List.map_cons, List.mem_cons, not_or] at new
      rw [List.cons_append, insertField, if_neg (Ne.symm new.1), ih new.2, List.cons_append]

theorem insertField_of_new (value : Json) (new : name ∉ names fields) :
    insertField fields name value = fields ++ [(name, value)] := by
  induction fields with
  | nil => rfl
  | cons field fields ih =>
      rw [names, List.map_cons, List.mem_cons, not_or] at new
      rw [insertField, if_neg (Ne.symm new.1), ih new.2, List.cons_append]

/-- The first field of a name takes the new value; a new name goes to the end. -/
theorem insertField_cases (fields : List (RawText × Json)) (name : RawText) (value : Json) :
    (∃ front old behind, fields = front ++ (name, old) :: behind ∧
        insertField fields name value = front ++ (name, value) :: behind) ∨
      name ∉ names fields ∧ insertField fields name value = fields ++ [(name, value)] := by
  by_cases known : name ∈ names fields
  · obtain ⟨_, _, split, first⟩ := List.eq_append_cons_of_mem known
    obtain ⟨front, rest, rfl, rfl, restNames⟩ := List.map_eq_append_iff.mp split
    obtain ⟨⟨_, old⟩, behind, rfl, rfl, -⟩ := List.map_eq_cons_iff.mp restNames
    exact .inl ⟨front, old, behind, rfl, insertField_of_known old value first⟩
  · exact .inr ⟨known, insertField_of_new value known⟩

theorem names_insertField (fields : List (RawText × Json)) (name : RawText) (value : Json) :
    names (insertField fields name value) = names fields ∧ name ∈ names fields ∨
      names (insertField fields name value) = names fields ++ [name] ∧ name ∉ names fields := by
  rcases insertField_cases fields name value with ⟨front, old, behind, rfl, set⟩ | ⟨new, set⟩
  · rw [set]
    simp [names]
  · rw [set, names_append]
    exact .inr ⟨rfl, new⟩

theorem mem_insertField {field : RawText × Json} (member : field ∈ insertField fields name value) :
    field = (name, value) ∨ field ∈ fields := by
  rcases insertField_cases fields name value with ⟨front, old, behind, rfl, set⟩ | ⟨-, set⟩
  · rw [set, List.mem_append, List.mem_cons] at member
    rw [List.mem_append, List.mem_cons]
    tauto
  · rw [set, List.mem_append, List.mem_singleton] at member
    exact member.symm

theorem nodup_insertField (name : RawText) (value : Json) (distinct : (names fields).Nodup) :
    (names (insertField fields name value)).Nodup := by
  rcases names_insertField fields name value with ⟨same, -⟩ | ⟨more, new⟩
  · rwa [same]
  · rw [more, List.nodup_append]
    refine ⟨distinct, List.pairwise_singleton _ name, ?_⟩
    rintro known member _ last rfl
    exact new (List.mem_singleton.mp last ▸ member)

/-! ### Setting several fields -/

/-- Fields with others set over them, one after the other. -/
def overlay (base others : List (RawText × Json)) : List (RawText × Json) :=
  others.foldl (fun object field => insertField object field.1 field.2) base

/-- What holds of fields, and goes on holding when one more is set, holds when all are set. -/
theorem overlay_induction {motive : List (RawText × Json) → Prop} (start : motive base)
    (step : ∀ object, motive object → ∀ field ∈ others, motive (insertField object field.1 field.2)) :
    motive (overlay base others) := by
  induction others generalizing base with
  | nil => exact start
  | cons field others ih =>
      exact ih (step base start field List.mem_cons_self) fun object holds other member =>
        step object holds other (List.mem_cons_of_mem field member)

theorem nodup_overlay (distinct : (names base).Nodup) (others : List (RawText × Json)) :
    (names (overlay base others)).Nodup :=
  @overlay_induction base others (fun object => (names object).Nodup) distinct
    fun _ holds field _ => nodup_insertField field.1 field.2 holds

theorem mem_overlay : ∀ field ∈ overlay base others, field ∈ base ∨ field ∈ others := by
  refine @overlay_induction base others (fun object => ∀ field ∈ object, field ∈ base ∨ field ∈ others)
    (fun field member => .inl member) ?_
  intro object holds other inside field member
  rcases mem_insertField member with rfl | known
  · exact .inr inside
  · exact holds field known

/-- Under the names that stand there already, the values are replaced in their places. -/
theorem overlay_of_same {front first second : List (RawText × Json)} (same : names first = names second)
    (distinct : (names (front ++ second)).Nodup) :
    overlay (front ++ first) second = front ++ second := by
  induction second generalizing front first with
  | nil =>
      rw [names, names, List.map_nil, List.map_eq_nil_iff] at same
      rw [same]
      rfl
  | cons field second ih =>
      obtain ⟨name, value⟩ := field
      obtain ⟨⟨known, old⟩, first, rfl, sameName, others⟩ := List.map_eq_cons_iff.mp same
      obtain rfl : known = name := sameName
      have new : known ∉ names front := by
        intro member
        rw [names_append, List.nodup_append] at distinct
        exact distinct.2.2 known member known List.mem_cons_self rfl
      have rest := @ih (front ++ [(known, value)]) first others (by simpa using distinct)
      show overlay (insertField (front ++ (known, old) :: first) known value) second = _
      rw [insertField_of_known old value new]
      simpa using rest

/-- New names go to the end, in their order. -/
theorem overlay_of_new (distinct : (names (base ++ others)).Nodup) : overlay base others = base ++ others := by
  induction others generalizing base with
  | nil => exact (List.append_nil base).symm
  | cons field others ih =>
      obtain ⟨name, value⟩ := field
      have new : name ∉ names base := by
        intro member
        rw [names_append, List.nodup_append] at distinct
        exact distinct.2.2 name member name List.mem_cons_self rfl
      have rest := @ih (base ++ [(name, value)]) (by simpa using distinct)
      show overlay (insertField base name value) others = _
      rw [insertField_of_new value new]
      simpa using rest

/-- Fields set over others come out as they are if the names of the others are the first of their names. -/
theorem overlay_eq (leads : names base <+: names fields) (distinct : (names fields).Nodup) :
    overlay base fields = fields := by
  obtain ⟨more, whole⟩ := leads
  obtain ⟨front, behind, rfl, frontNames, -⟩ := List.map_eq_append_iff.mp whole.symm
  have frontDistinct : (names front).Nodup := by
    rw [names_append, List.nodup_append] at distinct
    exact distinct.1
  have known : overlay base front = front := @overlay_of_same [] base front frontNames.symm frontDistinct
  have split : overlay base (front ++ behind) = overlay (overlay base front) behind := List.foldl_append
  rw [split, known, overlay_of_new distinct]

/-! ### Looking fields up -/

theorem lookupField_cons (field : RawText × Json) (fields : List (RawText × Json)) (name : RawText) :
    lookupField (field :: fields) name = if field.1 = name then some field.2 else lookupField fields name := by
  by_cases same : field.1 = name
  · simp [lookupField, same]
  · simp [lookupField, same]

theorem lookupField_of_notMem (new : name ∉ names fields) : lookupField fields name = none := by
  induction fields with
  | nil => rfl
  | cons field fields ih =>
      rw [names, List.map_cons, List.mem_cons, not_or] at new
      rw [lookupField_cons, if_neg (Ne.symm new.1), ih new.2]

/-- Among fields of different names, what is found under a name is the field of that name. -/
theorem lookupField_eq_some_iff (distinct : (names fields).Nodup) :
    lookupField fields name = some value ↔ (name, value) ∈ fields := by
  induction fields with
  | nil => exact iff_of_false nofun (List.not_mem_nil)
  | cons field fields ih =>
      obtain ⟨new, others⟩ := List.nodup_cons.mp distinct
      rw [lookupField_cons, List.mem_cons]
      by_cases same : field.1 = name
      · subst same
        rw [if_pos rfl]
        constructor
        · rintro ⟨⟩
          exact .inl rfl
        · rintro (first | later)
          · exact congrArg (fun field => some field.2) first.symm
          · exact absurd (mem_names later) new
      · rw [if_neg same, ih others]
        refine ⟨.inr, ?_⟩
        rintro (rfl | later)
        · exact absurd rfl same
        · exact later

/-- What is found among fields of different names does not depend on their order. -/
theorem lookupField_of_perm (distinct : (names fields).Nodup) (same : fields.Perm others) (name : RawText) :
    lookupField fields name = lookupField others name := by
  have othersDistinct : (names others).Nodup := (same.map Prod.fst).nodup_iff.mp distinct
  refine Option.ext fun value => ?_
  rw [lookupField_eq_some_iff distinct, lookupField_eq_some_iff othersDistinct, same.mem_iff]

/-! ### Fields of different names, set over others -/

/-- A field with the value that others have under its name, or else with its own. -/
def renewed (others : List (RawText × Json)) (field : RawText × Json) : RawText × Json :=
  (field.1, (lookupField others field.1).getD field.2)

/-- A field that is set over others changes none of another name. -/
theorem map_renewed_cons (absent : name ∉ names base) :
    base.map (renewed ((name, value) :: others)) = base.map (renewed others) := by
  refine List.map_congr_left fun field member => ?_
  have differs : name ≠ field.1 := by
    rintro rfl
    exact absent (mem_names member)
  rw [renewed, renewed, lookupField_cons, if_neg differs]

theorem renewed_cons_self (old : Json) : renewed ((name, value) :: others) (name, old) = (name, value) := by
  rw [renewed, lookupField_cons, if_pos rfl, Option.getD_some]

theorem renewed_of_notMem (new : name ∉ names others) : renewed others (name, value) = (name, value) := by
  rw [renewed, lookupField_of_notMem new, Option.getD_none]

/-- The name of a field is that of no field in front of it or behind it. -/
theorem notMem_of_nodup {front behind : List (RawText × Json)}
    (distinct : (names (front ++ (name, value) :: behind)).Nodup) :
    name ∉ names front ∧ name ∉ names behind := by
  have first : (names ((name, value) :: (front ++ behind))).Nodup :=
    (List.perm_middle.map Prod.fst).nodup_iff.mp distinct
  have absent : name ∉ names (front ++ behind) := (List.nodup_cons.mp first).1
  rwa [names_append, List.mem_append, not_or] at absent

/-- Where a name is none of the others, they are new to the same fields with it and without it. -/
theorem filter_new_concat (new : name ∉ names others) :
    (others.filter fun field => field.1 ∉ names (base ++ [(name, value)])) =
      others.filter fun field => field.1 ∉ names base := by
  refine List.filter_congr fun field member => ?_
  have differs : field.1 ∉ names [(name, value)] := by
    intro last
    have known := mem_names member
    rw [List.mem_singleton.mp last] at known
    exact new known
  refine decide_eq_decide.mpr (not_congr ?_)
  rw [names_append, List.mem_append, or_iff_left differs]

/-- Fields of different names that are set over others: the names of the others keep their places, with
the new value where there is one, and the new names follow in their order. -/
theorem overlay_eq_append (baseDistinct : (names base).Nodup) (distinct : (names others).Nodup) :
    overlay base others =
      base.map (renewed others) ++ others.filter fun field => field.1 ∉ names base := by
  induction others generalizing base with
  | nil =>
      have same : base.map (renewed []) = base := List.map_id base
      rw [same, List.filter_nil, List.append_nil]
      rfl
  | cons field others ih =>
      obtain ⟨name, value⟩ := field
      obtain ⟨new, othersDistinct⟩ := List.nodup_cons.mp distinct
      refine (@ih (insertField base name value) (nodup_insertField name value baseDistinct)
        othersDistinct).trans ?_
      rcases insertField_cases base name value with ⟨front, old, behind, rfl, set⟩ | ⟨absent, set⟩
      · obtain ⟨before, after⟩ := notMem_of_nodup baseDistinct
        have sameNames : names (front ++ (name, value) :: behind) = names (front ++ (name, old) :: behind) := by
          simp [names]
        rw [set, sameNames, List.filter_cons_of_neg (by simp [names]), List.map_append, List.map_append,
          List.map_cons, List.map_cons, map_renewed_cons before, map_renewed_cons after, renewed_cons_self,
          renewed_of_notMem new]
      · rw [set, filter_new_concat new, List.filter_cons_of_pos (by simpa using absent), List.map_append,
          List.map_singleton, renewed_of_notMem new, map_renewed_cons absent, List.append_assoc]
        rfl

theorem names_overlay (baseDistinct : (names base).Nodup) (distinct : (names others).Nodup) :
    names (overlay base others) = names base ++ (names others).filter fun name => name ∉ names base := by
  rw [overlay_eq_append baseDistinct distinct, names_append, names, List.map_map, names.eq_1 others,
    List.filter_map]
  rfl

/-- If they have all names of the others, they come out as the same fields, in another order. -/
theorem overlay_perm (baseDistinct : (names base).Nodup) (distinct : (names others).Nodup)
    (complete : ∀ name ∈ names base, name ∈ names others) : (overlay base others).Perm others := by
  have whole := overlay_eq_append baseDistinct distinct
  refine (List.perm_ext_iff_of_nodup (List.Nodup.of_map Prod.fst (nodup_overlay baseDistinct others))
    (List.Nodup.of_map Prod.fst distinct)).mpr
    fun field => ?_
  rw [whole, List.mem_append, List.mem_filter, List.mem_map]
  constructor
  · rintro (⟨known, inBase, rfl⟩ | ⟨member, -⟩)
    · obtain ⟨⟨_, value⟩, member, rfl⟩ := List.mem_map.mp (complete _ (mem_names inBase))
      rw [renewed, (lookupField_eq_some_iff distinct).mpr member]
      exact member
    · exact member
  · intro member
    by_cases known : field.1 ∈ names base
    · obtain ⟨old, inBase, same⟩ := List.mem_map.mp known
      refine .inl ⟨old, inBase, ?_⟩
      rw [renewed, same, (lookupField_eq_some_iff distinct).mpr member]
      rfl
    · exact .inr ⟨member, by simpa using known⟩

/-- Fields of different names are an object. -/
theorem ofFields_of_nodup (distinct : (names fields).Nodup) : ofFields fields = fields :=
  @overlay_of_new [] fields distinct

end Json

end TapeMultiplier
