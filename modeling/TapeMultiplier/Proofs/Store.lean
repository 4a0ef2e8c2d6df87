/-
Module: TapeMultiplier.Proofs.Store
Layer: Proofs
Purpose: Where paths lead, and what writing changes.  The location of a path depends on its names alone.
  Writing a file changes what is found at its location; elsewhere only directories may differ.
Main exports: Place.location?, Store.locate_eq_ok, Store.SameBut, Store.find?_put_self, Store.sameBut_put,
  Store.openForWriting_eq_ok, Store.find?_append_self
-/
import TapeMultiplier.Proofs.Bind
import TapeMultiplier.Store

namespace TapeMultiplier

namespace Location

/-- Where names lead from a location. -/
def follow (location : Location) : List FileName → Location
  | [] => location
  | name :: rest =>
      if name = FileName.itself then location.follow rest
      else if name = FileName.above then location.up.follow rest
      else (location.enter name).follow rest

theorem follow_append (location : Location) (names rest : List FileName) :
    location.follow (names ++ rest) = (location.follow names).follow rest := by
  induction names generalizing location with
  | nil => rfl
  | cons name names ih =>
      rw [List.cons_append, follow, follow]
      split
      · exact ih location
      · split
        · exact ih location.up
        · exact ih (location.enter name)

end Location

/-- The location that a path names, be there something or not; the empty path names none. -/
def Place.location? (place : Place) : Option Location :=
  place.anchor?.map fun anchor => Location.follow { anchor, trail := [] } (Store.namesOf place)

/-! ### Nodes -/

namespace Node

theorem descend_append (names rest : List FileName) (node : Node) :
    node.descend (names ++ rest) = (node.descend names).bind fun found => found.descend rest := by
  induction names generalizing node with
  | nil => rfl
  | cons name names ih =>
      cases node with
      | file content => rfl
      | directory entries =>
          rw [List.cons_append, descend, descend]
          cases entries.lookup name with
          | none => rfl
          | some child => exact ih child

theorem lookup_map_update (change : Entries → Entries) (name : FileName) (rest : List FileName)
    (entries : Entries) (other : FileName) :
    (entries.map fun entry =>
        if entry.1 = name then (entry.1, update change rest entry.2) else entry).lookup other =
      if other = name then (entries.lookup other).map (update change rest)
      else entries.lookup other := by
  induction entries with
  | nil => simp
  | cons entry entries ih =>
      obtain ⟨key, node⟩ := entry
      simp only [List.map_cons]
      by_cases same : other = key
      · subst same
        by_cases changed : other = name
        · simp [changed]
        · simp [changed]
      · have differs : (other == key) = false := beq_eq_false_iff_ne.mpr same
        by_cases changed : key = name
        · rw [if_pos changed, List.lookup_cons, List.lookup_cons, differs]
          exact ih
        · rw [if_neg changed, List.lookup_cons, List.lookup_cons, differs]
          exact ih

/-- Below the directory that is changed, the change is seen. -/
theorem descend_update (change : Entries → Entries) (names rest : List FileName) (node : Node) :
    (node.update change names).descend (names ++ rest) =
      (node.descend names).bind fun found => (found.update change []).descend rest := by
  induction names generalizing node with
  | nil => rfl
  | cons name names ih =>
      cases node with
      | file content => rfl
      | directory entries =>
          rw [List.cons_append, update, descend, descend, lookup_map_update, if_pos rfl]
          cases entries.lookup name with
          | none => rfl
          | some child => exact ih child

/-- Whether two finds are the same, or both directories. -/
def Alike (left right : Option Node) : Prop :=
  left = right ∨
    (∃ entries, left = some (directory entries)) ∧ ∃ entries, right = some (directory entries)

/-- Elsewhere only directories are changed. -/
theorem alike_descend_update (change : Entries → Entries) {names path : List FileName}
    (elsewhere : ¬names <+: path) (node : Node) :
    Alike (node.descend path) ((node.update change names).descend path) := by
  induction names generalizing path node with
  | nil => exact absurd (List.nil_prefix) elsewhere
  | cons name names ih =>
      cases node with
      | file content => exact Or.inl rfl
      | directory entries =>
          cases path with
          | nil => exact Or.inr ⟨⟨_, rfl⟩, ⟨_, rfl⟩⟩
          | cons other path =>
              rw [update, descend, descend, lookup_map_update]
              by_cases same : other = name
              · subst same
                rw [if_pos rfl]
                have deeper : ¬names <+: path := by
                  intro inside
                  exact elsewhere (List.cons_prefix_cons.mpr ⟨rfl, inside⟩)
                cases entries.lookup other with
                | none => exact Or.inl rfl
                | some child => exact ih deeper child
              · rw [if_neg same]
                exact Or.inl rfl

/-- Nothing can be found below a find. -/
def Hollow (found : Option Node) : Prop :=
  ∀ name rest, (found.bind fun node => node.descend (name :: rest)) = none

theorem hollow_none : Hollow none := fun _ _ => rfl

theorem hollow_file (content : ByteArray) : Hollow (some (file content)) := fun _ _ => rfl

theorem hollow_empty : Hollow (some (directory [])) := fun _ _ => rfl

end Node

theorem Entries.lookup_put (name other : FileName) (node : Node) (entries : Entries) :
    (entries.put name node).lookup other =
      if other = name then some node else entries.lookup other := by
  induction entries with
  | nil =>
      by_cases same : other = name
      · simp [put, same]
      · simp [put, List.lookup_cons, same, beq_eq_false_iff_ne.mpr same]
  | cons entry rest ih =>
      obtain ⟨key, present⟩ := entry
      rw [put]
      by_cases replaced : key = name
      · subst replaced
        rw [if_pos rfl]
        by_cases same : other = key
        · simp [same]
        · simp [List.lookup_cons, same, beq_eq_false_iff_ne.mpr same]
      · rw [if_neg replaced]
        by_cases same : other = key
        · subst same
          simp [replaced]
        · have differs : (other == key) = false := beq_eq_false_iff_ne.mpr same
          rw [List.lookup_cons, List.lookup_cons, differs]
          exact ih

namespace Store

/-! ### Finding -/

theorem find?_enter (store : Store) (location : Location) (name : FileName) :
    store.find? (location.enter name) =
      (store.find? location).bind fun node => node.descend [name] := by
  rw [find?, find?, ← Node.descend_append]
  simp [Location.enter]

theorem find?_enter_of_directory {store : Store} {location : Location} {entries : Entries}
    (found : store.find? location = some (.directory entries)) (name : FileName) :
    store.find? (location.enter name) = entries.lookup name := by
  rw [find?_enter, found]
  simp only [Option.bind_some, Node.descend]
  cases entries.lookup name <;> rfl

theorem find?_anchor (store : Store) (anchor : Anchor) :
    ∃ entries, store.find? { anchor, trail := [] } = some (.directory entries) := by
  cases anchor with
  | working => exact ⟨store.working, rfl⟩
  | installed => exact ⟨store.installed, rfl⟩
  | system => exact ⟨store.system, rfl⟩

/-- Whatever is found is in a directory. -/
theorem find?_up {store : Store} {location : Location} {node : Node}
    (found : store.find? location = some node) :
    ∃ entries, store.find? location.up = some (.directory entries) := by
  obtain ⟨anchor, trail⟩ := location
  cases trail with
  | nil => exact store.find?_anchor .system
  | cons name above =>
      have inside : store.find? (Location.enter { anchor, trail := above } name) = some node := found
      rw [find?_enter] at inside
      show ∃ entries, store.find? { anchor, trail := above } = some (.directory entries)
      cases parent : store.find? { anchor, trail := above } with
      | none =>
          rw [parent] at inside
          cases inside
      | some outer =>
          cases outer with
          | file content =>
              rw [parent] at inside
              cases inside
          | directory entries => exact ⟨entries, rfl⟩

/-! ### Following paths -/

/-- A spot shows what stands at its location: a directory, or something in a directory. -/
structure Sound (store : Store) (spot : Spot) : Prop where
  shown : spot.node = store.find? spot.location
  placed : (∃ entries, spot.node = some (.directory entries)) ∨
    ∃ parent name entries, spot.location = parent.enter name ∧
      store.find? parent = some (.directory entries)

theorem sound_enter {store : Store} {location : Location} {entries : Entries}
    (found : store.find? location = some (.directory entries)) (name : FileName) :
    store.Sound (store.enter location entries name) ∧
      (store.enter location entries name).location = location.follow [name] := by
  rw [enter, Location.follow, Location.follow, Location.follow, Location.follow]
  split
  · exact ⟨⟨found.symm, Or.inl ⟨entries, rfl⟩⟩, rfl⟩
  · split
    · refine ⟨⟨rfl, Or.inl ?_⟩, rfl⟩
      exact find?_up found
    · refine ⟨⟨(find?_enter_of_directory found name).symm, Or.inr ?_⟩, rfl⟩
      exact ⟨location, name, entries, rfl, found⟩

/-- A walk ends where its names lead. -/
theorem walk_eq_ok {store : Store} {spot found : Spot} {names : List FileName}
    (sound : store.Sound spot) (walked : store.walk spot names = .ok found) :
    store.Sound found ∧ found.location = spot.location.follow names := by
  induction names generalizing spot with
  | nil =>
      cases walked
      exact ⟨sound, rfl⟩
  | cons name rest ih =>
      rw [walk] at walked
      split at walked
      · cases walked
      · cases walked
      · next entries isDirectory =>
        split at walked
        · cases walked
        · have here : store.find? spot.location = some (.directory entries) := by
            rw [← sound.shown, isDirectory]
          obtain ⟨entered, led⟩ := sound_enter here name
          obtain ⟨ended, followed⟩ := ih entered walked
          refine ⟨ended, ?_⟩
          rw [followed, led, ← Location.follow_append]
          rfl

theorem locate_eq_ok {store : Store} {place : Place} {spot : Spot}
    (located : store.locate place = .ok spot) :
    store.Sound spot ∧ place.location? = some spot.location := by
  rw [locate, follow] at located
  split at located
  · cases located
  · split at located
    · cases located
    · next anchor anchored =>
      obtain ⟨entries, root⟩ := store.find?_anchor anchor
      obtain ⟨sound, led⟩ := walk_eq_ok ⟨rfl, Or.inl ⟨entries, root⟩⟩ located
      refine ⟨sound, ?_⟩
      rw [Place.location?, anchored, led]
      rfl

/-! ### Putting something in place -/

theorem find?_update (store : Store) (location : Location) (change : Entries → Entries)
    (other : Location) :
    (store.update location change).find? other =
      if other.anchor = location.anchor then
        ((store.root location.anchor).update change location.trail.reverse).descend other.trail.reverse
      else store.find? other := by
  obtain ⟨anchor, trail⟩ := location
  obtain ⟨otherAnchor, otherTrail⟩ := other
  have whole : ∀ entries : Entries, Node.directory
      ((Node.directory entries).update change trail.reverse).entries =
        (Node.directory entries).update change trail.reverse := by
    intro entries
    cases trail.reverse <;> rfl
  cases anchor <;> cases otherAnchor
  all_goals first
    | rw [if_pos rfl, find?, update, root, root, whole]
    | rfl

/-- What two stores hold is alike but for one location. -/
def SameBut (location : Location) (store changed : Store) : Prop :=
  ∀ other, other ≠ location → Node.Alike (store.find? other) (changed.find? other)

/-- What is put into a directory is found there. -/
theorem find?_put_self {store : Store} {parent : Location} {entries : Entries}
    (found : store.find? parent = some (.directory entries)) (name : FileName) (node : Node) :
    (store.put (parent.enter name) node).find? (parent.enter name) = some node := by
  have descended : (store.root parent.anchor).descend parent.trail.reverse =
      some (.directory entries) := found
  show (store.update parent (Entries.put name node)).find? (parent.enter name) = some node
  rw [find?_update, if_pos (show (parent.enter name).anchor = parent.anchor from rfl)]
  show Node.descend (name :: parent.trail).reverse _ = _
  rw [List.reverse_cons, Node.descend_update, descended, Option.bind_some, Node.update,
    Node.descend, Entries.lookup_put, if_pos rfl]
  rfl

/-- Below a directory, an entry that holds nothing is seen only at its own place. -/
theorem alike_descend_put {entries : Entries} {name : FileName} {node : Node}
    (before : Node.Hollow (entries.lookup name)) (after : Node.Hollow (some node))
    {rest : List FileName} (apart : rest ≠ [name]) :
    Node.Alike ((Node.directory entries).descend rest)
      ((Node.directory (entries.put name node)).descend rest) := by
  cases rest with
  | nil => exact Or.inr ⟨⟨entries, rfl⟩, ⟨entries.put name node, rfl⟩⟩
  | cons other more =>
      rw [Node.descend, Node.descend, Entries.lookup_put]
      by_cases same : other = name
      · subst same
        rw [if_pos rfl]
        cases more with
        | nil => exact absurd rfl apart
        | cons next more =>
            left
            rw [before next more, after next more]
      · rw [if_neg same]
        exact Or.inl rfl

/-- Putting something that holds nothing where nothing is held changes no file elsewhere. -/
theorem sameBut_put {store : Store} {location : Location} {node : Node}
    (before : Node.Hollow (store.find? location)) (after : Node.Hollow (some node)) :
    SameBut location store (store.put location node) := by
  obtain ⟨anchor, trail⟩ := location
  cases trail with
  | nil => exact fun _ _ => Or.inl rfl
  | cons name above =>
      rintro ⟨otherAnchor, otherTrail⟩ differs
      show Node.Alike _
        ((store.update { anchor, trail := above } (Entries.put name node)).find? _)
      rw [find?_update]
      split
      · next sameAnchor =>
        cases sameAnchor
        by_cases inside : above.reverse <+: otherTrail.reverse
        · obtain ⟨rest, path⟩ := inside
          have apart : rest ≠ [name] := by
            rintro rfl
            rw [← List.reverse_cons, List.reverse_inj] at path
            exact differs (by rw [← path])
          rw [find?, ← path, Node.descend_append, Node.descend_update]
          cases parent : (store.root anchor).descend above.reverse with
          | none => exact Or.inl rfl
          | some outer =>
              cases outer with
              | file content => exact Or.inl rfl
              | directory entries =>
                  have found : store.find? { anchor, trail := above } = some (.directory entries) := parent
                  have empty : Node.Hollow (entries.lookup name) := by
                    rw [← find?_enter_of_directory found name]
                    exact before
                  exact alike_descend_put empty after apart
        · exact Node.alike_descend_update _ inside _
      · exact Or.inl rfl

theorem SameBut.trans {location : Location} {first second third : Store}
    (one : SameBut location first second) (two : SameBut location second third) :
    SameBut location first third := by
  intro other apart
  rcases one other apart with equal | ⟨before, between⟩
  · rw [equal]
    exact two other apart
  · rcases two other apart with equal | ⟨-, after⟩
    · exact Or.inr ⟨before, equal ▸ between⟩
    · exact Or.inr ⟨before, after⟩

theorem SameBut.find?_eq {location other : Location} {store changed : Store}
    (same : SameBut location store changed) (apart : other ≠ location)
    (noDirectory : ∀ entries, store.find? other ≠ some (.directory entries)) :
    changed.find? other = store.find? other := by
  rcases same other apart with equal | ⟨⟨entries, isDirectory⟩, -⟩
  · exact equal.symm
  · exact absurd isDirectory (noDirectory entries)

theorem SameBut.file_eq {location other : Location} {store changed : Store}
    (same : SameBut location store changed) (apart : other ≠ location) {content : ByteArray}
    (present : store.find? other = some (.file content)) :
    changed.find? other = some (.file content) := by
  rw [same.find?_eq apart, present]
  intro entries isDirectory
  rw [present] at isDirectory
  cases isDirectory

/-! ### Files -/

/-- What a file holds when it was opened for writing. -/
def openedContent (mode : WriteMode) (present : Option Node) : ByteArray :=
  match mode, present with
  | .append, some (.file content) => content
  | _, _ => ByteArray.empty

theorem find?_put_of_placed {store : Store} {location parent : Location} {name : FileName}
    {entries : Entries} (placed : location = parent.enter name)
    (found : store.find? parent = some (.directory entries)) (node : Node) :
    (store.put location node).find? location = some node := by
  rw [placed]
  exact find?_put_self found name node

/-- Emptying a file, or making one where there is nothing, changes what is found at its place. -/
theorem Sound.put_empty {store : Store} {spot : Spot} (sound : store.Sound spot)
    (noDirectory : ∀ entries, spot.node ≠ some (.directory entries)) :
    SameBut spot.location store (store.put spot.location (.file ByteArray.empty)) ∧
      (store.put spot.location (.file ByteArray.empty)).find? spot.location =
        some (.file ByteArray.empty) := by
  obtain ⟨shown, ⟨entries, isDirectory⟩ | ⟨parent, name, entries, inParent, found⟩⟩ := sound
  · exact absurd isDirectory (noDirectory entries)
  · refine ⟨sameBut_put ?_ (Node.hollow_file _), find?_put_of_placed inParent found _⟩
    rw [← shown]
    rcases present : spot.node with _ | ⟨content | entries⟩
    · exact Node.hollow_none
    · exact Node.hollow_file content
    · exact absurd present (noDirectory entries)

/-- A file that is opened for writing is there afterwards, with its content or without. -/
theorem openForWriting_eq_ok {store opened : Store} {mode : WriteMode} {place : Place}
    {location : Location} (opening : store.openForWriting mode place = .ok (opened, location)) :
    (∃ spot, store.locate place = .ok spot) ∧ place.location? = some location ∧
      SameBut location store opened ∧
      (∀ entries, store.find? location ≠ some (.directory entries)) ∧
      opened.find? location = some (.file (openedContent mode (store.find? location))) := by
  rw [openForWriting] at opening
  obtain ⟨_, -, named⟩ := Except.bind_eq_ok.mp opening
  clear opening
  split at named
  · cases named
  obtain ⟨spot, located, settled⟩ := Except.bind_eq_ok.mp named
  clear named
  refine ⟨⟨spot, located⟩, ?_⟩
  obtain ⟨sound, led⟩ := locate_eq_ok located
  have shown := sound.shown
  rcases present : spot.node with _ | ⟨content | entries⟩
  · obtain ⟨same, empty⟩ := sound.put_empty (by simp [present])
    rw [present] at settled shown
    cases mode with
    | truncate | append =>
        cases settled
        rw [← shown]
        exact ⟨led, same, by simp, empty⟩
  · obtain ⟨same, empty⟩ := sound.put_empty (by simp [present])
    rw [present] at settled shown
    cases mode with
    | truncate =>
        cases settled
        rw [← shown]
        exact ⟨led, same, by simp, empty⟩
    | append =>
        cases settled
        rw [← shown]
        exact ⟨led, fun _ _ => Or.inl rfl, by simp, rfl⟩
  · rw [present] at settled
    cases settled

/-- What is written to an open file is added to its content. -/
theorem find?_append_self {store : Store} {location : Location} {present : ByteArray}
    (found : store.find? location = some (.file present)) (content : ByteArray) :
    (store.append location content).find? location = some (.file (present ++ content)) := by
  obtain ⟨entries, parent⟩ := find?_up found
  rw [append, found]
  obtain ⟨anchor, trail⟩ := location
  cases trail with
  | nil =>
      obtain ⟨top, isDirectory⟩ := store.find?_anchor anchor
      rw [isDirectory] at found
      cases found
  | cons name above => exact find?_put_of_placed rfl parent _

theorem sameBut_append {store : Store} {location : Location} {present : ByteArray}
    (found : store.find? location = some (.file present)) (content : ByteArray) :
    SameBut location store (store.append location content) := by
  rw [append, found]
  refine sameBut_put ?_ (Node.hollow_file _)
  rw [found]
  exact Node.hollow_file present

/-- A new directory changes nothing but what is found at its place, where nothing was. -/
theorem makeDirectory_eq_ok {store made : Store} {place : Place}
    (make : store.makeDirectory place = .ok made) :
    ∃ location, place.location? = some location ∧ SameBut location store made ∧
      store.find? location = none ∧ made.find? location = some (.directory []) := by
  rw [makeDirectory] at make
  obtain ⟨spot, located, make⟩ := Except.bind_eq_ok.mp make
  obtain ⟨⟨shown, placed⟩, led⟩ := locate_eq_ok located
  split at make
  · cases make
  · next missing =>
    cases make
    obtain ⟨entries, isDirectory⟩ | ⟨parent, name, entries, inParent, found⟩ := placed
    · rw [missing] at isDirectory
      cases isDirectory
    have nothing : store.find? spot.location = none := by
      rw [← shown, missing]
    refine ⟨spot.location, led, ?_, nothing, find?_put_of_placed inParent found _⟩
    refine sameBut_put ?_ Node.hollow_empty
    rw [nothing]
    exact Node.hollow_none

/-- What a path stands for is what is found at its location. -/
theorem status_eq_ok {store : Store} {place : Place} {node : Node}
    (stands : store.status place = .ok node) :
    ∃ location, place.location? = some location ∧ store.find? location = some node := by
  rw [status] at stands
  obtain ⟨spot, located, stands⟩ := Except.bind_eq_ok.mp stands
  obtain ⟨⟨shown, -⟩, led⟩ := locate_eq_ok located
  refine ⟨spot.location, led, ?_⟩
  rw [← shown]
  split at stands
  · cases stands
  · next content file =>
    split at stands
    · cases stands
    · cases stands
      exact file
  · next entries isDirectory =>
    cases stands
    exact isDirectory

theorem readBytes_eq_ok {store : Store} {place : Place} {content : ByteArray} :
    store.readBytes place = .ok content ↔ store.status place = .ok (.file content) := by
  constructor
  · intro read
    obtain ⟨node, stands, isFile⟩ := Except.bind_eq_ok.mp read
    cases node with
    | file found =>
        cases isFile
        exact stands
    | directory entries => cases isFile
  · intro stands
    rw [readBytes, stands]
    rfl

end Store

end TapeMultiplier
