/-
Module: TapeMultiplier.Proofs.Store.Lasting
Layer: Proofs
Purpose: Paths that lead somewhere go on leading there.  Where the directories of a store are directories of
  another, a path leads to the same location in both, so what it stands for lasts while directories are
  made and files are written.
Main exports: Store.status_eq_file_iff, Store.isDirectory_iff, Store.DirectoriesLast, Store.Lasts,
  Store.DirectoriesLast.locate_eq_ok, Store.Lasts.status_eq, Store.Lasts.of_makeDirectory,
  Store.openForWriting_of_file, Store.status_of_openForWriting, Store.written_of_openForWriting
-/
import TapeMultiplier.Proofs.Store.Path

namespace TapeMultiplier

namespace Store

variable {store changed : Store} {place : Place}

/-! ### What a path stands for -/

/-- What stands at the location to which a path leads decides what the path stands for. -/
theorem status_of_locate {spot : Spot} (located : store.locate place = .ok spot) :
    store.status place =
      match store.find? spot.location with
      | none => .error .missing
      | some (.file content) =>
          if endsInSlash place.path then .error .notDirectory else .ok (.file content)
      | some (.directory entries) => .ok (.directory entries) := by
  obtain ⟨⟨shown, -⟩, -⟩ := locate_eq_ok located
  rw [status, located, ← shown]
  rfl

theorem exists_locate_of_status {node : Node} (stands : store.status place = .ok node) :
    ∃ spot, store.locate place = .ok spot := by
  obtain ⟨spot, located, -⟩ := Except.bind_eq_ok.mp stands
  exact ⟨spot, located⟩

theorem status_eq_file_iff {content : ByteArray} :
    store.status place = .ok (.file content) ↔
      ∃ spot, store.locate place = .ok spot ∧ store.find? spot.location = some (.file content) ∧
        endsInSlash place.path = false := by
  constructor
  · intro stands
    obtain ⟨spot, located⟩ := exists_locate_of_status stands
    refine ⟨spot, located, ?_⟩
    rw [status_of_locate located] at stands
    split at stands
    · cases stands
    · next found =>
      split at stands
      · cases stands
      · next noSlash =>
        cases stands
        exact ⟨found, Bool.eq_false_iff.mpr noSlash⟩
    · cases stands
  · rintro ⟨spot, located, found, noSlash⟩
    rw [status_of_locate located, found]
    simp only [noSlash, Bool.false_eq_true, if_false]

theorem isDirectory_iff :
    store.isDirectory place = true ↔
      ∃ spot entries, store.locate place = .ok spot ∧
        store.find? spot.location = some (.directory entries) := by
  rw [isDirectory]
  constructor
  · intro directory
    split at directory
    · next node stands =>
      obtain ⟨spot, located⟩ := exists_locate_of_status stands
      rw [status_of_locate located] at stands
      split at stands
      · cases stands
      · split at stands
        · cases stands
        · cases stands
          cases directory
      · next entries found => exact ⟨spot, entries, located, found⟩
    · cases directory
  · rintro ⟨spot, entries, located, found⟩
    rw [status_of_locate located, found]
    rfl

theorem holds_of_isDirectory (directory : store.isDirectory place = true) : store.holds place = true := by
  unfold isDirectory at directory
  unfold holds
  cases stands : store.status place with
  | ok node => rfl
  | error fault =>
      rw [stands] at directory
      cases directory

/-! ### Directories that last -/

/-- The directories of a store are directories of another. -/
def DirectoriesLast (store changed : Store) : Prop :=
  ∀ location entries, store.find? location = some (.directory entries) →
    ∃ more, changed.find? location = some (.directory more)

/-- A walk meets nothing but directories on its way. -/
theorem DirectoriesLast.walk_eq_ok (last : DirectoriesLast store changed) {spot other found : Spot}
    {names : List FileName} (sound : store.Sound spot) (otherSound : changed.Sound other)
    (same : other.location = spot.location) (walked : store.walk spot names = .ok found) :
    ∃ arrived, changed.walk other names = .ok arrived ∧ changed.Sound arrived ∧
      arrived.location = found.location := by
  induction names generalizing spot other with
  | nil =>
      cases walked
      exact ⟨other, rfl, otherSound, same⟩
  | cons name rest ih =>
      rw [walk] at walked
      split at walked
      · cases walked
      · cases walked
      · next entries isDirectory =>
        split at walked
        · cases walked
        · next short =>
          have here : store.find? spot.location = some (.directory entries) := by
            rw [← sound.shown, isDirectory]
          obtain ⟨more, there⟩ := last _ _ here
          obtain ⟨entered, led⟩ := sound_enter here name
          obtain ⟨otherEntered, otherLed⟩ := sound_enter there name
          have shown : other.node = some (.directory more) := by
            rw [otherSound.shown, same, there]
          rw [walk, shown, same]
          simp only [if_neg short]
          exact ih entered otherEntered (otherLed.trans led.symm) walked

theorem DirectoriesLast.locate_eq_ok (last : DirectoriesLast store changed) {spot : Spot}
    (located : store.locate place = .ok spot) :
    ∃ other, changed.locate place = .ok other ∧ changed.Sound other ∧
      other.location = spot.location := by
  rw [locate, follow] at located ⊢
  split at located
  · cases located
  · next short =>
    rw [if_neg short]
    split at located
    · cases located
    · next anchor anchored =>
      obtain ⟨entries, root⟩ := store.find?_anchor anchor
      obtain ⟨more, otherRoot⟩ := changed.find?_anchor anchor
      have sound : store.Sound (store.spot { anchor, trail := [] }) := ⟨rfl, Or.inl ⟨entries, root⟩⟩
      exact last.walk_eq_ok sound ⟨rfl, Or.inl ⟨more, otherRoot⟩⟩ rfl located

theorem DirectoriesLast.isDirectory_eq (last : DirectoriesLast store changed)
    (directory : store.isDirectory place = true) : changed.isDirectory place = true := by
  obtain ⟨spot, entries, located, found⟩ := isDirectory_iff.mp directory
  obtain ⟨other, otherLocated, -, same⟩ := last.locate_eq_ok located
  obtain ⟨more, otherFound⟩ := last _ _ found
  exact isDirectory_iff.mpr ⟨other, more, otherLocated, by rw [same, otherFound]⟩

/-- Changing one location that is no directory leaves all directories in place. -/
theorem SameBut.directoriesLast {location : Location} (same : SameBut location store changed)
    (noDirectory : ∀ entries, store.find? location ≠ some (.directory entries)) :
    DirectoriesLast store changed := by
  intro other entries found
  have apart : other ≠ location := by
    rintro rfl
    exact noDirectory entries found
  rcases same other apart with equal | ⟨-, after⟩
  · exact ⟨entries, equal ▸ found⟩
  · exact after

/-! ### Files that last -/

/-- What is found in a store is found in another: the same files and the same directories, which may have
more in them. -/
structure Lasts (store changed : Store) : Prop where
  directories : DirectoriesLast store changed
  files : ∀ location content, store.find? location = some (.file content) →
    changed.find? location = some (.file content)

namespace Lasts

theorem refl (store : Store) : store.Lasts store :=
  ⟨fun _ entries found => ⟨entries, found⟩, fun _ _ found => found⟩

theorem trans {first second third : Store} (one : first.Lasts second) (two : second.Lasts third) :
    first.Lasts third := by
  refine ⟨fun location entries found => ?_, fun location content found => ?_⟩
  · obtain ⟨more, between⟩ := one.directories _ _ found
    exact two.directories _ _ between
  · exact two.files _ _ (one.files _ _ found)

theorem of_makeDirectory (made : store.makeDirectory place = .ok changed) : store.Lasts changed := by
  obtain ⟨location, -, same, absent, -⟩ := makeDirectory_eq_ok made
  refine ⟨same.directoriesLast (by simp [absent]), fun other content found => ?_⟩
  have apart : other ≠ location := by
    rintro rfl
    cases absent.symm.trans found
  exact same.file_eq apart found

/-- A path that stands for a file goes on standing for it. -/
theorem status_eq (lasts : store.Lasts changed) {content : ByteArray}
    (stands : store.status place = .ok (.file content)) :
    changed.status place = .ok (.file content) := by
  obtain ⟨spot, located, found, noSlash⟩ := status_eq_file_iff.mp stands
  obtain ⟨other, otherLocated, -, same⟩ := lasts.directories.locate_eq_ok located
  refine status_eq_file_iff.mpr ⟨other, otherLocated, ?_, noSlash⟩
  rw [same]
  exact lasts.files _ _ found

end Lasts

/-! ### Files that are written -/

/-- The directory of whatever can be looked up can be looked up. -/
theorem exists_locateParent {spot : Spot} (located : store.locate place = .ok spot) :
    ∃ parent, store.locateParent place = .ok parent := by
  rw [locate, follow] at located
  rw [locateParent, follow]
  split at located
  · cases located
  · next short =>
    rw [if_neg short]
    split at located
    · cases located
    · next anchor anchored =>
      -- In front of the last name, and where there is no name at all, stands a directory.
      have reached : ∃ found entries, store.walk (store.spot { anchor, trail := [] })
          (namesOf place).dropLast = .ok found ∧ found.node = some (.directory entries) := by
        rcases List.eq_nil_or_concat' (namesOf place) with none | ⟨front, last, names⟩
        · rw [none]
          obtain ⟨entries, root⟩ := store.find?_anchor anchor
          exact ⟨_, entries, rfl, root⟩
        · rw [names, walk_append] at located
          obtain ⟨found, walked, ended⟩ := Except.bind_eq_ok.mp located
          rw [walk] at ended
          split at ended
          · cases ended
          · cases ended
          · next entries isDirectory =>
            exact ⟨found, entries, by rw [names, List.dropLast_concat, walked], isDirectory⟩
      obtain ⟨found, entries, walked, isDirectory⟩ := reached
      refine ⟨store.enter found.location entries FileName.itself, ?_⟩
      rw [walk_append, walked]
      show store.walk found [FileName.itself] = _
      rw [walk, isDirectory]
      rfl

/-- A file that is there can be emptied and written again. -/
theorem openForWriting_of_file {content : ByteArray} (stands : store.status place = .ok (.file content)) :
    ∃ opened, store.openForWriting .truncate place = .ok opened := by
  obtain ⟨spot, located, found, noSlash⟩ := status_eq_file_iff.mp stands
  obtain ⟨parent, locatedParent⟩ := exists_locateParent located
  obtain ⟨⟨shown, -⟩, -⟩ := locate_eq_ok located
  refine ⟨(store.put spot.location (.file ByteArray.empty), spot.location), ?_⟩
  rw [openForWriting, locatedParent, noSlash, located]
  simp only [bind, Except.bind, Bool.false_eq_true, if_false, shown, found]
  rfl

/-- A file to which something is written is found under its path, what it held when it was opened in front,
and all directories are where they were. -/
theorem status_of_openForWriting {mode : WriteMode} {location : Location}
    (opening : store.openForWriting mode place = .ok (changed, location)) (content : ByteArray) :
    DirectoriesLast store (changed.append location content) ∧
      (changed.append location content).status place =
        .ok (.file (openedContent mode (store.find? location) ++ content)) := by
  obtain ⟨⟨spot, located⟩, named, same, noDirectory, present⟩ := openForWriting_eq_ok opening
  have noSlash : endsInSlash place.path = false := by
    rw [openForWriting] at opening
    obtain ⟨_, -, opened⟩ := Except.bind_eq_ok.mp opening
    split at opened
    · cases opened
    · next noSlash => exact Bool.eq_false_iff.mpr noSlash
  have last := (same.trans (sameBut_append present content)).directoriesLast noDirectory
  obtain ⟨other, otherLocated, -, sameLocation⟩ := last.locate_eq_ok located
  have here : other.location = location := by
    obtain ⟨-, led⟩ := locate_eq_ok located
    exact sameLocation.trans (Option.some.inj (led.symm.trans named))
  refine ⟨last, status_eq_file_iff.mpr ⟨other, otherLocated, ?_, noSlash⟩⟩
  rw [here, find?_append_self present]

/-- What is written to an emptied file is found under its path, and all directories are where they were. -/
theorem written_of_openForWriting {location : Location}
    (opening : store.openForWriting .truncate place = .ok (changed, location)) (content : ByteArray) :
    DirectoriesLast store (changed.append location content) ∧
      (changed.append location content).status place = .ok (.file content) := by
  obtain ⟨last, stands⟩ := status_of_openForWriting opening content
  exact ⟨last, by simpa [openedContent] using stands⟩

end Store

end TapeMultiplier
