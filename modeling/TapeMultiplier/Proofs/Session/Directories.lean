/-
Module: TapeMultiplier.Proofs.Session.Directories
Layer: Proofs
Purpose: Making a directory and those above it.  Everything that was found before is found afterwards, and
  where the directory is there already, nothing happens.
Main exports: Splits, splits_splitDirectory, keeps_makeDirectoriesWithin, lasts_of_makeDirectories,
  makeDirectories_of_isDirectory
-/
import Mathlib.Data.List.TakeWhile
import TapeMultiplier.Proofs.Session
import TapeMultiplier.Proofs.Store.Lasting

namespace TapeMultiplier

/-! ### The directory part of a path -/

/-- A path is cut into the path of a directory and a last name: the names in it are those of both. -/
structure Splits (path head tail : RawText) : Prop where
  leads : head.elements <+: path.elements
  unslashed : slash ∉ tail.elements
  names : head.elements ≠ [] → namesIn path = namesIn head ++ namesIn tail

theorem namesIn_slashes_append {slashes : List RawChar} (all : ∀ element ∈ slashes, element = slash)
    (behind : List RawChar) : namesIn ⟨slashes ++ behind⟩ = namesIn ⟨behind⟩ := by
  induction slashes with
  | nil => rfl
  | cons element slashes ih =>
      obtain ⟨rfl, others⟩ := List.forall_mem_cons.mp all
      rw [List.cons_append, ← ih others]
      exact namesIn_append_slash [] (slashes ++ behind)

theorem namesIn_append_slashes {slashes : List RawChar} (nonempty : slashes ≠ [])
    (all : ∀ element ∈ slashes, element = slash) (front behind : List RawChar) :
    namesIn ⟨front ++ (slashes ++ behind)⟩ = namesIn ⟨front⟩ ++ namesIn ⟨behind⟩ := by
  obtain ⟨element, others, rfl⟩ := List.exists_cons_of_ne_nil nonempty
  obtain ⟨rfl, others⟩ := List.forall_mem_cons.mp all
  rw [List.cons_append, namesIn_append_slash, namesIn_slashes_append others]

theorem splits_splitLast (path : RawText) : Splits path (splitLast path).1 (splitLast path).2 := by
  obtain ⟨elements⟩ := path
  -- From the end: the last name, the slashes in front of it, and the rest.
  have cut : elements.reverse.takeWhile (· != slash) ++ elements.reverse.dropWhile (· != slash) =
      elements.reverse := List.takeWhile_append_dropWhile
  have starts := List.head?_dropWhile_not (· != slash) elements.reverse
  have unslashed : slash ∉ (elements.reverse.takeWhile (· != slash)).reverse := by
    intro member
    have other := List.mem_takeWhile_imp (List.mem_reverse.mp member)
    simp at other
  rw [splitLast]
  generalize elements.reverse.takeWhile (· != slash) = tail at cut unslashed
  generalize elements.reverse.dropWhile (· != slash) = head at cut starts
  have marked := List.takeWhile_append_dropWhile (p := (· == slash)) (l := head)
  have slashed : ∀ element ∈ (head.takeWhile (· == slash)).reverse, element = slash := by
    intro element member
    simpa using List.mem_takeWhile_imp (List.mem_reverse.mp member)
  have begins : head ≠ [] → (head.takeWhile (· == slash)).reverse ≠ [] := by
    intro nonempty
    obtain ⟨first, rest, rfl⟩ := List.exists_cons_of_ne_nil nonempty
    simp at starts
    simp [starts]
  generalize head.takeWhile (· == slash) = slashes at marked slashed begins
  generalize head.dropWhile (· == slash) = front at marked
  subst marked
  have whole : elements = front.reverse ++ (slashes.reverse ++ tail.reverse) := by
    rw [← List.reverse_inj, ← cut]
    simp
  subst whole
  cases front with
  | nil =>
      refine ⟨by simp, unslashed, fun nonempty => ?_⟩
      simp only [List.append_nil, List.isEmpty_nil, if_true] at nonempty ⊢
      have none := namesIn_append_slashes nonempty slashed [] []
      rw [List.nil_append, List.append_nil] at none
      exact (namesIn_append_slashes nonempty slashed [] tail.reverse).trans (by rw [none]; rfl)
  | cons element front =>
      refine ⟨by simp, unslashed, fun _ => ?_⟩
      exact namesIn_append_slashes (begins (by simp)) slashed _ _

theorem splits_splitDirectory (path : RawText) :
    Splits path (splitDirectory path).1 (splitDirectory path).2 := by
  have outer := splits_splitLast path
  rw [splitDirectory]
  generalize splitLast path = parts at outer ⊢
  obtain ⟨head, tail⟩ := parts
  dsimp only at outer ⊢
  split
  · next empty =>
    have inner := splits_splitLast head
    refine ⟨inner.leads.trans outer.leads, inner.unslashed, fun nonempty => ?_⟩
    have outerNonempty : head.elements ≠ [] := by
      intro none
      have leads := inner.leads
      rw [none] at leads
      exact nonempty (List.prefix_nil.mp leads)
    have none : namesIn tail = [] := by
      rw [namesIn, List.isEmpty_iff.mp empty]
      rfl
    rw [outer.names outerNonempty, none, List.append_nil, inner.names nonempty]
  · exact outer

theorem RawText.exceeds_of_prefix {head path : RawText} {limit : Nat} (leads : head.elements <+: path.elements)
    (long : head.exceeds limit = true) : path.exceeds limit = true := by
  obtain ⟨behind, whole⟩ := leads
  rw [RawText.exceeds_eq, decide_eq_true_eq] at long ⊢
  refine Nat.lt_of_lt_of_le long ?_
  rw [RawText.bytes, RawText.bytes, ← whole, List.flatMap_append, List.length_append]
  exact Nat.le_add_right _ _

/-- The directory part of the path of a directory is the path of a directory, if it is followed by a name. -/
theorem Splits.isDirectory {store : Store} {path head tail : RawText} (splits : Splits path head tail)
    (nonempty : head.elements ≠ []) (named : tail.elements ≠ [])
    (directory : store.isDirectory (.here path) = true) : store.isDirectory (.here head) = true := by
  obtain ⟨spot, entries, located, -⟩ := Store.isDirectory_iff.mp directory
  obtain ⟨behind, whole⟩ := splits.leads
  have names : Store.namesOf (.here path) = Store.namesOf (.here head) ++ [FileName.ofText tail] := by
    rw [Store.namesOf, Place.path, splits.names nonempty, List.map_append,
      namesIn_of_name named splits.unslashed]
    rfl
  have anchored : (Place.here head).anchor? = (Place.here path).anchor? := by
    obtain ⟨first, rest, elements⟩ := List.exists_cons_of_ne_nil nonempty
    simp [Place.anchor?, RawText.isEmpty, isRooted, ← whole, elements]
  have short : (Place.here head).text.exceeds Store.pathLimit ≠ true := by
    rw [Store.locate, Store.follow] at located
    split at located
    · cases located
    · next short => exact fun long => short (RawText.exceeds_of_prefix splits.leads long)
  rw [Store.locate, Store.follow] at located
  split at located
  · cases located
  · rw [← anchored] at located
    split at located
    · cases located
    · next anchor leads =>
      rw [names, Store.walk_append] at located
      obtain ⟨found, walked, ended⟩ := Except.bind_eq_ok.mp located
      have reached : store.locate (.here head) = .ok found := by
        rw [Store.locate, Store.follow, if_neg short, leads]
        exact walked
      obtain ⟨⟨shown, -⟩, -⟩ := Store.locate_eq_ok reached
      rw [Store.walk] at ended
      split at ended
      · cases ended
      · cases ended
      · next inside isDirectory =>
        exact Store.isDirectory_iff.mpr ⟨found, inside, reached, by rw [← shown, isDirectory]⟩

theorem Splits.checkPath_eq {path head tail : RawText} (splits : Splits path head tail)
    (allowed : checkPath path = .ok ()) : checkPath head = .ok () := by
  rw [checkPath_eq_ok] at allowed ⊢
  exact fun element member => allowed element (splits.leads.subset member)

/-! ### Making directories -/

section

variable {relation : Session → Session → Prop} (refl : ∀ session, relation session session)
  (trans : ∀ {before middle after}, relation before middle → relation middle after →
    relation before after)
  (made : ∀ {path session store}, session.store.makeDirectory (.here path) = .ok store →
    relation session { session with store })

include refl trans made

/-- Making a directory and those above it, as they were given, keeps whatever making one keeps. -/
theorem keeps_makeDirectoriesWithin (levels : Nat) (path : RawText) :
    (makeDirectoriesWithin levels path).Keeps relation := by
  induction levels generalizing path with
  | zero => exact refl
  | succ levels ih =>
      rw [makeDirectoriesWithin]
      generalize splitDirectory path = parts
      obtain ⟨head, tail⟩ := parts
      have last := keeps_makeDirectory_unless refl trans made path
      refine App.keeps_bind refl (fun found => ?_) trans
      dsimp only
      split
      · refine App.keeps_bind (App.keeps_tryCatch (ih _) (fun failure => ?_) trans) (fun _ => ?_) trans
        · split <;> exact refl
        · split
          · exact refl
          · exact last
      · exact last

end

/-- Making directories loses nothing. -/
theorem lasts_of_makeDirectories {path : RawText} {start final : Session}
    (made : makeDirectories path start = .ok () final) : start.store.Lasts final.store := by
  have keeps : (makeDirectoriesWithin levelLimit path).Keeps
      fun before after => before.store.Lasts after.store :=
    keeps_makeDirectoriesWithin (fun session => Store.Lasts.refl session.store)
      (fun one two => one.trans two) Store.Lasts.of_makeDirectory levelLimit path
  exact keeps.of_ok made

theorem installRoot_of_makeDirectories {path : RawText} {start final : Session}
    (made : makeDirectories path start = .ok () final) : final.installRoot = start.installRoot := by
  have keeps := @keeps_makeDirectoriesWithin
    (fun before after => after.installRoot = before.installRoot) (fun _ => rfl)
    (fun one two => two.trans one) (fun _ => rfl) levelLimit path
  exact keeps.of_ok made

theorem makeDirectory_of_isDirectory {path : RawText} {session : Session}
    (allowed : checkPath path = .ok ())
    (directory : session.store.isDirectory (.here path) = true) :
    makeDirectory path session = .error (.file ⟨.alreadyThere, path⟩) session := by
  obtain ⟨spot, entries, located, found⟩ := Store.isDirectory_iff.mp directory
  obtain ⟨⟨shown, -⟩, -⟩ := Store.locate_eq_ok located
  have there : session.store.makeDirectory (.here path) = .error .alreadyThere := by
    rw [Store.makeDirectory, located]
    simp only [bind, Except.bind, shown, found]
    rfl
  have refused := @onStore_of_error _ (.here path) (fun store => store.makeDirectory (.here path))
    session _ allowed there
  rw [makeDirectory]
  exact EStateM.bind_of_error refused

/-- Where a directory is there already, there is nothing to make. -/
theorem makeDirectories_of_isDirectory {path : RawText} {session : Session}
    (allowed : checkPath path = .ok ())
    (directory : session.store.isDirectory (.here path) = true) :
    makeDirectories path session = .ok () session := by
  have splits := splits_splitDirectory path
  have last : unlessDirectory path (makeDirectory path) session = .ok () session := by
    show EStateM.tryCatch (makeDirectory path) _ session = _
    unfold EStateM.tryCatch
    rw [makeDirectory_of_isDirectory allowed directory]
    show (if session.store.isDirectory (.here path) = true then (pure () : App Unit) else _) session = _
    rw [if_pos directory]
    rfl
  rw [makeDirectories, levelLimit, makeDirectoriesWithin]
  generalize splitDirectory path = parts at splits ⊢
  obtain ⟨head, tail⟩ := parts
  dsimp only at splits ⊢
  have there : (!head.isEmpty && !tail.isEmpty &&
      !(session.store.holds (.here head) && (checkPath head).isOk)) = false := by
    cases noHead : head.isEmpty with
    | true => rfl
    | false =>
        cases noTail : tail.isEmpty with
        | true => rfl
        | false =>
            have inside := splits.isDirectory (by simpa [RawText.isEmpty] using noHead)
              (by simpa [RawText.isEmpty] using noTail) directory
            rw [Store.holds_of_isDirectory inside, splits.checkPath_eq allowed]
            rfl
  show (if (!head.isEmpty && !tail.isEmpty &&
      !(session.store.holds (.here head) && (checkPath head).isOk)) = true then _ else _ : App Unit) session = _
  rw [there]
  exact last

/-- A directory that was made is there. -/
theorem Store.isDirectory_of_makeDirectory {store changed : Store} {place : Place}
    (made : store.makeDirectory place = .ok changed) : changed.isDirectory place = true := by
  have lasts := Lasts.of_makeDirectory made
  obtain ⟨location, led, -, -, there⟩ := makeDirectory_eq_ok made
  obtain ⟨spot, located, -⟩ := Except.bind_eq_ok.mp made
  obtain ⟨other, otherLocated, -, same⟩ := lasts.directories.locate_eq_ok located
  obtain ⟨-, spotLed⟩ := locate_eq_ok located
  have here : spot.location = location := Option.some.inj (spotLed.symm.trans led)
  exact isDirectory_iff.mpr ⟨other, [], otherLocated, by rw [same, here, there]⟩

/-- Whether a path stands for a directory. -/
def Session.hasDirectory (session : Session) (path : RawText) : Bool :=
  session.store.isDirectory (.here path) && (checkPath path).isOk

theorem isOk_checkPath {path : RawText} : (checkPath path).isOk = true ↔ checkPath path = .ok () := by
  cases checkPath path with
  | ok done => exact iff_of_true rfl rfl
  | error failure => exact iff_of_false Bool.false_ne_true (by rintro ⟨⟩)

theorem hasDirectory_iff {session : Session} {path : RawText} : session.hasDirectory path = true ↔
    session.store.isDirectory (.here path) = true ∧ checkPath path = .ok () := by
  rw [Session.hasDirectory, Bool.and_eq_true, isOk_checkPath]

theorem makeDirectories_of_hasDirectory {path : RawText} {session : Session}
    (directory : session.hasDirectory path = true) : makeDirectories path session = .ok () session := by
  rw [hasDirectory_iff] at directory
  exact makeDirectories_of_isDirectory directory.2 directory.1

theorem checkPath_ne_file {path : RawText} {error : FileError} : checkPath path ≠ .error (.file error) := by
  intro refused
  rw [checkPath] at refused
  split at refused
  · cases refused
  · split at refused <;> cases refused

theorem hasDirectory_of_makeDirectory {path : RawText} {start final : Session}
    (made : makeDirectory path start = .ok () final) : final.hasDirectory path = true := by
  obtain ⟨store, middle, operated, stored⟩ := EStateM.bind_eq_ok.mp made
  obtain ⟨allowed, make, rfl⟩ := onStore_eq_ok operated
  cases stored
  exact hasDirectory_iff.mpr ⟨Store.isDirectory_of_makeDirectory make, allowed⟩

theorem hasDirectory_of_unlessDirectory {path : RawText} {start final : Session}
    (done : unlessDirectory path (makeDirectory path) start = .ok () final) : final.hasDirectory path = true := by
  cases outcome : makeDirectory path start with
  | ok answer middle =>
      have same : unlessDirectory path (makeDirectory path) start = .ok () middle := tryCatch_of_ok outcome
      cases same.symm.trans done
      exact hasDirectory_of_makeDirectory outcome
  | error failure middle =>
      rw [unlessDirectory, tryCatch_of_error outcome] at done
      cases failure with
      | file error =>
          -- The error was about the store, so the path was allowed, and the directory is there all the same.
          have directory : middle.store.isDirectory (.here path) = true ∧ final = middle := by
            change (if middle.store.isDirectory (.here path) = true then (pure () : App Unit) else _)
              middle = _ at done
            split at done
            · next found =>
              cases done
              exact ⟨found, rfl⟩
            · cases done
          obtain ⟨found, rfl⟩ := directory
          refine hasDirectory_iff.mpr ⟨found, ?_⟩
          cases checked : checkPath path with
          | ok allowed => rfl
          | error refusal =>
              have refused : makeDirectory path start = .error refusal start := by
                have stopped := @onStore_of_refused _ (.here path)
                  (fun store => store.makeDirectory (.here path)) start refusal checked
                rw [makeDirectory]
                exact EStateM.bind_of_error stopped
              cases refused.symm.trans outcome
              exact absurd checked checkPath_ne_file
      | _ => cases done

/-- Once a directory is made it is there, unless its path ends in a dot. -/
theorem hasDirectory_of_makeDirectories {path : RawText} {start final : Session}
    (named : (splitDirectory path).2 ≠ ".") (made : makeDirectories path start = .ok () final) :
    final.hasDirectory path = true := by
  rw [makeDirectories, levelLimit, makeDirectoriesWithin] at made
  generalize splitDirectory path = parts at named made
  obtain ⟨head, tail⟩ := parts
  obtain ⟨found, middle, -, made⟩ := EStateM.bind_eq_ok.mp made
  dsimp only at named made
  split at made
  · obtain ⟨⟨⟩, above, -, made⟩ := EStateM.bind_eq_ok.mp made
    split at made
    · next dot => exact absurd (by simpa using dot) named
    · exact hasDirectory_of_unlessDirectory made
  · exact hasDirectory_of_unlessDirectory made

end TapeMultiplier
