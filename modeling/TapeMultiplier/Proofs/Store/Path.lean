/-
Module: TapeMultiplier.Proofs.Store.Path
Layer: Proofs
Purpose: The names in the text of a tidy path.  A file in a directory is at the location of the directory,
  entered by the name of the file.
Main exports: namesIn_append_slash, Path.Tidy, Path.location?_child
-/
import TapeMultiplier.Proofs.Store

namespace TapeMultiplier

/-! ### Pieces between slashes -/

theorem segments_ne_nil (elements : List RawChar) : segments elements ≠ [] := by
  cases elements with
  | nil => exact List.cons_ne_nil _ _
  | cons element rest =>
      rw [segments]
      split
      · exact List.cons_ne_nil _ _
      · split <;> exact List.cons_ne_nil _ _

theorem segments_append_slash (front behind : List RawChar) :
    segments (front ++ slash :: behind) = segments front ++ segments behind := by
  induction front with
  | nil => simp [segments]
  | cons element front ih =>
      rw [List.cons_append, segments, segments, ih]
      split
      · rfl
      · obtain ⟨piece, pieces, cut⟩ := List.exists_cons_of_ne_nil (segments_ne_nil front)
        rw [cut]
        rfl

theorem segments_of_no_slash {elements : List RawChar} (whole : slash ∉ elements) :
    segments elements = [elements] := by
  induction elements with
  | nil => rfl
  | cons element rest ih =>
      simp only [List.mem_cons, not_or] at whole
      rw [segments, if_neg (fun same => whole.1 same.symm), ih whole.2]

theorem namesIn_append_slash (front behind : List RawChar) :
    namesIn ⟨front ++ slash :: behind⟩ = namesIn ⟨front⟩ ++ namesIn ⟨behind⟩ := by
  simp only [namesIn, segments_append_slash, List.filter_append, List.map_append]

theorem namesIn_of_name {name : RawText} (nonempty : name.elements ≠ []) (whole : slash ∉ name.elements) :
    namesIn name = [name] := by
  rw [namesIn, segments_of_no_slash whole, List.filter_cons_of_pos]
  · rfl
  · simpa using nonempty

/-! ### Texts of tidy paths -/

theorem elements_append (left right : RawText) : (left ++ right).elements = left.elements ++ right.elements :=
  rfl

theorem elements_joined_concat (parts : List RawText) (name : RawText) :
    (RawText.joined "/" (parts ++ [name])).elements =
      if parts = [] then name.elements
      else (RawText.joined "/" parts).elements ++ slash :: name.elements := by
  induction parts with
  | nil => simp [RawText.joined]
  | cons first rest ih =>
      rw [if_neg (List.cons_ne_nil first rest)]
      cases rest with
      | nil => simp [RawText.joined, RawText.ofString, slash]
      | cons second rest =>
          rw [if_neg (List.cons_ne_nil second rest)] at ih
          simp only [RawText.joined, List.cons_append, List.map_cons, List.intersperse_cons_cons,
            List.flatten_cons] at ih ⊢
          rw [ih]
          simp

namespace Path

/-- The root of a path is made of slashes, and no name in it is empty. -/
structure Tidy (path : Path) : Prop where
  rooted : path.root = "" ∨ path.root = "/" ∨ path.root = "//"
  named : ∀ part ∈ path.parts, part.elements ≠ []

theorem tidy_ofText (text : RawText) : (ofText text).Tidy := by
  constructor
  · show rootOf text = "" ∨ rootOf text = "/" ∨ rootOf text = "//"
    unfold rootOf
    split
    · exact Or.inl rfl
    · exact Or.inr (Or.inr rfl)
    · exact Or.inr (Or.inl rfl)
  · intro part member
    rw [ofText, List.mem_filter, namesIn, List.mem_map] at member
    obtain ⟨⟨piece, inside, rfl⟩, -⟩ := member
    rw [List.mem_filter] at inside
    simpa using inside.2

theorem tidy_child {path : Path} (tidy : path.Tidy) (name : RawText) : (path.child name).Tidy := by
  unfold child
  split
  · exact tidy
  · next substantial =>
    refine ⟨tidy.rooted, ?_⟩
    intro part member
    rcases List.mem_append.mp member with member | member
    · exact tidy.named part member
    · rw [List.mem_singleton.mp member]
      simp only [Bool.or_eq_true, not_or] at substantial
      simpa [RawText.isEmpty] using substantial.1

theorem body_ne_nil {path : Path} (tidy : path.Tidy) (nonempty : path.parts ≠ []) :
    (path.root ++ RawText.joined "/" path.parts).elements ≠ [] := by
  obtain ⟨first, rest, parts⟩ := List.exists_cons_of_ne_nil nonempty
  have named := tidy.named first (by rw [parts]; exact List.mem_cons_self)
  rw [elements_append, parts]
  intro empty
  have inner := (List.append_eq_nil_iff.mp empty).2
  cases rest with
  | nil => exact named (by simpa [RawText.joined] using inner)
  | cons second rest =>
      simp only [RawText.joined, List.map_cons, List.intersperse_cons_cons, List.flatten_cons] at inner
      exact named (List.append_eq_nil_iff.mp inner).1

theorem text_of_body {path : Path}
    (nonempty : (path.root ++ RawText.joined "/" path.parts).elements ≠ []) :
    path.text = path.root ++ RawText.joined "/" path.parts := by
  rw [text, RawText.isEmpty, if_neg]
  simpa using nonempty

theorem text_child {path : Path} (tidy : path.Tidy) {name : RawText}
    (substantial : (name.isEmpty || name == ".") = false) :
    (path.child name).text =
      if path.parts = [] then path.root ++ name
      else ⟨path.text.elements ++ slash :: name.elements⟩ := by
  have inner : path.child name = { root := path.root, parts := path.parts ++ [name] } := by
    rw [child, substantial]
    rfl
  have body : (path.root ++ RawText.joined "/" (path.parts ++ [name])).elements ≠ [] := by
    have extended := body_ne_nil (tidy_child tidy name)
    rw [inner] at extended
    exact extended (by simp)
  rw [inner, text_of_body body]
  by_cases empty : path.parts = []
  · rw [if_pos empty, empty]
    simp [RawText.joined]
  · rw [if_neg empty, text_of_body (body_ne_nil tidy empty)]
    show RawText.mk _ = _
    rw [elements_joined_concat, if_neg empty, elements_append, List.append_assoc]

theorem anchor?_here {path : RawText} (nonempty : path.elements ≠ []) :
    (Place.here path).anchor? = some (if isRooted path then .system else .working) := by
  have filled : path.isEmpty = false := by
    simpa [RawText.isEmpty] using nonempty
  simp only [Place.anchor?, filled, Bool.false_eq_true, if_false]

theorem location?_here {path : RawText} (nonempty : path.elements ≠ []) :
    (Place.here path).location? =
      some (Location.follow { anchor := if isRooted path then .system else .working, trail := [] }
        ((namesIn path).map FileName.ofText)) := by
  rw [Place.location?, anchor?_here nonempty]
  rfl

/-- A name of a file: one piece that does not stand for a directory itself or the one above it. -/
structure FileNamed (name : RawText) : Prop where
  nonempty : name.elements ≠ []
  whole : slash ∉ name.elements
  notItself : FileName.ofText name ≠ FileName.itself
  notAbove : FileName.ofText name ≠ FileName.above

namespace FileNamed

variable {name : RawText}

theorem substantial (named : FileNamed name) : (name.isEmpty || name == ".") = false := by
  have filled : name.isEmpty = false := by
    simpa [RawText.isEmpty] using named.nonempty
  have noDot : (name == ".") = false := by
    rw [beq_eq_false_iff_ne]
    intro same
    apply named.notItself
    rw [same]
    rfl
  rw [filled, noDot, Bool.false_or]

theorem namesIn_eq (named : FileNamed name) : namesIn name = [name] :=
  namesIn_of_name named.nonempty named.whole

/-- The names on the way to a file behind a slash. -/
theorem namesOf_eq (named : FileNamed name) (lead : List RawChar) :
    Store.namesOf (.here ⟨lead ++ slash :: name.elements⟩) =
      (namesIn ⟨lead⟩).map FileName.ofText ++ [FileName.ofText name] := by
  rw [Store.namesOf, Place.path, namesIn_append_slash, named.namesIn_eq, List.map_append]
  rfl

theorem follow_eq (named : FileNamed name) (location : Location) :
    location.follow [FileName.ofText name] = location.enter (FileName.ofText name) := by
  rw [Location.follow, if_neg named.notItself, if_neg named.notAbove]
  rfl

theorem isRooted_eq (named : FileNamed name) : isRooted name = false := by
  obtain ⟨first, rest, elements⟩ := List.exists_cons_of_ne_nil named.nonempty
  have whole := named.whole
  rw [elements, List.mem_cons, not_or] at whole
  simpa [isRooted, elements] using fun same => whole.1 same.symm

end FileNamed

/-- The texts of the paths to the files of a directory begin alike. -/
theorem exists_front {path : Path} (tidy : path.Tidy) : ∃ front : List RawChar,
    ∀ {name : RawText}, FileNamed name → (path.child name).text.elements = front ++ name.elements := by
  by_cases empty : path.parts = []
  · refine ⟨path.root.elements, fun named => ?_⟩
    rw [text_child tidy named.substantial, if_pos empty]
    rfl
  · refine ⟨path.text.elements ++ [slash], fun named => ?_⟩
    rw [text_child tidy named.substantial, if_neg empty, List.append_assoc]
    rfl

theorem endsInSlash_child {path : Path} (tidy : path.Tidy) {name : RawText} (named : FileNamed name) :
    endsInSlash (path.child name).text = false := by
  obtain ⟨front, begins⟩ := exists_front tidy
  rw [endsInSlash, begins named, List.getLast?_append, List.getLast?_eq_some_getLast named.nonempty,
    Option.some_or, beq_eq_false_iff_ne]
  intro same
  exact named.whole (Option.some.inj same ▸ List.getLast_mem named.nonempty)

/-- The way to a directory, and from there to its files. -/
structure LeadsTo (path : Path) (anchor : Anchor) (names : List FileName) : Prop where
  directory : (Place.here path.text).location? =
    some (Location.follow { anchor, trail := [] } names)
  file : ∀ {name : RawText}, FileNamed name →
    (Place.here (path.child name).text).anchor? = some anchor ∧
      Store.namesOf (.here (path.child name).text) = names ++ [FileName.ofText name]

/-- A slash leads from a directory to its files. -/
theorem leadsTo_of_lead {path : Path} (lead : List RawChar) {anchor : Anchor}
    (child : ∀ {name : RawText}, FileNamed name →
      (path.child name).text = ⟨lead ++ slash :: name.elements⟩)
    (rooted : ∀ rest, isRooted ⟨lead ++ slash :: rest⟩ = decide (anchor = .system))
    (outside : anchor ≠ .installed)
    (directory : (Place.here path.text).location? =
      some (Location.follow { anchor, trail := [] } ((namesIn ⟨lead⟩).map FileName.ofText))) :
    path.LeadsTo anchor ((namesIn ⟨lead⟩).map FileName.ofText) where
  directory := directory
  file := by
    intro name named
    rw [child named, anchor?_here (by simp), rooted, named.namesOf_eq]
    refine ⟨?_, rfl⟩
    cases anchor with
    | working => rfl
    | system => rfl
    | installed => exact absurd rfl outside

theorem exists_leadsTo {path : Path} (tidy : path.Tidy) : ∃ anchor names, path.LeadsTo anchor names := by
  by_cases empty : path.parts = []
  · have child : ∀ {name : RawText}, FileNamed name → (path.child name).text = path.root ++ name := by
      intro name named
      rw [text_child tidy named.substantial, if_pos empty]
    rcases tidy.rooted with root | root | root
    · refine ⟨.working, [], ?_, ?_⟩
      · rw [text, root, empty]
        rfl
      · intro name named
        have bare : path.root ++ name = name := by
          rw [root]
          rfl
        rw [child named, bare, anchor?_here named.nonempty, named.isRooted_eq, Store.namesOf]
        exact ⟨rfl, congrArg (List.map FileName.ofText) named.namesIn_eq⟩
    · refine ⟨.system, _, leadsTo_of_lead [] ?_ (fun rest => rfl) (by decide) ?_⟩
      · intro name named
        rw [child named, root]
        rfl
      · rw [text, root, empty]
        rfl
    · refine ⟨.system, _, leadsTo_of_lead [slash] ?_ (fun rest => rfl) (by decide) ?_⟩
      · intro name named
        rw [child named, root]
        rfl
      · rw [text, root, empty]
        rfl
  · have inside : path.text.elements ≠ [] := by
      rw [text_of_body (body_ne_nil tidy empty)]
      exact body_ne_nil tidy empty
    refine ⟨if isRooted path.text then .system else .working, _,
      leadsTo_of_lead path.text.elements ?_ ?_ ?_ (location?_here inside)⟩
    · intro name named
      rw [text_child tidy named.substantial, if_neg empty]
    · intro rest
      have sameHead : isRooted ⟨path.text.elements ++ slash :: rest⟩ = isRooted path.text := by
        obtain ⟨first, others, elements⟩ := List.exists_cons_of_ne_nil inside
        rw [isRooted, isRooted, elements]
        rfl
      rw [sameHead]
      cases isRooted path.text <;> rfl
    · split <;> decide

/-- A file in a directory is where the directory is, entered by the name of the file. -/
theorem location?_child {path : Path} (tidy : path.Tidy) {name : RawText} (named : FileNamed name) :
    (Place.here (path.child name).text).location? =
      (Place.here path.text).location?.map fun location => location.enter (FileName.ofText name) := by
  obtain ⟨anchor, names, leads⟩ := exists_leadsTo tidy
  obtain ⟨anchored, namesAre⟩ := leads.file named
  rw [leads.directory, Place.location?, anchored, namesAre, Option.map_some, Location.follow_append,
    named.follow_eq]
  rfl

end Path

/-- A name that is looked up in a directory is the last one of its path. -/
theorem exists_location?_joinNames {directory name : RawText} (named : Path.FileNamed name)
    {location : Location} (led : (Place.here (joinNames directory name)).location? = some location) :
    ∃ parent : Location, location = parent.enter (FileName.ofText name) := by
  have lastName : ∃ names, Store.namesOf (.here (joinNames directory name)) =
      names ++ [FileName.ofText name] := by
    rw [joinNames, named.isRooted_eq, if_neg Bool.false_ne_true, directoryLead]
    by_cases whole : (directory.isEmpty || endsInSlash directory) = true
    · rw [if_pos whole]
      rcases List.eq_nil_or_concat directory.elements with empty | ⟨front, last, cut⟩
      · refine ⟨[], ?_⟩
        have bare : directory ++ name = name := by
          show RawText.mk (directory.elements ++ name.elements) = name
          rw [empty]
          rfl
        rw [bare, Store.namesOf, Place.path, named.namesIn_eq]
        rfl
      · have isSlash : last = slash := by
          simpa [RawText.isEmpty, endsInSlash, cut] using whole
        have split : directory ++ name = ⟨front ++ slash :: name.elements⟩ := by
          show RawText.mk (directory.elements ++ name.elements) = _
          rw [cut, isSlash]
          simp
        exact ⟨_, split ▸ named.namesOf_eq front⟩
    · rw [if_neg whole]
      have split : directory ++ "/" ++ name = ⟨directory.elements ++ slash :: name.elements⟩ := by
        show RawText.mk (directory.elements ++ (RawText.ofString "/").elements ++ name.elements) = _
        rw [List.append_assoc]
        rfl
      exact ⟨_, split ▸ named.namesOf_eq directory.elements⟩
  obtain ⟨names, last⟩ := lastName
  rw [Place.location?, last] at led
  obtain ⟨anchor, -, rfl⟩ := Option.map_eq_some_iff.mp led
  refine ⟨Location.follow { anchor, trail := [] } names, ?_⟩
  rw [Location.follow_append, named.follow_eq]

namespace Store

theorem walk_append (store : Store) (spot : Spot) (names rest : List FileName) :
    store.walk spot (names ++ rest) = store.walk spot names >>= fun found => store.walk found rest := by
  induction names generalizing spot with
  | nil => rfl
  | cons name names ih =>
      rw [List.cons_append, walk, walk]
      split
      · rfl
      · rfl
      · split
        · rfl
        · exact ih _

/-- Where one file of a directory can be looked up, so can another, unless the text of its path is too
long. -/
theorem locate_child {store : Store} {path : Path} (tidy : path.Tidy) {first second : RawText}
    (firstNamed : Path.FileNamed first) (secondNamed : Path.FileNamed second) {spot : Spot}
    (located : store.locate (.here (path.child first).text) = .ok spot)
    (shortName : (FileName.ofText second).size ≤ nameLimit)
    (shortPath : (path.child second).text.exceeds pathLimit = false) :
    ∃ other, store.locate (.here (path.child second).text) = .ok other := by
  obtain ⟨anchor, names, leads⟩ := Path.exists_leadsTo tidy
  obtain ⟨firstAnchored, firstNames⟩ := leads.file firstNamed
  obtain ⟨secondAnchored, secondNames⟩ := leads.file secondNamed
  rw [locate, follow] at located
  split at located
  · cases located
  · simp only [firstAnchored, firstNames, walk_append] at located
    obtain ⟨directory, reached, entered⟩ := Except.bind_eq_ok.mp located
    rw [walk] at entered
    split at entered
    · cases entered
    · cases entered
    · next entries isDirectory =>
      refine ⟨store.enter directory.location entries (FileName.ofText second), ?_⟩
      rw [locate, follow, Place.text, shortPath, secondAnchored]
      simp only [Bool.false_eq_true, if_false, secondNames, walk_append, reached]
      show store.walk directory [FileName.ofText second] = _
      rw [walk, isDirectory]
      simp only [if_neg (Nat.not_lt.mpr shortName)]
      rfl

end Store

end TapeMultiplier
