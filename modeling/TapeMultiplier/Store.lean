/-
Module: TapeMultiplier.Store
Layer: Store
Purpose: Files and directories: finite trees, one for the files of the user and one for the files that
  come with the program.
Main exports: Node, Store, Place, StoreFault, Store.status, Store.readBytes, Store.openForWriting,
  Store.append, Store.makeDirectory, Store.changes, Store.newDirectories
-/
import TapeMultiplier.Store.FileName
import TapeMultiplier.Store.Path

namespace TapeMultiplier

/-!
A path is resolved step by step, as a file system does it: every directory on the way has to exist, a
dot stays, two dots go up.  What can go wrong is one of five faults; the texts of file errors are made
from them elsewhere.
-/

/-- A file with its content, or a directory with its entries. -/
inductive Node where
  | file (content : ByteArray)
  | directory (entries : List (FileName × Node))

/-- The entries of a directory. -/
abbrev Entries := List (FileName × Node)

namespace Entries

/-- Put something under a name in place of what is there; a new name goes to the end. -/
def put (name : FileName) (node : Node) : Entries → Entries
  | [] => [(name, node)]
  | entry :: rest => if entry.1 = name then (name, node) :: rest else entry :: put name node rest

/-- The entries without those of a name. -/
def erase (name : FileName) (entries : Entries) : Entries :=
  entries.filter fun entry => entry.1 != name

end Entries

namespace Node

/-- What is found below a node along names. -/
def descend : List FileName → Node → Option Node
  | [], node => some node
  | _ :: _, file _ => none
  | name :: rest, directory entries => (entries.lookup name).bind (descend rest)

/-- A node with a change made to the directory that is found below it along names. -/
def update (change : Entries → Entries) : List FileName → Node → Node
  | _, file content => file content
  | [], directory entries => directory (change entries)
  | name :: rest, directory entries =>
      directory (entries.map fun entry =>
        if entry.1 = name then (entry.1, update change rest entry.2) else entry)

/-- The entries of a directory; a file has none. -/
def entries : Node → Entries
  | file _ => []
  | directory entries => entries

/-- Whether a node is a directory. -/
def isDirectory : Node → Bool
  | file _ => false
  | directory _ => true

/-- The content of a file. -/
def content? : Node → Option ByteArray
  | file content => some content
  | directory _ => none

end Node

/-- Where a location is counted from. -/
inductive Anchor where
  /-- The directory in which the program works. -/
  | working
  /-- The directory of the files that come with the program. -/
  | installed
  /-- The root of the file system. -/
  | system
deriving Repr, Inhabited, DecidableEq

/-- A location: the names on the way to it from an anchor, the last one first. -/
structure Location where
  anchor : Anchor
  trail : List FileName
deriving Repr, Inhabited, DecidableEq

namespace Location

/-- The directory above; above an anchor stands the root of the file system. -/
def up (location : Location) : Location :=
  match location.trail with
  | [] => { anchor := .system, trail := [] }
  | _ :: above => { location with trail := above }

/-- A name in the directory at a location. -/
def enter (location : Location) (name : FileName) : Location :=
  { location with trail := name :: location.trail }

end Location

/-- What can go wrong with a file. -/
inductive StoreFault where
  | missing
  | alreadyThere
  | notDirectory
  | isDirectory
  | nameTooLong
deriving Repr, Inhabited, DecidableEq

/-- A path given by the user, or a path looked up among the files that come with the program. -/
inductive Place where
  | here (path : RawText)
  | installed (root path : RawText)
deriving Repr, DecidableEq

namespace Place

/-- The path as it is looked up, counted from the place's anchor. -/
def path : Place → RawText
  | here path => path
  | installed _ path => path

/-- The whole path. -/
def text : Place → RawText
  | here path => path
  | installed root path => directoryLead root ++ path

/-- Where the search for a path starts; the empty path leads nowhere, unless it stands for the directory
of the installed files. -/
def anchor? : Place → Option Anchor
  | here path =>
      if path.isEmpty then none else some (if isRooted path then .system else .working)
  | installed _ _ => some .installed

end Place

/-- The files and directories below the anchors. -/
structure Store where
  working : Entries
  installed : Entries
  system : Entries

/-- A location and what stands there. -/
structure Spot where
  location : Location
  node : Option Node

namespace Store

/-- The directory at an anchor. -/
def root (store : Store) : Anchor → Node
  | .working => .directory store.working
  | .installed => .directory store.installed
  | .system => .directory store.system

/-- What stands at a location. -/
def find? (store : Store) (location : Location) : Option Node :=
  (store.root location.anchor).descend location.trail.reverse

/-- The location with what stands there. -/
def spot (store : Store) (location : Location) : Spot :=
  { location, node := store.find? location }

/-- The store with a change made to the directory at a location. -/
def update (store : Store) (location : Location) (change : Entries → Entries) : Store :=
  let changed := ((store.root location.anchor).update change location.trail.reverse).entries
  match location.anchor with
  | .working => { store with working := changed }
  | .installed => { store with installed := changed }
  | .system => { store with system := changed }

/-- The store with something put at a location; anchors stay. -/
def put (store : Store) (location : Location) (node : Node) : Store :=
  match location.trail with
  | [] => store
  | name :: _ => store.update location.up (Entries.put name node)

/-- The store without what stands at a location. -/
def erase (store : Store) (location : Location) : Store :=
  match location.trail with
  | [] => store
  | name :: _ => store.update location.up (Entries.erase name)

/-- The most bytes that one name may have. -/
def nameLimit : Nat := 255

/-- The most bytes that a whole path with its slashes may have. -/
def pathLimit : Nat := 4095

/-- Follow one name in a directory. -/
def enter (store : Store) (location : Location) (entries : Entries) (name : FileName) : Spot :=
  if name = FileName.itself then { location, node := some (.directory entries) }
  else if name = FileName.above then store.spot location.up
  else { location := location.enter name, node := entries.lookup name }

/-- Follow names.  Everything that is left behind on the way has to be a directory, in which no name over
the limit is looked for; what is reached in the end need not exist. -/
def walk (store : Store) : Spot → List FileName → Except StoreFault Spot
  | spot, [] => .ok spot
  | spot, name :: rest =>
      match spot.node with
      | none => .error .missing
      | some (.file _) => .error .notDirectory
      | some (.directory entries) =>
          if nameLimit < name.size then .error .nameTooLong
          else store.walk (store.enter spot.location entries name) rest

/-- Follow names from where the search for a place starts, unless its whole path is over the limit. -/
def follow (store : Store) (place : Place) (names : List FileName) : Except StoreFault Spot :=
  if place.text.exceeds pathLimit then .error .nameTooLong
  else
    match place.anchor? with
    | none => .error .missing
    | some anchor => store.walk (store.spot { anchor, trail := [] }) names

/-- The names in the path of a place. -/
def namesOf (place : Place) : List FileName :=
  (namesIn place.path).map FileName.ofText

/-- Where a path leads. -/
def locate (store : Store) (place : Place) : Except StoreFault Spot :=
  store.follow place (namesOf place)

/-- The directory in which the last name of a path is looked up. -/
def locateParent (store : Store) (place : Place) : Except StoreFault Spot :=
  store.follow place ((namesOf place).dropLast ++ [FileName.itself])

/-- What a path stands for. -/
def status (store : Store) (place : Place) : Except StoreFault Node := do
  let spot ← store.locate place
  match spot.node with
  | none => throw .missing
  | some (.file content) =>
      if endsInSlash place.path then throw .notDirectory else return .file content
  | some (.directory entries) => return .directory entries

/-- Whether a path stands for anything. -/
def holds (store : Store) (place : Place) : Bool :=
  (store.status place).isOk

/-- Whether a path stands for a directory. -/
def isDirectory (store : Store) (place : Place) : Bool :=
  match store.status place with
  | .ok node => node.isDirectory
  | .error _ => false

/-- The content of a file. -/
def readBytes (store : Store) (place : Place) : Except StoreFault ByteArray := do
  match ← store.status place with
  | .file content => return content
  | .directory _ => throw .isDirectory

/-- Whether writing starts from an empty file or at the end of the present one. -/
inductive WriteMode where
  | truncate
  | append
deriving Repr, DecidableEq

/-- Open a file for writing, creating it if it is not there.  A path that ends in a slash is taken for
a directory, whatever stands there; its last name is not looked up. -/
def openForWriting (store : Store) (mode : WriteMode) (place : Place) :
    Except StoreFault (Store × Location) := do
  let _ ← store.locateParent place
  if endsInSlash place.path then throw .isDirectory
  let spot ← store.locate place
  match spot.node, mode with
  | some (.directory _), _ => throw .isDirectory
  | some (.file _), .append => return (store, spot.location)
  | _, _ => return (store.put spot.location (.file ByteArray.empty), spot.location)

/-- Write at the end of an open file. -/
def append (store : Store) (location : Location) (content : ByteArray) : Store :=
  match store.find? location with
  | some (.file present) => store.put location (.file (present ++ content))
  | _ => store.put location (.file content)

/-- Make a directory in one that exists. -/
def makeDirectory (store : Store) (place : Place) : Except StoreFault Store := do
  let spot ← store.locate place
  match spot.node with
  | some _ => throw .alreadyThere
  | none => return store.put spot.location (.directory [])

end Store

/-! ### Differences -/

/-- A node of one tree, with the names on the way to it, the last one first, and what stands at the same
place in another tree. -/
structure Counterpart where
  trail : List FileName
  node : Node
  other : Option Node

namespace Counterpart

/-- The path of the node. -/
def name (pair : Counterpart) : RawText :=
  RawText.joined "/" (pair.trail.reverse.map FileName.toText)

end Counterpart

mutual

/-- The node at a trail and all nodes below it beside those of another tree. -/
def Node.beside (trail : List FileName) (other : Option Node) : Node → List Counterpart
  | .file content => [{ trail, node := .file content, other }]
  | .directory entries =>
      { trail, node := .directory entries, other } ::
        entriesBeside trail ((other.map Node.entries).getD []) entries

/-- The entries of the directory at a trail and all nodes below them beside those of another
directory. -/
def entriesBeside (trail : List FileName) (others : Entries) : Entries → List Counterpart
  | [] => []
  | (name, node) :: rest =>
      node.beside (name :: trail) (others.lookup name) ++ entriesBeside trail others rest

end

namespace Store

/-- The files that differ between two stores, sorted by path: the new content, or nothing for a file
that is gone. -/
def changes (old new : Store) : List (RawText × Option ByteArray) :=
  let written := (entriesBeside [] old.working new.working).filterMap fun pair =>
    match pair.node.content? with
    | some content =>
        if (pair.other.bind Node.content?).any (· == content) then none
        else some (pair.name, some content)
    | none => none
  let gone := (entriesBeside [] new.working old.working).filterMap fun pair =>
    if pair.node.content?.isSome && (pair.other.bind Node.content?).isNone then
      some (pair.name, none)
    else none
  (written ++ gone).mergeSort fun left right => left.1.precedes right.1

/-- The directories that only the second store has, sorted by path. -/
def newDirectories (old new : Store) : List RawText :=
  let made := (entriesBeside [] old.working new.working).filterMap fun pair =>
    if pair.node.isDirectory && !pair.other.any Node.isDirectory then some pair.name else none
  made.mergeSort RawText.precedes

end Store

end TapeMultiplier
