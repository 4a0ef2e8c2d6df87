/-
Module: TapeMultiplier.Store.Path
Layer: Store
Purpose: Paths as texts.  Two conventions meet here: paths that are used exactly as they were given, and
  tidy paths, in which superfluous slashes and dots are dropped.
Main exports: Path, Path.ofText, Path.text, Path.stem, Path.parent, Path.child, splitLast,
  directoryLead, joinNames
-/
import TapeMultiplier.Text.Raw

namespace TapeMultiplier

/-- What stands between the names of a path. -/
def slash : RawChar := .char '/'

/-- The pieces of a text between slashes. -/
def segments : List RawChar → List (List RawChar)
  | [] => [[]]
  | element :: rest =>
      if element = slash then [] :: segments rest
      else
        match segments rest with
        | [] => [[element]]
        | piece :: pieces => (element :: piece) :: pieces

/-- The names in a path, without the empty pieces around superfluous slashes. -/
def namesIn (path : RawText) : List RawText :=
  ((segments path.elements).filter fun piece => !piece.isEmpty).map RawText.mk

/-- Whether a path starts at the root of the file system. -/
def isRooted (path : RawText) : Bool :=
  path.elements.head? == some slash

/-- Whether a path ends in a slash and so can only name a directory. -/
def endsInSlash (path : RawText) : Bool :=
  path.elements.getLast? == some slash

/-- The slashes at the start that a tidy path keeps: two stay two, more count as one. -/
def rootOf (path : RawText) : RawText :=
  match (path.elements.takeWhile (· == slash)).length with
  | 0 => ""
  | 2 => "//"
  | _ => "/"

/-- A tidy path: its root, and names that are neither empty nor a single dot. -/
structure Path where
  root : RawText
  parts : List RawText
deriving Repr, Inhabited, DecidableEq

namespace Path

/-- The tidy form of a path. -/
def ofText (path : RawText) : Path :=
  { root := rootOf path, parts := (namesIn path).filter (· != ".") }

/-- The text of a tidy path; the empty one is a dot. -/
def text (path : Path) : RawText :=
  let body := path.root ++ RawText.joined "/" path.parts
  if body.isEmpty then "." else body

/-- The directory that holds the file; the outermost one holds itself. -/
def parent (path : Path) : Path :=
  { path with parts := path.parts.dropLast }

/-- The last name; empty if there is none. -/
def fileName (path : Path) : RawText :=
  path.parts.getLast?.getD ""

/-- A name without its last extension.  A dot at either end starts no extension. -/
def stemOf (name : List RawChar) : List RawChar :=
  let extension := name.reverse.takeWhile (· != .char '.')
  let stem := (name.reverse.dropWhile (· != .char '.')).drop 1
  if extension.isEmpty || stem.isEmpty then name else stem.reverse

/-- The last name without its extension. -/
def stem (path : Path) : RawText :=
  ⟨stemOf path.fileName.elements⟩

/-- A name inside a directory; nothing and a single dot name the directory itself. -/
def child (path : Path) (name : RawText) : Path :=
  if name.isEmpty || name == "." then path else { path with parts := path.parts ++ [name] }

end Path

/-- The directory part and the last name of a path as given.  Slashes at the end of the directory part
are dropped, unless it has nothing else. -/
def splitLast (path : RawText) : RawText × RawText :=
  let reversed := path.elements.reverse
  let tail := (reversed.takeWhile (· != slash)).reverse
  let head := reversed.dropWhile (· != slash)
  let trimmed := head.dropWhile (· == slash)
  (⟨if trimmed.isEmpty then head.reverse else trimmed.reverse⟩, ⟨tail⟩)

/-- What stands in front of the names in a directory: a slash is added where one is missing. -/
def directoryLead (directory : RawText) : RawText :=
  if directory.isEmpty || endsInSlash directory then directory else directory ++ "/"

/-- A name looked up in a directory; rooted names stay. -/
def joinNames (directory name : RawText) : RawText :=
  if isRooted name then name else directoryLead directory ++ name

end TapeMultiplier
