import Scaffold.FileSystem.Access

/-! # Walking a tree

  The entries below a directory, in two orders.

  - `collectContentsFirst`: every directory after what it holds; in a directory
    the subdirectories before the files, each kind by name.
  - `collectAsListed`: every directory before what it holds, in listing order.
-/

namespace Scaffold.FileSystem

/-! ### Entries below a directory -/

/-- An entry found on a walk. -/
structure Visited where
  /-- The names below the directory where the walk began. -/
  relative : Location
  /-- The entry. -/
  entry : Entry
  deriving DecidableEq

/-- The path of a visited entry when the walk began at `root`. -/
def Visited.path (root : Path) (v : Visited) : Path :=
  v.relative.foldl Path.join root

/-- The visited entry's names joined by slashes. -/
def Visited.name (v : Visited) : String := Text.joinTexts '/' v.relative

/-- Everything below a location, in the order of the file system. -/
def below (fs : FileSystem) (location : Location) : List Visited :=
  (fs.entries.filter fun e => location.isPrefixOf e.1 && location != e.1).map fun e =>
    ⟨e.1.drop location.length, e.2⟩

/-! ### Contents first -/

/-- The steps to an entry, each marked with whether it is a directory. -/
def Visited.steps (v : Visited) : List (Bool × String) :=
  v.relative.dropLast.map (true, ·) ++ (v.relative.getLast?.map (v.entry.isDirectory, ·)).toList

/-- Directories come before files, then names decide; an entry comes after all it holds. -/
def stepsLe : List (Bool × String) → List (Bool × String) → Bool
  | _, [] => true
  | [], _ :: _ => false
  | (d, n) :: rest, (d', n') :: rest' =>
    if d = d' then
      if n = n' then stepsLe rest rest' else decide (n < n')
    else d

/-- Everything below a location, contents first. -/
def collectContentsFirst (fs : FileSystem) (location : Location) : List Visited :=
  (fs.below location).mergeSort fun a b => stepsLe a.steps b.steps

/-! ### In listing order -/

/-- The position of a location in the list of entries. -/
def position (fs : FileSystem) (location : Location) : Nat :=
  fs.entries.findIdx (·.1 == location)

/-- The positions of an entry's directories and of the entry itself. -/
def positions (fs : FileSystem) (location : Location) (v : Visited) : List Nat :=
  (List.range v.relative.length).map fun i => fs.position (location ++ v.relative.take (i + 1))

/-- An entry comes before all it holds; else the first different position decides. -/
def positionsLe : List Nat → List Nat → Bool
  | [], _ => true
  | _ :: _, [] => false
  | p :: rest, p' :: rest' => if p = p' then positionsLe rest rest' else decide (p < p')

/-- Everything below a location, in listing order. -/
def collectAsListed (fs : FileSystem) (location : Location) : List Visited :=
  (fs.below location).mergeSort fun a b =>
    positionsLe (fs.positions location a) (fs.positions location b)

/-! ### Walks from a path -/

/-- The location where a walk from a path begins. -/
def walkRoot (fs : FileSystem) (root : Path) : Except IoFault Location := fs.locate root

end Scaffold.FileSystem
