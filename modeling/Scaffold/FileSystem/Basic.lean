/-! # The file system

  Files and directories by their place. A file system is a list of placed
  entries; the order of the list is the order in which directories list what
  they hold. A renamed entry moves to the end.

  - `Location`: the names on the way down from the root.
  - `IsName`: what a directory can call one of its entries.
  - `get?`: what is at a location. The root is always a directory.
  - `setFile`, `addDirectory`, `eraseTree`, `moveTree`, `plant`: the elementary changes.
  - `WellFormed`: no location twice, and every entry lies in a directory.
-/

namespace Scaffold

/-! ### Entries -/

/-- The names on the way from the root to an entry. -/
abbrev Location := List String

/-- The most bytes a name can have. Paths as a whole may have any length here, although systems
limit that as well. -/
def nameLimit : Nat := 255

/-- A name that a directory can give to an entry. -/
structure IsName (name : String) : Prop where
  /-- It is not empty. -/
  nonempty : name ≠ ""
  /-- It does not stand for the directory itself. -/
  not_current : name ≠ "."
  /-- It does not stand for the directory above. -/
  not_parent : name ≠ ".."
  /-- It is one name and not several. -/
  no_slash : '/' ∉ name.toList
  /-- It holds no zero byte. -/
  no_zero : '\x00' ∉ name.toList
  /-- It is not too long. -/
  short : name.utf8ByteSize ≤ nameLimit

instance (name : String) : Decidable (IsName name) :=
  decidable_of_iff (name ≠ "" ∧ name ≠ "." ∧ name ≠ ".." ∧ '/' ∉ name.toList ∧
      '\x00' ∉ name.toList ∧ name.utf8ByteSize ≤ nameLimit)
    ⟨fun ⟨h₁, h₂, h₃, h₄, h₅, h₆⟩ => ⟨h₁, h₂, h₃, h₄, h₅, h₆⟩,
      fun h => ⟨h.nonempty, h.not_current, h.not_parent, h.no_slash, h.no_zero, h.short⟩⟩

/-- What can be at a location. -/
inductive Entry where
  /-- A directory. -/
  | directory
  /-- A file with its bytes. -/
  | file (content : ByteArray)

/-- Two files are equal if their bytes are. -/
instance : DecidableEq Entry
  | .directory, .directory => isTrue rfl
  | .file a, .file b =>
    match ByteArray.instDecidableEq a b with
    | isTrue h => isTrue (congrArg Entry.file h)
    | isFalse h => isFalse fun e => h (Entry.file.inj e)
  | .directory, .file _ => isFalse nofun
  | .file _, .directory => isFalse nofun

/-- Whether the entry is a directory. -/
def Entry.isDirectory : Entry → Bool
  | .directory => true
  | .file _ => false

/-- Whether the entry is a file. -/
def Entry.isFile (entry : Entry) : Bool := !entry.isDirectory

/-- The bytes of a file. -/
def Entry.content? : Entry → Option ByteArray
  | .directory => none
  | .file content => some content

/-- Files and directories by location, and the current directory. -/
structure FileSystem where
  /-- Every entry below the root. -/
  entries : List (Location × Entry) := []
  /-- Where relative paths start. -/
  current : Location := []
  deriving DecidableEq

namespace FileSystem

/-! ### Look-up -/

/-- What is at a location. -/
def get? (fs : FileSystem) (location : Location) : Option Entry :=
  if location = [] then some .directory else fs.entries.lookup location

/-- Whether a directory is at the location. -/
def isDirectoryAt (fs : FileSystem) (location : Location) : Bool :=
  (fs.get? location).any (·.isDirectory)

/-- Whether a file is at the location. -/
def isFileAt (fs : FileSystem) (location : Location) : Bool :=
  (fs.get? location).any (·.isFile)

/-- The contents of all files. -/
def contents (fs : FileSystem) : List ByteArray := fs.entries.filterMap (·.2.content?)

/-- The locations of all directories. -/
def directories (fs : FileSystem) : List Location :=
  (fs.entries.filter (·.2.isDirectory)).map (·.1)

/-- No location occurs twice or is the root, every entry lies in a directory, and all are named
by names. -/
structure WellFormed (fs : FileSystem) : Prop where
  /-- Locations are distinct. -/
  distinct : (fs.entries.map (·.1)).Nodup
  /-- The root is implicit. -/
  below_root : ∀ e ∈ fs.entries, e.1 ≠ []
  /-- What holds an entry is a directory. -/
  in_directory : ∀ e ∈ fs.entries, fs.isDirectoryAt e.1.dropLast
  /-- Locations are made of names. -/
  named : ∀ e ∈ fs.entries, ∀ name ∈ e.1, IsName name
  /-- The current directory is a directory. -/
  current_directory : fs.isDirectoryAt fs.current

instance (fs : FileSystem) : Decidable fs.WellFormed :=
  decidable_of_iff ((fs.entries.map (·.1)).Nodup ∧ (∀ e ∈ fs.entries, e.1 ≠ []) ∧
      (∀ e ∈ fs.entries, fs.isDirectoryAt e.1.dropLast) ∧
      (∀ e ∈ fs.entries, ∀ name ∈ e.1, IsName name) ∧ fs.isDirectoryAt fs.current)
    ⟨fun ⟨h₁, h₂, h₃, h₄, h₅⟩ => ⟨h₁, h₂, h₃, h₄, h₅⟩,
      fun h => ⟨h.distinct, h.below_root, h.in_directory, h.named, h.current_directory⟩⟩

/-! ### Elementary changes -/

/-- Replaces the entry of the first pair with this location, or adds a pair at the end. -/
def insertEntry (location : Location) (entry : Entry) :
    List (Location × Entry) → List (Location × Entry)
  | [] => [(location, entry)]
  | (l, e) :: rest =>
    if l = location then (l, entry) :: rest else (l, e) :: insertEntry location entry rest

/-- Puts a file at a location. -/
def setFile (fs : FileSystem) (location : Location) (content : ByteArray) : FileSystem :=
  { fs with entries := insertEntry location (.file content) fs.entries }

/-- Puts a directory at a free location. -/
def addDirectory (fs : FileSystem) (location : Location) : FileSystem :=
  { fs with entries := fs.entries ++ [(location, .directory)] }

/-- Removes an entry and everything below it. -/
def eraseTree (fs : FileSystem) (location : Location) : FileSystem :=
  { fs with entries := fs.entries.filter fun e => !location.isPrefixOf e.1 }

/-- The location `l`, which lies at or below `source`, seen from `target`. -/
def rebase (source target l : Location) : Location := target ++ l.drop source.length

/-- Moves an entry and everything below it. It is listed last at its new place. A current
directory that moves stays the current one. -/
def moveTree (fs : FileSystem) (source target : Location) : FileSystem :=
  { entries :=
      (fs.entries.filter fun e => !source.isPrefixOf e.1) ++
      (fs.entries.filter fun e => source.isPrefixOf e.1).map fun e =>
        (rebase source target e.1, e.2)
    current :=
      if source.isPrefixOf fs.current then rebase source target fs.current else fs.current }

/-- Puts all of another file system into a directory that is empty. -/
def plant (fs : FileSystem) (location : Location) (tree : FileSystem) : FileSystem :=
  { fs with entries := fs.entries ++ tree.entries.map fun e => (location ++ e.1, e.2) }

end FileSystem

end Scaffold
