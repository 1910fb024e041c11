import Scaffold.Error
import Scaffold.FileSystem.Walk
import Scaffold.Wildcard.IgnoreRules

/-! # Making the staging tree

  A template is copied into a fresh directory. What is ignored and the
  template's own metadata stay behind, directories with all they hold: a walk
  that comes to such a directory passes over what is in it.

  - `Listed`: an entry as a walk comes to it, with names that need not be texts.
  - `chosen`: what a walk chooses, entry by entry.
  - `create`: the whole staging tree.
-/

namespace Scaffold.Staging

open FileSystem (Visited)

/-! ### What stays behind -/

/-- The names that a configuration can have, in the order of look-up. -/
def configNames : List String := ["kiln.yaml", "kiln.yml", "kiln.json"]

/-- Whether a relative path is metadata of the template and no part of the project. -/
def isMetadata (relative : String) : Bool :=
  relative == IgnoreRules.fileName || configNames.contains relative

/-- Whether a walk skips an entry, not looking at what lies above it. -/
def isSkipped (rules : IgnoreRules) (relative : Location) : Bool :=
  isMetadata (Text.joinTexts '/' relative) || rules.isMatch (Text.joinTexts '/' relative)

/-! ### Walks that pass over directories -/

/-- An entry that a walk comes to. On the disk names are bytes, and need not be texts. -/
structure Listed where
  /-- The names below the directory where the walk began. -/
  names : List ByteArray
  /-- The entry. -/
  entry : Entry

/-- The entry with the texts of its names; none if one of them is no text. -/
def Listed.visited? (e : Listed) : Option Visited :=
  (e.names.mapM String.fromUTF8?).map fun relative => ⟨relative, e.entry⟩

/-- A visited entry with its names as bytes. -/
def Listed.ofVisited (v : Visited) : Listed := ⟨v.relative.map String.toUTF8, v.entry⟩

/-- Whether an entry is the one with these names, or lies below it. -/
def Listed.isWithin (e : Listed) (front : List ByteArray) : Bool :=
  @decide (e.names.take front.length = front) (@instDecidableEqList _ ByteArray.instDecidableEq _ _)

/-- What a walk chooses of the entries that are still to come. If a directory is being passed over,
`passed` has its names; an entry that is not below it ends that. -/
def chosen (rules : IgnoreRules) : Option (List ByteArray) → List Listed → List Visited
  | _, [] => []
  | passed, e :: rest =>
    if passed.any e.isWithin then chosen rules passed rest
    else match e.visited? with
      -- The walk goes on below such an entry, but nothing there has texts for names either.
      | none => chosen rules none rest
      | some v =>
        if isSkipped rules v.relative then
          chosen rules (if v.entry.isDirectory then some e.names else none) rest
        else v :: chosen rules none rest

/-! ### Copying -/

/-- Copies one entry of the template to its place in the staging tree. -/
def stageOne (fs : FileSystem) (template stage : Path) (v : Visited) :
    Except IoFault Unit × FileSystem :=
  match v.entry with
  | .directory => fs.createDirectories (stage.join v.name)
  | .file _ => fs.copyInto (v.path template) (stage.join v.name)

/-- Copies entries in order. -/
def stageEach (template stage : Path) :
    List Visited → FileSystem → Except Error Unit × FileSystem
  | [], fs => (.ok (), fs)
  | v :: rest, fs =>
    match stageOne fs template stage v with
    | (.error fault, fs') => (.error (.io fault), fs')
    | (.ok (), fs') => stageEach template stage rest fs'

/-- Copies what a walk through the template chooses. -/
def stageWalk (template stage : Path) (rules : IgnoreRules) (walk : List Listed) (fs : FileSystem) :
    Except Error Unit × FileSystem :=
  stageEach template stage (chosen rules none walk) fs

/-- Copies a template into the new directory `stage`. -/
def create (fs : FileSystem) (template stage : Path) (rules : IgnoreRules) :
    Except Error Unit × FileSystem :=
  match fs.createDirectory stage with
  | .error fault => (.error (.io fault), fs)
  | .ok fs' =>
    match fs'.walkRoot template with
    | .error fault => (.error (.walk template fault), fs')
    | .ok location =>
      stageWalk template stage rules ((fs'.collectAsListed location).map Listed.ofVisited) fs'

/-- Removes the staging tree, if it is still there. -/
def discard (fs : FileSystem) (stage : Path) : FileSystem :=
  match fs.removeTree stage with
  | .ok fs' => fs'
  | .error _ => fs

/-! ### The rules of a template -/

/-- The ignore rules of a template. An ignore file that cannot be read counts as missing. -/
def ignoreRules (fs : FileSystem) (template : Path) : Except Error IgnoreRules :=
  match IgnoreRules.ofContent (fs.readText (template.join IgnoreRules.fileName)).toOption with
  | .ok rules => .ok rules
  | .error fault => .error (.pattern fault)

end Scaffold.Staging
