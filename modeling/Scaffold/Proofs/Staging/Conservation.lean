import Scaffold.Proofs.FileSystem.Effects
import Scaffold.Staging.Move
import Scaffold.Staging.Rename

/-! # Moving and renaming keep all content

  Calls that move or rename entries, in any order and with any texts as paths,
  neither destroy nor duplicate the content of a file, and no directory goes
  away. What protects the files is that nothing is at the target of a rename:
  then the rename replaces nothing.

  - `Relocation`, `relocateAll`: calls, and what a sequence of them comes to.
  - `Conserves`: the relation between file systems that every call keeps.
-/

namespace Scaffold

/-! ### What is conserved -/

namespace FileSystem

/-- Afterwards there are the same contents of files, and no fewer directories. -/
structure Conserves (fs fs' : FileSystem) : Prop where
  /-- The contents are the same, each as often as before. -/
  contents : fs'.contents.Perm fs.contents
  /-- The number of directories does not decrease. -/
  directories : fs.directories.length ≤ fs'.directories.length

namespace Conserves

variable {fs fs' fs'' : FileSystem}

theorem refl (fs : FileSystem) : Conserves fs fs := ⟨.refl _, Nat.le_refl _⟩

theorem trans (h : Conserves fs fs') (h' : Conserves fs' fs'') : Conserves fs fs'' :=
  ⟨h'.contents.trans h.contents, Nat.le_trans h.directories h'.directories⟩

/-- A new directory adds no content. -/
theorem addDirectory (fs : FileSystem) (l : Location) : Conserves fs (fs.addDirectory l) where
  contents := by
    unfold FileSystem.contents FileSystem.addDirectory
    rw [List.filterMap_append]
    show (_ ++ []).Perm _
    rw [List.append_nil]
  directories := by
    unfold FileSystem.directories FileSystem.addDirectory
    rw [List.filter_append, List.map_append, List.length_append]
    exact Nat.le_add_right _ _

/-- A tree that moves takes its entries along, whatever their locations are. -/
theorem moveTree (fs : FileSystem) (source target : Location) :
    Conserves fs (fs.moveTree source target) := by
  -- The entries that stay and the entries that move make up all entries.
  have hall := List.filter_append_perm (fun e : Location × Entry => !source.isPrefixOf e.1)
    fs.entries
  simp only [Bool.not_not] at hall
  constructor
  · unfold FileSystem.contents FileSystem.moveTree
    rw [List.filterMap_append, List.filterMap_map]
    exact List.filterMap_append .. ▸ hall.filterMap (·.2.content?)
  · unfold FileSystem.directories FileSystem.moveTree
    rw [List.length_map, List.length_map, List.filter_append, List.filter_map, List.length_append,
      List.length_map]
    have hlength := (hall.filter (·.2.isDirectory)).length_eq
    rw [List.filter_append, List.length_append] at hlength
    exact Nat.le_of_eq hlength.symm

/-- Making directories adds no content. -/
theorem createDirectories (fs : FileSystem) (p : Path) :
    Conserves fs (fs.createDirectories p).2 := by
  refine createChain_induct (P := Conserves fs) (fun fs₁ fs₂ q _ h hmade => ?_) (refl fs)
  obtain ⟨-, -, rfl⟩ := createDirectory_eq_ok hmade
  exact h.trans (addDirectory fs₁ _)

/-- A rename to a path where nothing is keeps all content. -/
theorem rename {source target : Path} (h : fs.rename source target = .ok fs')
    (habsent : fs.isPresent target = false) : Conserves fs fs' := by
  obtain ⟨-, -, -, -, -, rfl⟩ := rename_to_absent h habsent
  exact moveTree fs _ _

end Conserves

end FileSystem

namespace Staging

open FileSystem (Conserves)

/-! ### Single calls -/

/-- However far the files of a call are moved, all content is kept. -/
theorem moveEach_conserves (destination : Path) (files : List Path) (fs : FileSystem) :
    Conserves fs (moveEach destination files fs).2 := by
  induction files generalizing fs with
  | nil => exact .refl fs
  | cons file rest ih =>
    unfold moveEach
    split
    · exact ih fs
    · split
      · exact .refl fs
      · next habsent =>
        split
        · exact .refl fs
        · next fs' hrename =>
          have hstep : Conserves fs fs' := .rename hrename (by simpa using habsent)
          have hrest := ih fs'
          split
          · next hr => rw [hr] at hrest; exact hstep.trans hrest
          · next hr => rw [hr] at hrest; exact hstep.trans hrest

theorem openDestination_conserves (fs : FileSystem) (destination : Path) :
    Conserves fs (openDestination fs destination).2 := by
  have hmade := Conserves.createDirectories fs destination
  unfold openDestination
  split
  · split <;> exact .refl fs
  · split
    · next hr => rw [hr] at hmade; exact hmade
    · next hr => rw [hr] at hmade; exact hmade

theorem moveFiles_conserves (fs : FileSystem) (root : Path) (source target : String) :
    Conserves fs (moveFiles fs root source target).2 := by
  unfold moveFiles
  split
  · exact .refl fs
  · split
    · exact .refl fs
    · next found _ =>
      have hopened := openDestination_conserves fs (root.join target)
      split
      · next hr => rw [hr] at hopened; exact hopened
      · next hr => rw [hr] at hopened; exact hopened.trans (moveEach_conserves _ _ _)

theorem renameFile_conserves (fs : FileSystem) (root : Path) (file newName : String) :
    Conserves fs (renameFile fs root file newName).2 := by
  unfold renameFile
  simp only
  split
  · exact .refl fs
  · split
    · exact .refl fs
    · split
      · exact .refl fs
      · split
        · exact .refl fs
        · next habsent =>
          split
          · exact .refl fs
          · next hrename => exact .rename hrename (by simpa using habsent)

/-! ### Sequences of calls -/

/-- A call that gives entries other places. -/
inductive Relocation where
  /-- Moves the files that match a wildcard into a directory. -/
  | move (source target : String)
  /-- Gives an entry another name. -/
  | rename (file newName : String)

/-- Makes a call; the answer tells whether it succeeded. -/
def Relocation.perform (root : Path) (fs : FileSystem) : Relocation → Bool × FileSystem
  | .move source target =>
    ((moveFiles fs root source target).1.isOk, (moveFiles fs root source target).2)
  | .rename file newName =>
    ((renameFile fs root file newName).1.isOk, (renameFile fs root file newName).2)

/-- Makes calls in order. Each one comes with the decision whether to go on if it fails. -/
def relocateAll (root : Path) : List (Relocation × Bool) → FileSystem → FileSystem
  | [], fs => fs
  | (call, goesOn) :: rest, fs =>
    if (call.perform root fs).1 || goesOn then relocateAll root rest (call.perform root fs).2
    else (call.perform root fs).2

theorem Relocation.perform_conserves (root : Path) (fs : FileSystem) (call : Relocation) :
    Conserves fs (call.perform root fs).2 := by
  cases call with
  | move source target => exact moveFiles_conserves fs root source target
  | rename file newName => exact renameFile_conserves fs root file newName

theorem relocateAll_conserves (root : Path) (calls : List (Relocation × Bool)) (fs : FileSystem) :
    Conserves fs (relocateAll root calls fs) := by
  induction calls generalizing fs with
  | nil => exact .refl fs
  | cons call rest ih =>
    have hcall := call.1.perform_conserves root fs
    unfold relocateAll
    split
    · exact hcall.trans (ih _)
    · exact hcall

/-- Whatever is moved and renamed, with whatever texts, and whichever calls fail: every content is
there as often as before, in the whole file system, and no directory has been lost. -/
theorem contents_relocateAll (root : Path) (calls : List (Relocation × Bool)) (fs : FileSystem) :
    (relocateAll root calls fs).contents.Perm fs.contents ∧
      fs.directories.length ≤ (relocateAll root calls fs).directories.length := by
  have h := relocateAll_conserves root calls fs
  exact ⟨h.contents, h.directories⟩

end Staging

end Scaffold
