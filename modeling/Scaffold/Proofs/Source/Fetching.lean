import Scaffold.Proofs.FileSystem.Confinement
import Scaffold.Source.TemplateSource

/-! # Fetched templates

  A repository is fetched into a directory that was not there before, and that
  has all of it. Nothing else changes when a template is loaded.

  - `WellFormed.plant`: a tree that is planted in an empty directory.
  - `Confined.plant`: a new directory and what is planted in it.
  - `TemplateSource.load_cases`: what is loaded.
  - `LoadedTemplate.IsBeside`: all that was there is still there.
-/

namespace Scaffold

namespace FileSystem

variable {fs made tree : FileSystem} {l m : Location} {entry : Entry} {stage : Path}

/-! ### Planted trees -/

/-- What was there stays. -/
theorem get?_plant (h : fs.get? m = some entry) : (fs.plant l tree).get? m = some entry := by
  by_cases hm : m = []
  · rw [hm] at h ⊢
    exact h
  · rw [get?_of_ne_root hm] at h ⊢
    unfold plant
    rw [List.lookup_append, h]
    rfl

theorem isDirectoryAt_plant (h : fs.isDirectoryAt m) : (fs.plant l tree).isDirectoryAt m :=
  isDirectoryAt_iff.2 (get?_plant (isDirectoryAt_iff.1 h))

theorem mem_plant {e : Location × Entry} : e ∈ (fs.plant l tree).entries ↔
    e ∈ fs.entries ∨ ∃ e' ∈ tree.entries, (l ++ e'.1, e'.2) = e := by
  unfold plant
  rw [List.mem_append, List.mem_map]

/-- A tree of names that is planted in an empty directory gives a tree of names. -/
theorem WellFormed.plant (hfs : fs.WellFormed) (htree : tree.WellFormed)
    (hdir : fs.isDirectoryAt l) (hempty : ∀ q, q ≠ [] → fs.get? (l ++ q) = none) :
    (fs.plant l tree).WellFormed := by
  have hdistinct : ((fs.plant l tree).entries.map (·.1)).Nodup := by
    have hplanted : ((tree.entries.map fun e => (rebase [] l e.1, e.2)).map (·.1)).Nodup :=
      nodup_rebase (fun _ _ => List.nil_prefix) htree.distinct
    unfold FileSystem.plant
    rw [List.map_append, List.nodup_append]
    refine ⟨hfs.distinct, hplanted, ?_⟩
    rintro k hk k' hk' rfl
    obtain ⟨e, he, rfl⟩ := List.mem_map.1 hk
    obtain ⟨_, hmoved, hkey⟩ := List.mem_map.1 hk'
    obtain ⟨e', he', rfl⟩ := List.mem_map.1 hmoved
    -- What is planted lies below the directory, and there nothing was.
    have hget := hfs.get?_of_mem he
    rw [← hkey, hempty _ (htree.below_root e' he')] at hget
    cases hget
  refine ⟨hdistinct, fun e he => ?_, fun e he => ?_, fun e he => ?_, isDirectoryAt_plant
    hfs.current_directory⟩
  · rcases mem_plant.1 he with he | ⟨e', he', rfl⟩
    · exact hfs.below_root e he
    · simp [htree.below_root e' he']
  · rcases mem_plant.1 he with he | ⟨e', he', rfl⟩
    · exact isDirectoryAt_plant (hfs.in_directory e he)
    · dsimp only
      rw [List.dropLast_append_of_ne_nil (htree.below_root e' he')]
      by_cases hroot : e'.1.dropLast = []
      · rw [hroot, List.append_nil]
        exact isDirectoryAt_plant hdir
      · have hget := isDirectoryAt_iff.1 (htree.in_directory e' he')
        have hmem : (l ++ e'.1.dropLast, Entry.directory) ∈ (fs.plant l tree).entries :=
          mem_plant.2 (.inr ⟨_, mem_entries_of_get? hroot hget, rfl⟩)
        rw [isDirectoryAt_iff, get?_of_ne_root (by simp [hroot])]
        exact lookup_of_mem hdistinct hmem
  · rcases mem_plant.1 he with he | ⟨e', he', rfl⟩
    · exact hfs.named e he
    · intro name hname
      rcases List.mem_append.1 hname with hname | hname
      · exact hfs.isName_of_mem (Option.isSome_of_any hdir) hname
      · exact htree.named e' he' name hname

/-- A tree is planted in a new directory, and all else is as before. -/
theorem Confined.plant (hfs : fs.WellFormed) (h : fs.createDirectory stage = .ok made)
    (htree : tree.WellFormed) : Confined fs stage (made.plant (fs.reading stage) tree) := by
  have hmade : Confined fs stage made := .of_createDirectory hfs h
  have hempty : ∀ q, q ≠ [] → made.get? (fs.reading stage ++ q) = none :=
    fun _ hq => Confined.get?_below_created hfs h hq
  refine { hmade with
    wellFormed := hmade.wellFormed.plant htree (isDirectoryAt_iff.2 hmade.get?_root.2) hempty
    current := hmade.current
    outside := ?_ }
  unfold FileSystem.plant
  rw [List.filter_append, hmade.outside, List.filter_eq_nil_iff.2, List.append_nil]
  intro e he
  obtain ⟨e', he', rfl⟩ := List.mem_map.1 he
  have hbelow : isBelow (fs.reading stage) (fs.reading stage ++ e'.1) = true :=
    isBelow_iff.2 ⟨List.prefix_append _ _, by simpa using htree.below_root e' he'⟩
  simp [hbelow]

end FileSystem

namespace TemplateSource

open FileSystem (Confined)

variable {fs : FileSystem} {checkout : Path} {clone : String → Except String FileSystem}
  {source : TemplateSource} {t : LoadedTemplate}

/-- A directory is loaded by leaving all as it is, and a repository by fetching it into a new
directory. -/
theorem load_cases (hfs : fs.WellFormed)
    (hclone : ∀ address tree, clone address = .ok tree → tree.WellFormed)
    (h : load fs checkout clone source = .ok t) :
    (t.checkout = none ∧ t.fs = fs) ∨ (t.checkout = some checkout ∧ Confined fs checkout t.fs) := by
  cases source with
  | directory path =>
    rw [load, loadDirectory] at h
    split at h
    · obtain rfl := Except.ok.inj h
      exact .inl ⟨rfl, rfl⟩
    · cases h
  | repository address =>
    rw [load, loadRepository] at h
    cases hmade : fs.createDirectory checkout with
    | error fault => rw [hmade] at h; cases h
    | ok made =>
      have hnew : Confined fs checkout made := .of_createDirectory hfs hmade
      have hplace : made.locate checkout = .ok (fs.reading checkout) := hnew.locate_stage
      rw [hmade] at h
      simp only [hplace, bind, Except.bind, Except.mapError] at h
      cases htree : clone address with
      | error reason => rw [htree] at h; cases h
      | ok tree =>
        rw [htree] at h
        obtain rfl := Except.ok.inj h
        exact .inr ⟨rfl, .plant hfs hmade (hclone address tree htree)⟩

end TemplateSource

namespace LoadedTemplate

variable {fs : FileSystem} {t : LoadedTemplate} {path : Path}

/-- A template is there, beside all that was there before. -/
structure IsBeside (t : LoadedTemplate) (fs : FileSystem) : Prop where
  /-- All files make up a file system. -/
  wellFormed : t.fs.WellFormed
  /-- The current directory is the same. -/
  current : t.fs.current = fs.current
  /-- What was there is as it was. -/
  kept : ∀ l entry, fs.get? l = some entry → t.fs.get? l = some entry

/-- A loaded template is beside all that was there. -/
theorem isBeside_of_cases (hfs : fs.WellFormed)
    (h : (t.checkout = none ∧ t.fs = fs) ∨
      (t.checkout = some path ∧ FileSystem.Confined fs path t.fs)) : t.IsBeside fs := by
  rcases h with ⟨-, hsame⟩ | ⟨-, hconfined⟩
  · rw [← hsame] at hfs ⊢
    exact ⟨hfs, rfl, fun _ _ hget => hget⟩
  · refine ⟨hconfined.wellFormed, hconfined.current, fun l entry hget => ?_⟩
    rw [hconfined.get?_outside, hget]
    intro hpre
    rw [hconfined.get?_before hpre] at hget
    cases hget

namespace IsBeside

variable {l m : Location} {content : ByteArray} (h : t.IsBeside fs)

include h

theorem reading (p : Path) : t.fs.reading p = fs.reading p := FileSystem.reading_congr h.current p

theorem contentAt (hl : fs.contentAt l = some content) : t.fs.contentAt l = some content :=
  FileSystem.contentAt_eq_some.2 (h.kept l _ (FileSystem.contentAt_eq_some.1 hl))

/-- What is a directory above a file that was there was one before. -/
theorem isDirectoryAt_above (hfs : fs.WellFormed) (hl : fs.contentAt l = some content)
    (hm : t.fs.isDirectoryAt m) (hpre : m <+: l) : fs.isDirectoryAt m := by
  have hfile := FileSystem.contentAt_eq_some.1 hl
  refine hfs.isDirectoryAt_of_prefix (Option.isSome_of_mem hfile) hpre ?_
  rintro rfl
  rw [FileSystem.isDirectoryAt_iff, h.kept m _ hfile] at hm
  cases hm

end IsBeside

end LoadedTemplate

end Scaffold
