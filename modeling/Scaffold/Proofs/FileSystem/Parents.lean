import Scaffold.Proofs.FileSystem.Preservation

/-! # New directories

  What is made on the way to a path that never leads up lies on that way.

  - `reading_of_plain`: where such a path leads.
  - `mem_ancestors`: the paths of the directories above it.
  - `isDirectoryAt_createDirectories`, `isDirectoryAt_createParents`: no other
    directories are new.
  - `isDirectory_of_createDirectories`, `contentAt_createDirectories`: what has been
    made is there, and no file is new, on any path.
-/

namespace Scaffold.FileSystem

open Scaffold.Path (IsPlain)

variable {fs fs' : FileSystem} {p q : Path} {l : Location} {chain : List Path}

/-! ### Paths that never lead up -/

/-- A path without `..` has plain steps. -/
theorem isPlain_of_mem_steps (hup : ".." ∉ p.steps) {name : String} (h : name ∈ p.steps) :
    IsPlain name := by
  refine ⟨by simpa using (List.mem_filter.1 h).2, ?_⟩
  rintro rfl
  exact hup h

/-- A path without `..` leads down from where it begins. -/
theorem reading_of_plain (hup : ".." ∉ p.steps) : fs.reading p = fs.origin p ++ p.steps := by
  rw [reading_eq_steps]
  exact readNames_plain (fun _ => isPlain_of_mem_steps hup) _

/-! ### Directories on the way -/

/-- The ancestors of a path begin like the path and have fewer steps. -/
theorem mem_ancestors {fuel : Nat} (h : q ∈ ancestors p fuel) :
    q.steps <+: p.steps ∧ q.isAbsolute = p.isAbsolute := by
  induction fuel generalizing p with
  | zero => cases h
  | succ fuel ih =>
    unfold ancestors at h
    split at h
    · cases h
    · next parent hparent =>
      split at h
      · cases h
      · rcases List.mem_cons.1 h with rfl | hmem
        · exact ⟨List.prefix_refl _, rfl⟩
        · obtain ⟨hsteps, habs⟩ := ih hmem
          obtain ⟨hparentSteps, hparentAbs⟩ := Path.steps_parent? hparent
          refine ⟨?_, habs.trans hparentAbs⟩
          rw [hparentSteps] at hsteps
          exact hsteps.trans (List.dropLast_prefix _)

/-- Only directories on the way to the path are new. -/
theorem isDirectoryAt_createDirectories (hup : ".." ∉ p.steps)
    (h : (fs.createDirectories p).2.isDirectoryAt l) :
    fs.isDirectoryAt l ∨ l <+: fs.reading p := by
  have hinvariant : (fs.createDirectories p).2.current = fs.current ∧
      ∀ l, (fs.createDirectories p).2.isDirectoryAt l →
        fs.isDirectoryAt l ∨ l <+: fs.reading p := by
    refine createChain_induct
      (P := fun made => made.current = fs.current ∧
        ∀ l, made.isDirectoryAt l → fs.isDirectoryAt l ∨ l <+: fs.reading p)
      (fun made made' q hq hmade hone => ?_) ⟨rfl, fun _ => .inl⟩
    obtain ⟨hcurrent, hbefore⟩ := hmade
    obtain ⟨hslot, hnone, rfl⟩ := createDirectory_eq_ok hone
    refine ⟨hcurrent, fun l hl => ?_⟩
    rw [isDirectoryAt_iff, get?_addDirectory hslot.below_root hnone] at hl
    split at hl
    · next hself =>
      obtain ⟨hsteps, habs⟩ := mem_ancestors hq
      have hqup : ".." ∉ q.steps := fun hmem => hup (hsteps.subset hmem)
      rw [hself, reading_congr hcurrent, reading_of_plain hqup, reading_of_plain hup,
        origin_eq rfl habs]
      exact .inr ((List.prefix_append_right_inj _).2 hsteps)
    · exact hbefore l (isDirectoryAt_iff.2 hl)
  exact hinvariant.2 l h

/-- Only directories above the path are new when those above it are made. -/
theorem isDirectoryAt_createParents (hup : ".." ∉ p.steps) (hne : p.steps ≠ [])
    (h : (fs.createParents p).2.isDirectoryAt l) :
    fs.isDirectoryAt l ∨ l <+: (fs.reading p).dropLast := by
  unfold createParents at h
  split at h
  · next parent hparent =>
    obtain ⟨hsteps, habs⟩ := Path.steps_parent? hparent
    have hparentUp : ".." ∉ parent.steps := fun hmem => by
      rw [hsteps] at hmem
      exact hup (List.dropLast_subset _ hmem)
    have habove : fs.reading parent = (fs.reading p).dropLast := by
      rw [reading_of_plain hparentUp, reading_of_plain hup, hsteps, origin_eq rfl habs,
        List.dropLast_append_of_ne_nil hne]
    rw [← habove]
    exact isDirectoryAt_createDirectories hparentUp h
  · exact .inl h

/-! ### Directories that are made -/

/-- A directory that has been made is found at its path, also if slashes end it. -/
theorem isDirectory_of_createDirectory (h : fs.createDirectory p = .ok fs') :
    fs'.isDirectory p = true := by
  obtain ⟨place, name, hplace, hname⟩ := place_of_createDirectory h
  obtain ⟨hslot, hnone, rfl⟩ := createDirectory_eq_ok h
  have hthere : (fs.addDirectory (fs.reading p)).isDirectoryAt (fs.reading p) := by
    rw [isDirectoryAt_iff, get?_addDirectory hslot.below_root hnone, if_pos rfl]
  have hlocate := locate_of_place (by rfl) (fun k hk => isDirectoryAt_addDirectory hslot hnone hk)
    hplace hname (Option.isSome_of_any hthere) fun _ => hthere
  exact isDirectory_iff.2 ⟨hlocate, hthere⟩

/-- When a chain of directories has been made, the first of them is there. -/
theorem isDirectory_of_createChain (h : fs.createChain (p :: chain) = (.ok (), fs')) :
    fs'.isDirectory p = true := by
  unfold createChain at h
  split at h
  · next made hmade =>
    obtain rfl := (Prod.mk.inj h).2
    exact isDirectory_of_createDirectory hmade
  · split at h
    · cases h
    · next above habove =>
      split at h
      · next made hmade =>
        obtain rfl := (Prod.mk.inj h).2
        exact isDirectory_of_createDirectory hmade
      · split at h
        · next hthere =>
          obtain rfl := (Prod.mk.inj h).2
          exact hthere.2
        · cases h
  · split at h
    · next hthere =>
      obtain rfl := (Prod.mk.inj h).2
      exact hthere.2
    · cases h

/-- The ancestors of a path with steps begin with the path. -/
theorem ancestors_succ (h : p.parent? = some q) (hne : p.steps ≠ []) (fuel : Nat) :
    ancestors p (fuel + 1) = p :: ancestors q fuel := by
  have hcomponents : p.components ≠ [] := by
    rw [Path.components_eq]
    intro hnil
    exact hne (List.map_eq_nil_iff.1 (List.append_eq_nil_iff.1 hnil).2)
  rw [ancestors, h]
  exact if_neg hcomponents

/-- When the directories of a path with steps have been made, a directory is found at the path. -/
theorem isDirectory_of_createDirectories (hsteps : p.steps ≠ [])
    (h : fs.createDirectories p = (.ok (), fs')) : fs'.isDirectory p = true := by
  obtain ⟨parent, hparent⟩ := Option.isSome_iff_exists.1 (Path.parent?_isSome hsteps)
  unfold createDirectories directoryChain at h
  rw [ancestors_succ hparent hsteps] at h
  exact isDirectory_of_createChain h

/-- Making directories adds and changes no file. -/
theorem contentAt_createDirectories (fs : FileSystem) (p : Path) (l : Location) :
    (fs.createDirectories p).2.contentAt l = fs.contentAt l := by
  refine createChain_induct (P := fun fs' => fs'.contentAt l = fs.contentAt l)
    (fun fs₁ fs₂ q _ h hmade => ?_) rfl
  obtain ⟨hslot, hnone, rfl⟩ := createDirectory_eq_ok hmade
  rw [← h]
  unfold contentAt
  rw [get?_addDirectory hslot.below_root hnone]
  split
  · next hl => rw [hl, hnone]; rfl
  · rfl

/-- Making directories leaves those that are there, and the current one. -/
theorem directories_createDirectories (fs : FileSystem) (p : Path) :
    (fs.createDirectories p).2.current = fs.current ∧
      ∀ k, fs.isDirectoryAt k → (fs.createDirectories p).2.isDirectoryAt k := by
  refine createChain_induct
    (P := fun fs' => fs'.current = fs.current ∧ ∀ k, fs.isDirectoryAt k → fs'.isDirectoryAt k)
    (fun fs₁ fs₂ q _ h hmade => ?_) ⟨rfl, fun _ hk => hk⟩
  obtain ⟨hslot, hnone, rfl⟩ := createDirectory_eq_ok hmade
  exact ⟨h.1, fun k hk => isDirectoryAt_addDirectory hslot hnone (h.2 k hk)⟩

end Scaffold.FileSystem
