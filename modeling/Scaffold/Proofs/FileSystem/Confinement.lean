import Scaffold.Proofs.FileSystem.Enclosure

/-! # Work in a directory of its own

  A staging tree is a new directory. While all work is done below it, the rest
  of the file system is as it was found, and erasing the tree undoes everything.

  - `Confined`: what has changed lies below the staging root.
  - `Confined.of_enclosed`: work below the staging root is confined.
  - `Confined.eraseTree_root`: without the staging tree all is as before.
-/

namespace Scaffold

namespace FileSystem

variable {fs₀ fs fs' : FileSystem} {l : Location} {stage : Path}

/-! ### Confinement -/

/-- The file system is as `fs₀`, but for a new directory at the reading of `stage` and what lies
below it. -/
structure Confined (fs₀ : FileSystem) (stage : Path) (fs : FileSystem) : Prop where
  /-- All began with a well-formed file system. -/
  before : fs₀.WellFormed
  /-- The path leads to the new directory once it is there. -/
  located : (fs₀.addDirectory (fs₀.reading stage)).locate stage = .ok (fs₀.reading stage)
  /-- The file system is well-formed. -/
  wellFormed : fs.WellFormed
  /-- The current directory has not moved. -/
  current : fs.current = fs₀.current
  /-- Outside of the new directory nothing has changed. -/
  outside : (fs.entries.filter fun e => !isBelow (fs₀.reading stage) e.1) =
    fs₀.entries ++ [(fs₀.reading stage, .directory)]

namespace Confined

theorem reading (h : Confined fs₀ stage fs) (p : Path) : fs.reading p = fs₀.reading p :=
  reading_congr h.current p

theorem mem_iff (h : Confined fs₀ stage fs) {e : Location × Entry} :
    e ∈ fs.entries ∧ isBelow (fs₀.reading stage) e.1 = false ↔
      e ∈ fs₀.entries ∨ e = (fs₀.reading stage, .directory) := by
  have hmem : e ∈ (fs.entries.filter fun e => !isBelow (fs₀.reading stage) e.1) ↔
      e ∈ fs₀.entries ++ [(fs₀.reading stage, Entry.directory)] := by rw [h.outside]
  rwa [List.mem_filter, List.mem_append, List.mem_singleton, Bool.not_eq_true'] at hmem

/-- The staging root is a directory below the root of the file system. -/
theorem get?_root (h : Confined fs₀ stage fs) :
    fs₀.reading stage ≠ [] ∧ fs.get? (fs₀.reading stage) = some .directory := by
  obtain ⟨hmem, -⟩ := h.mem_iff.2 (.inr rfl)
  exact ⟨h.wellFormed.below_root _ hmem, h.wellFormed.get?_of_mem hmem⟩

/-- At and below the staging root there was nothing before. -/
theorem not_prefix_of_mem (h : Confined fs₀ stage fs) {e : Location × Entry}
    (he : e ∈ fs₀.entries) : ¬ fs₀.reading stage <+: e.1 := by
  intro hpre
  obtain ⟨-, hbelow⟩ := h.mem_iff.2 (.inl he)
  by_cases heq : fs₀.reading stage = e.1
  · -- Then the location of the staging root would occur twice.
    have hsub : ((fs₀.entries ++ [(fs₀.reading stage, Entry.directory)]).map (·.1)).Nodup :=
      h.outside ▸ h.wellFormed.distinct.sublist (List.filter_sublist.map _)
    rw [List.map_append, List.nodup_append] at hsub
    exact hsub.2.2 e.1 (List.mem_map_of_mem he) _ (by simp) heq.symm
  · exact Bool.false_ne_true (hbelow.symm.trans (isBelow_iff.2 ⟨hpre, heq⟩))

theorem get?_before (h : Confined fs₀ stage fs) (hl : fs₀.reading stage <+: l) :
    fs₀.get? l = none := by
  have hne : l ≠ [] := by
    rintro rfl
    exact h.get?_root.1 (List.prefix_nil.1 hl)
  cases hget : fs₀.get? l with
  | none => rfl
  | some entry => exact absurd hl (h.not_prefix_of_mem (mem_entries_of_get? hne hget))

/-- Outside of the staging tree all is as before. -/
theorem get?_outside (h : Confined fs₀ stage fs) (hl : ¬ fs₀.reading stage <+: l) :
    fs.get? l = fs₀.get? l := by
  by_cases hne : l = []
  · rw [hne]
    rfl
  · have hbelow : isBelow (fs₀.reading stage) l = false := by
      rw [← Bool.not_eq_true, isBelow_iff]
      exact fun hb => hl hb.1
    have hself : l ≠ fs₀.reading stage := by
      rintro rfl
      exact hl (List.prefix_refl _)
    have hlookup := lookup_filter_key (fun k => !isBelow (fs₀.reading stage) k) l fs.entries
    rw [if_pos (by simp [hbelow]), h.outside, List.lookup_append, lookup_cons_of_ne hself]
      at hlookup
    rw [get?_of_ne_root hne, get?_of_ne_root hne, ← hlookup]
    simp

theorem isDirectoryAt_of_before (h : Confined fs₀ stage fs) (hl : fs₀.isDirectoryAt l) :
    fs.isDirectoryAt l := by
  rw [isDirectoryAt_iff] at hl ⊢
  rw [h.get?_outside, hl]
  intro hpre
  rw [h.get?_before hpre] at hl
  cases hl

/-- The path of the staging root leads to it. -/
theorem locate_stage (h : Confined fs₀ stage fs) : fs.locate stage = .ok (fs₀.reading stage) := by
  obtain ⟨hne, hroot⟩ := h.get?_root
  have hdirs : ∀ k, (fs₀.addDirectory (fs₀.reading stage)).isDirectoryAt k →
      fs.isDirectoryAt k := by
    intro k hk
    rw [isDirectoryAt_iff, get?_addDirectory hne (h.get?_before (List.prefix_refl _))] at hk
    split at hk
    · next heq => rw [heq, isDirectoryAt_iff, hroot]
    · exact h.isDirectoryAt_of_before (isDirectoryAt_iff.2 hk)
  have hcurrent : (fs₀.addDirectory (fs₀.reading stage)).current = fs.current := h.current.symm
  exact locate_of_directories hcurrent hdirs (fun _ => by rw [hroot]; rfl) h.located

theorem text_ne_empty (h : Confined fs₀ stage fs) : stage.text ≠ "" :=
  locate_text_ne_empty h.locate_stage

theorem current_outside (h : Confined fs₀ stage fs) : ¬ fs₀.reading stage <+: fs.current := by
  intro hpre
  rw [h.current] at hpre
  have hdir := isDirectoryAt_iff.1 h.before.current_directory
  rw [h.get?_before hpre] at hdir
  cases hdir

/-! ### Work below the staging root -/

/-- All that has happened since the new directory is there has happened below it. -/
theorem enclosed (h : Confined fs₀ stage fs) :
    Enclosed (fs₀.addDirectory (fs₀.reading stage)) stage fs := by
  have hreading : (fs₀.addDirectory (fs₀.reading stage)).reading stage = fs₀.reading stage :=
    reading_congr rfl stage
  refine {
    sound := h.wellFormed.sound
    directory := ?_
    apart := ?_
    current := fun _ => h.current
    outside := ?_ } <;> rw [hreading]
  · exact isDirectoryAt_iff.2 h.get?_root.2
  · show isBelow (fs₀.reading stage) (fs₀.origin stage) = false
    refine Bool.eq_false_iff.2 fun hbelow => ?_
    obtain ⟨hpre, -⟩ := isBelow_iff.1 hbelow
    unfold origin at hpre
    split at hpre
    · exact h.get?_root.1 (List.prefix_nil.1 hpre)
    · exact h.current_outside (h.current ▸ hpre)
  · rw [h.outside]
    refine (List.filter_eq_self.2 fun e he => ?_).symm
    rcases List.mem_append.1 he with hmem | hmem
    · rw [(h.mem_iff.2 (.inl hmem)).2]
      rfl
    · rw [(h.mem_iff.2 (.inr (List.mem_singleton.1 hmem))).2]
      rfl

/-- What happens below the new directory is confined. -/
theorem of_enclosed (h : Confined fs₀ stage fs)
    (hfs' : Enclosed (fs₀.addDirectory (fs₀.reading stage)) stage fs') :
    Confined fs₀ stage fs' := by
  have hreading : (fs₀.addDirectory (fs₀.reading stage)).reading stage = fs₀.reading stage :=
    reading_congr rfl stage
  have hapart : isBelow (fs₀.reading stage) fs₀.current = false := by
    refine Bool.eq_false_iff.2 fun hbelow => h.current_outside ?_
    exact h.current ▸ (isBelow_iff.1 hbelow).1
  have hcurrent : fs'.current = fs₀.current := hfs'.current (by rw [hreading]; exact hapart)
  have hget : fs'.get? fs₀.current = fs.get? fs₀.current := by
    rw [hfs'.get?_outside (by rw [hreading]; exact hapart),
      h.enclosed.get?_outside (by rw [hreading]; exact hapart)]
  exact {
    before := h.before
    located := h.located
    wellFormed := {
      distinct := hfs'.sound.distinct
      below_root := hfs'.sound.below_root
      in_directory := hfs'.sound.in_directory
      named := hfs'.sound.named
      current_directory := by
        rw [hcurrent, isDirectoryAt_iff, hget, ← h.current, ← isDirectoryAt_iff]
        exact h.wellFormed.current_directory }
    current := hcurrent
    outside := by
      have hsame := hfs'.outside.trans h.enclosed.outside.symm
      rw [hreading] at hsame
      rw [hsame, h.outside] }

/-- Without the staging tree all is as before. -/
theorem eraseTree_root (h : Confined fs₀ stage fs) : fs.eraseTree (fs₀.reading stage) = fs₀ := by
  -- The staging tree is what is below the root, and the root itself.
  have hkeep : ∀ e : Location × Entry, (!(fs₀.reading stage).isPrefixOf e.1 &&
      !isBelow (fs₀.reading stage) e.1) = !(fs₀.reading stage).isPrefixOf e.1 := by
    intro e
    cases hpre : (fs₀.reading stage).isPrefixOf e.1 <;> simp [isBelow, hpre]
  have hentries : (fs.eraseTree (fs₀.reading stage)).entries = fs₀.entries :=
    calc (fs.eraseTree (fs₀.reading stage)).entries
      _ = (fs.entries.filter fun e => !isBelow (fs₀.reading stage) e.1).filter fun e =>
            !(fs₀.reading stage).isPrefixOf e.1 := by
          unfold FileSystem.eraseTree
          rw [List.filter_filter]
          exact (List.filter_congr fun e _ => hkeep e).symm
      _ = fs₀.entries.filter fun e => !(fs₀.reading stage).isPrefixOf e.1 := by
          rw [h.outside, List.filter_append]
          simp
      _ = fs₀.entries := by
          refine List.filter_eq_self.2 fun e he => ?_
          simpa using isPrefixOf_eq_false.2 (h.not_prefix_of_mem he)
  have hcurrent : (fs.eraseTree (fs₀.reading stage)).current = fs₀.current := h.current
  calc fs.eraseTree (fs₀.reading stage)
    _ = ⟨(fs.eraseTree (fs₀.reading stage)).entries, (fs.eraseTree (fs₀.reading stage)).current⟩ :=
        rfl
    _ = fs₀ := by rw [hentries, hcurrent]

/-- A new directory confines everything that happens below it. -/
theorem of_createDirectory (hfs : fs.WellFormed) (h : fs.createDirectory stage = .ok fs') :
    Confined fs stage fs' := by
  obtain ⟨hslot, hnone, rfl⟩ := createDirectory_eq_ok h
  have hget : (fs.addDirectory (fs.reading stage)).get? (fs.reading stage) = some .directory := by
    rw [get?_addDirectory hslot.below_root hnone, if_pos rfl]
  refine {
    before := hfs
    located := ?_
    wellFormed := hfs.addDirectory hslot hnone
    current := rfl
    outside := ?_ }
  · obtain ⟨place, name, hplace, hname⟩ := place_of_createDirectory h
    have hcurrent : fs.current = (fs.addDirectory (fs.reading stage)).current := rfl
    exact locate_of_place hcurrent (fun k hk => isDirectoryAt_addDirectory hslot hnone hk) hplace
      hname (by rw [hget]; rfl) fun _ => isDirectoryAt_iff.2 hget
  · refine List.filter_eq_self.2 fun e he => ?_
    rw [Bool.not_eq_true', ← Bool.not_eq_true, isBelow_iff]
    rintro ⟨hpre, hne⟩
    rcases List.mem_append.1 he with hmem | hmem
    · -- Before the directory was made, nothing was below its place.
      have hempty := hfs.get?_of_free hnone hpre
      rw [hfs.get?_of_mem hmem] at hempty
      cases hempty
    · rw [List.mem_singleton.1 hmem] at hne
      exact hne rfl

/-- Nothing is in a new directory. -/
theorem get?_below_created (hfs : fs.WellFormed) (h : fs.createDirectory stage = .ok fs')
    {q : Location} (hq : q ≠ []) : fs'.get? (fs.reading stage ++ q) = none := by
  obtain ⟨hslot, hnone, rfl⟩ := createDirectory_eq_ok h
  rw [get?_addDirectory hslot.below_root hnone, if_neg (by simpa using hq)]
  exact hfs.get?_of_free hnone (List.prefix_append _ q)

end Confined

end FileSystem

end Scaffold
