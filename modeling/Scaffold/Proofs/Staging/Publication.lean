import Scaffold.Proofs.FileSystem.Preservation
import Scaffold.Proofs.FileSystem.Visiting
import Scaffold.Staging.Publication

/-! # What publication changes

  Publication adds directories and writes files. A file that it does not write
  keeps its content, and all it writes lies where the staged files have their
  names below the destination.

  - `Extends`: nothing is lost but the content of certain files.
  - `publish_extends`: what a publication changes, complete or not.
-/

namespace Scaffold

namespace FileSystem

variable {fs fs' fs'' : FileSystem} {l : Location} {changed changed' : Location → Prop}

/-! ### Extensions of a file system -/

/-- From `fs` to `fs'` all directories stay, and all files that are not `changed`. -/
structure Extends (changed : Location → Prop) (fs fs' : FileSystem) : Prop where
  /-- The file system stays well-formed. -/
  wellFormed : fs.WellFormed → fs'.WellFormed
  /-- The current directory is the same. -/
  current : fs'.current = fs.current
  /-- Directories stay. -/
  directories : ∀ l, fs.isDirectoryAt l → fs'.isDirectoryAt l
  /-- Other files keep their content, and no others are new. -/
  contents : ∀ l, ¬ changed l → fs'.contentAt l = fs.contentAt l

namespace Extends

theorem refl (changed : Location → Prop) (fs : FileSystem) : Extends changed fs fs :=
  ⟨id, rfl, fun _ => id, fun _ _ => rfl⟩

theorem trans (h : Extends changed fs fs') (h' : Extends changed fs' fs'') :
    Extends changed fs fs'' where
  wellFormed := fun hfs => h'.wellFormed (h.wellFormed hfs)
  current := h'.current.trans h.current
  directories := fun l hl => h'.directories l (h.directories l hl)
  contents := fun l hl => (h'.contents l hl).trans (h.contents l hl)

theorem mono (h : Extends changed fs fs') (hle : ∀ l, changed l → changed' l) :
    Extends changed' fs fs' :=
  { h with contents := fun l hl => h.contents l fun hc => hl (hle l hc) }

theorem createDirectory {p : Path} (h : fs.createDirectory p = .ok fs') :
    Extends changed fs fs' := by
  obtain ⟨hslot, hnone, rfl⟩ := createDirectory_eq_ok h
  refine {
    wellFormed := fun hfs => hfs.addDirectory hslot hnone
    current := rfl
    directories := fun _ hl => isDirectoryAt_addDirectory hslot hnone hl
    contents := fun l _ => ?_ }
  unfold contentAt
  rw [get?_addDirectory hslot.below_root hnone]
  split
  · next hl => rw [hl, hnone]; rfl
  · rfl

theorem createDirectories (changed : Location → Prop) (fs : FileSystem) (p : Path) :
    Extends changed fs (fs.createDirectories p).2 :=
  createChain_induct (fun _ _ _ _ h hmade => h.trans (createDirectory hmade)) (refl changed fs)

theorem createParents (changed : Location → Prop) (fs : FileSystem) (p : Path) :
    Extends changed fs (fs.createParents p).2 := by
  unfold FileSystem.createParents
  split
  · exact createDirectories changed fs _
  · exact refl changed fs

theorem copyFile {source target : Path} (h : fs.copyFile source target = .ok fs') :
    Extends (· = fs.reading target) fs fs' := by
  obtain ⟨hslot, hfree, content, rfl, -⟩ := copyFile_eq_ok h
  refine {
    wellFormed := fun hfs => hfs.setFile hslot hfree
    current := rfl
    directories := fun _ hl => isDirectoryAt_setFile hslot hfree hl
    contents := fun l hl => ?_ }
  unfold contentAt
  rw [get?_setFile hslot.below_root, if_neg hl]

/-- A copy with the directories above it changes the file at its target at most. -/
theorem copyInto (fs : FileSystem) (source target : Path) :
    Extends (· = fs.reading target) fs (fs.copyInto source target).2 := by
  have hmade := createParents (· = fs.reading target) fs target
  unfold FileSystem.copyInto
  split
  · next hr => rw [hr] at hmade; exact hmade
  · next fs' hr =>
    rw [hr] at hmade
    split
    · exact hmade
    · next hcopy =>
      rw [← reading_congr hmade.current] at hmade ⊢
      exact hmade.trans (copyFile hcopy)

end Extends

section

variable {source target : Path}

/-- A copy that fails has made directories at most. -/
theorem copyInto_eq_error {fault : IoFault} (h : fs.copyInto source target = (.error fault, fs')) :
    fs' = (fs.createParents target).2 := by
  unfold copyInto at h
  split at h
  · next made hr =>
    rw [hr]
    exact (Prod.mk.inj h).2.symm
  · next made hr =>
    rw [hr]
    split at h
    · exact (Prod.mk.inj h).2.symm
    · cases h

/-- A copy that succeeds has put a file in a slot that was no directory, behind the directories that
were missing. -/
theorem copyInto_eq_ok (h : fs.copyInto source target = (.ok (), fs')) :
    ∃ content, (fs.createParents target).2.IsSlot (fs.reading target) ∧
      ¬ (fs.createParents target).2.isDirectoryAt (fs.reading target) ∧
      fs' = (fs.createParents target).2.setFile (fs.reading target) content ∧
      (fs.reading source ≠ fs.reading target →
        fs.contentAt (fs.reading source) = some content) := by
  have hmade := Extends.createParents (fun _ => False) fs target
  unfold copyInto at h
  split at h
  · cases h
  · next made hr =>
    rw [hr] at hmade ⊢
    split at h
    · cases h
    · next final hcopy =>
      obtain rfl := (Prod.mk.inj h).2
      obtain ⟨hslot, hfree, content, rfl, hsource⟩ := copyFile_eq_ok hcopy
      rw [reading_congr hmade.current] at hslot hfree
      rw [reading_congr hmade.current, reading_congr hmade.current] at hsource
      refine ⟨content, hslot, hfree, ?_, fun hne => ?_⟩
      · rw [reading_congr hmade.current]
      · -- The source was not touched while the directories were made.
        rw [← hmade.contents _ (fun hf => hf)]
        exact contentAt_eq_some.2 (hsource hne)

/-- A complete copy has the bytes of its source, unless they are the same file. -/
theorem contentAt_copyInto (hne : fs.reading source ≠ fs.reading target)
    (h : fs.copyInto source target = (.ok (), fs')) :
    fs'.contentAt (fs.reading target) = fs.contentAt (fs.reading source) := by
  obtain ⟨content, hslot, -, rfl, hsource⟩ := copyInto_eq_ok h
  rw [hsource hne, contentAt_eq_some, get?_setFile hslot.below_root, if_pos rfl]

end

end FileSystem

namespace Staging

open FileSystem (Extends Visited)

variable {fs fs' : FileSystem} {root destination : Path}

/-! ### Publication -/

/-- However many files are published, only their targets change. -/
theorem publishEach_extends (root destination : Path) (vs : List Visited) (fs : FileSystem) :
    Extends (fun l => ∃ v ∈ vs, fs.reading (destination.join v.name) = l) fs
      (publishEach root destination vs fs).2 := by
  induction vs generalizing fs with
  | nil => exact .refl _ fs
  | cons v rest ih =>
    have hone := Extends.copyInto fs (v.path root) (destination.join v.name)
    have hhere : Extends (fun l => ∃ w ∈ v :: rest, fs.reading (destination.join w.name) = l) fs
        (fs.copyInto (v.path root) (destination.join v.name)).2 :=
      hone.mono fun l hl => ⟨v, List.mem_cons_self, hl.symm⟩
    unfold publishEach
    split
    · next hr => rw [hr] at hhere; exact hhere
    · next fs' hr =>
      rw [hr] at hhere
      have hrest : Extends (fun l => ∃ w ∈ v :: rest, fs.reading (destination.join w.name) = l) fs'
          (publishEach root destination rest fs').2 := by
        refine (ih fs').mono ?_
        rintro l ⟨w, hw, hl⟩
        rw [FileSystem.reading_congr hhere.current] at hl
        exact ⟨w, List.mem_cons_of_mem v hw, hl⟩
      split
      · next hr => rw [hr] at hrest; exact hhere.trans hrest
      · next hr => rw [hr] at hrest; exact hhere.trans hrest

/-- A complete publication returns all targets. -/
theorem publishEach_eq_ok {vs : List Visited} {written : List Path}
    (h : publishEach root destination vs fs = (.ok written, fs')) :
    written = vs.map fun v => destination.join v.name := by
  induction vs generalizing fs written with
  | nil =>
    obtain ⟨hwritten, -⟩ := Prod.mk.inj h
    exact (Except.ok.inj hwritten).symm
  | cons v rest ih =>
    unfold publishEach at h
    split at h
    · cases h
    · split at h
      · cases h
      · next paths final hr =>
        obtain ⟨hwritten, rfl⟩ := Prod.mk.inj h
        obtain rfl := Except.ok.inj hwritten
        rw [ih hr]
        rfl

/-- A publication stops only because a file cannot be copied. -/
theorem publishEach_eq_error {vs : List Visited} {e : Error}
    (h : publishEach root destination vs fs = (.error e, fs')) :
    ∃ path fault, e = .copy path fault := by
  induction vs generalizing fs with
  | nil => cases h
  | cons v rest ih =>
    unfold publishEach at h
    split at h
    · next fault _ _ =>
      obtain ⟨he, -⟩ := Prod.mk.inj h
      exact ⟨v.path root, fault, (Except.error.inj he).symm⟩
    · split at h
      · next hr =>
        obtain ⟨he, rfl⟩ := Prod.mk.inj h
        obtain rfl := Except.error.inj he
        exact ih hr
      · cases h

/-- The files that are published from a directory. -/
def publishedFiles (fs : FileSystem) (root : Path) : List Visited :=
  (fs.collectAsListed (fs.reading root)).filter (·.entry.isFile)

theorem publish_of_located (destination : Path) (hroot : fs.locate root = .ok (fs.reading root)) :
    publish fs root destination = publishEach root destination (publishedFiles fs root) fs := by
  unfold publish FileSystem.walkRoot
  rw [hroot]
  rfl

theorem mem_publishedFiles {v : Visited} : v ∈ publishedFiles fs root ↔
    ((fs.reading root ++ v.relative, v.entry) ∈ fs.entries ∧ v.relative ≠ []) ∧ v.entry.isFile := by
  unfold publishedFiles
  rw [List.mem_filter, FileSystem.mem_collectAsListed, FileSystem.mem_below]

theorem isName_of_publishedFiles (root : Path) (hfs : fs.WellFormed) :
    ∀ v ∈ publishedFiles fs root, ∀ name ∈ v.relative, IsName name := by
  intro v hv name hname
  exact hfs.named _ (mem_publishedFiles.1 hv).1.1 name (List.mem_append_right _ hname)

theorem nodup_publishedFiles (root : Path) (hfs : fs.WellFormed) :
    ((publishedFiles fs root).map (·.relative)).Nodup := by
  have hperm := (FileSystem.collectAsListed_perm fs (fs.reading root)).map (·.relative)
  exact (hperm.nodup_iff.2 (hfs.nodup_below _)).sublist (List.filter_sublist.map _)

/-- A complete publication puts every file at its target, if no target is where files are read. -/
theorem publishEach_contents {vs : List Visited} {written : List Path}
    (hroot : root.text ≠ "") (hdestination : destination.text ≠ "")
    (hnames : ∀ v ∈ vs, ∀ name ∈ v.relative, IsName name)
    (hdistinct : (vs.map (·.relative)).Nodup)
    (hapart : ∀ v ∈ vs, ¬ fs.reading root <+: fs.reading destination ++ v.relative)
    (h : publishEach root destination vs fs = (.ok written, fs')) :
    ∀ v ∈ vs, fs'.contentAt (fs.reading destination ++ v.relative) =
      fs.contentAt (fs.reading root ++ v.relative) := by
  induction vs generalizing fs written with
  | nil => simp
  | cons w rest ih =>
    rw [List.map_cons, List.nodup_cons] at hdistinct
    have hrest : ∀ v ∈ rest, ∀ name ∈ v.relative, IsName name :=
      fun v hv => hnames v (List.mem_cons_of_mem w hv)
    have hsource : fs.reading (w.path root) = fs.reading root ++ w.relative :=
      FileSystem.reading_path hroot (hnames w List.mem_cons_self)
    have htarget : fs.reading (destination.join w.name) = fs.reading destination ++ w.relative :=
      FileSystem.reading_join_name hdestination (hnames w List.mem_cons_self)
    -- What is read is never what the first copy has written.
    have hother : ∀ rel, fs.reading root ++ rel ≠ fs.reading destination ++ w.relative :=
      fun rel heq => hapart w List.mem_cons_self (heq ▸ List.prefix_append _ rel)
    have hcopied := Extends.copyInto fs (w.path root) (destination.join w.name)
    unfold publishEach at h
    split at h
    · cases h
    · next fs₁ hone =>
      rw [hone, htarget] at hcopied
      have hreading : ∀ p, fs₁.reading p = fs.reading p := FileSystem.reading_congr hcopied.current
      split at h
      · cases h
      · next paths final hr =>
        obtain rfl := (Prod.mk.inj h).2
        intro v hv
        rcases List.mem_cons.1 hv with rfl | hv
        · have hlater := publishEach_extends root destination rest fs₁
          rw [hr] at hlater
          rw [hlater.contents, ← htarget, FileSystem.contentAt_copyInto _ hone, hsource]
          · rw [hsource, htarget]
            exact hother v.relative
          · rintro ⟨u, hu, heq⟩
            rw [FileSystem.reading_join_name hdestination (hrest u hu), hreading,
              List.append_cancel_left_eq] at heq
            exact hdistinct.1 (heq ▸ List.mem_map_of_mem hu)
        · have hmore := ih hrest hdistinct.2
            (fun u hu => by rw [hreading, hreading]; exact hapart u (List.mem_cons_of_mem w hu))
            hr v hv
          rw [hreading, hreading] at hmore
          rw [hmore]
          exact hcopied.contents _ (hother v.relative)

end Staging

end Scaffold
