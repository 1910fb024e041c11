import Scaffold.Proofs.FileSystem.Effects

/-! # Changes keep file systems well-formed

  Every elementary change, made where the file operations make it, leaves a
  well-formed file system well-formed.

  - `WellFormed.setFile`, `WellFormed.addDirectory`: something new in a slot.
  - `WellFormed.eraseTree`, `WellFormed.moveTree`: whole trees.
  - `WellFormed.get?_of_locate`: a path that can be followed leads to an entry.
-/

namespace Scaffold.FileSystem

variable {fs fs' : FileSystem} {l k m : Location} {content : ByteArray}

/-! ### New entries -/

theorem mem_insertEntry {entry : Entry} {entries : List (Location × Entry)}
    {e : Location × Entry} (h : e ∈ insertEntry l entry entries) :
    e = (l, entry) ∨ e ∈ entries := by
  induction entries with
  | nil => exact .inl (List.mem_singleton.1 h)
  | cons first rest ih =>
    unfold insertEntry at h
    split at h
    · next hl =>
      rcases List.mem_cons.1 h with rfl | h
      · exact .inl (by rw [← hl])
      · exact .inr (List.mem_cons_of_mem _ h)
    · rcases List.mem_cons.1 h with rfl | h
      · exact .inr List.mem_cons_self
      · exact (ih h).imp_right (List.mem_cons_of_mem _)

theorem nodup_insertEntry {entry : Entry} {entries : List (Location × Entry)}
    (h : (entries.map (·.1)).Nodup) : ((insertEntry l entry entries).map (·.1)).Nodup := by
  induction entries with
  | nil => simp [insertEntry]
  | cons first rest ih =>
    rw [List.map_cons, List.nodup_cons] at h
    unfold insertEntry
    split
    · exact List.nodup_cons.2 h
    · next hl =>
      refine List.nodup_cons.2 ⟨fun hmem => ?_, ih h.2⟩
      obtain ⟨e, he, hkey⟩ := List.mem_map.1 hmem
      rcases mem_insertEntry he with rfl | he
      · exact hl hkey.symm
      · exact h.1 (List.mem_map.2 ⟨e, he, hkey⟩)

theorem isDirectoryAt_setFile (hslot : fs.IsSlot l) (hfree : ¬ fs.isDirectoryAt l)
    (hk : fs.isDirectoryAt k) : (fs.setFile l content).isDirectoryAt k := by
  have hne : k ≠ l := by
    rintro rfl
    exact hfree hk
  rw [isDirectoryAt_iff, get?_setFile hslot.below_root, if_neg hne]
  exact isDirectoryAt_iff.1 hk

theorem isDirectoryAt_addDirectory (hslot : fs.IsSlot l) (hnone : fs.get? l = none)
    (hk : fs.isDirectoryAt k) : (fs.addDirectory l).isDirectoryAt k := by
  rw [isDirectoryAt_iff, get?_addDirectory hslot.below_root hnone]
  split
  · rfl
  · exact isDirectoryAt_iff.1 hk

theorem WellFormed.setFile (hfs : fs.WellFormed) (hslot : fs.IsSlot l)
    (hfree : ¬ fs.isDirectoryAt l) : (fs.setFile l content).WellFormed where
  distinct := nodup_insertEntry hfs.distinct
  below_root := fun e he => by
    rcases mem_insertEntry he with rfl | he
    · exact hslot.below_root
    · exact hfs.below_root e he
  in_directory := fun e he => by
    rcases mem_insertEntry he with rfl | he
    · exact isDirectoryAt_setFile hslot hfree hslot.in_directory
    · exact isDirectoryAt_setFile hslot hfree (hfs.in_directory e he)
  named := fun e he => by
    rcases mem_insertEntry he with rfl | he
    · exact fun name hname => hslot.isName_of_mem hfs hname
    · exact hfs.named e he
  current_directory := isDirectoryAt_setFile hslot hfree hfs.current_directory

theorem WellFormed.addDirectory (hfs : fs.WellFormed) (hslot : fs.IsSlot l)
    (hnone : fs.get? l = none) : (fs.addDirectory l).WellFormed := by
  have hmem : ∀ e ∈ (fs.addDirectory l).entries, e ∈ fs.entries ∨ e = (l, Entry.directory) :=
    fun e he => (List.mem_append.1 he).imp_right List.mem_singleton.1
  refine {
    distinct := ?_
    below_root := fun e he => ?_
    in_directory := fun e he => isDirectoryAt_addDirectory hslot hnone ?_
    named := fun e he name hname => ?_
    current_directory := isDirectoryAt_addDirectory hslot hnone hfs.current_directory }
  · show ((fs.entries ++ [(l, Entry.directory)]).map (·.1)).Nodup
    rw [List.map_append, List.nodup_append]
    refine ⟨hfs.distinct, by simp, ?_⟩
    rintro a ha b hb rfl
    obtain ⟨e, he, rfl⟩ := List.mem_map.1 ha
    have hkey : e.1 = l := by simpa using hb
    have := hfs.get?_of_mem he
    rw [hkey, hnone] at this
    cases this
  · rcases hmem e he with he | rfl
    · exact hfs.below_root e he
    · exact hslot.below_root
  · rcases hmem e he with he | rfl
    · exact hfs.in_directory e he
    · exact hslot.in_directory
  · rcases hmem e he with he | rfl
    · exact hfs.named e he name hname
    · exact hslot.isName_of_mem hfs hname

/-- Directories that are made keep the file system well-formed. -/
theorem WellFormed.createDirectories (hfs : fs.WellFormed) (p : Path) :
    (fs.createDirectories p).2.WellFormed := by
  refine createChain_induct (fun _ _ _ _ hbefore hmade => ?_) hfs
  obtain ⟨hslot, hnone, rfl⟩ := createDirectory_eq_ok hmade
  exact hbefore.addDirectory hslot hnone

/-! ### Whole trees -/

theorem isDirectoryAt_eraseTree (hl : l ≠ []) (hk : fs.isDirectoryAt k) (hnot : ¬ l <+: k) :
    (fs.eraseTree l).isDirectoryAt k := by
  rw [isDirectoryAt_iff, get?_eraseTree hl, if_neg hnot]
  exact isDirectoryAt_iff.1 hk

/-- A tree can be erased unless the current directory is in it. -/
theorem WellFormed.eraseTree (hfs : fs.WellFormed) (hl : l ≠ []) (hcurrent : ¬ l <+: fs.current) :
    (fs.eraseTree l).WellFormed := by
  have hmem : ∀ e ∈ (fs.eraseTree l).entries, e ∈ fs.entries ∧ ¬ l <+: e.1 := by
    intro e he
    obtain ⟨he, hnot⟩ := List.mem_filter.1 he
    exact ⟨he, isPrefixOf_eq_false.1 (by simpa using hnot)⟩
  refine {
    distinct := hfs.distinct.sublist (List.filter_sublist.map _)
    below_root := fun e he => hfs.below_root e (hmem e he).1
    in_directory := fun e he => ?_
    named := fun e he => hfs.named e (hmem e he).1
    current_directory := isDirectoryAt_eraseTree hl hfs.current_directory hcurrent }
  obtain ⟨he, hnot⟩ := hmem e he
  exact isDirectoryAt_eraseTree hl (hfs.in_directory e he) fun hpre =>
    hnot (hpre.trans (List.dropLast_prefix e.1))

/-- At and below a free location there is nothing. -/
theorem WellFormed.get?_of_free (hfs : fs.WellFormed) (hnone : fs.get? l = none) (hm : l <+: m) :
    fs.get? m = none := by
  by_cases hne : l = m
  · rw [← hne, hnone]
  · have hnotdir : ¬ fs.isDirectoryAt l := by
      intro hdir
      rw [isDirectoryAt_iff, hnone] at hdir
      cases hdir
    exact hfs.get?_below hnotdir hm hne

/-- An entry stays when a tree is moved, or it has moved along. -/
theorem mem_moveTree {source target : Location} {e : Location × Entry}
    (he : e ∈ (fs.moveTree source target).entries) :
    (e ∈ fs.entries ∧ ¬ source <+: e.1) ∨
      ∃ rest, (source ++ rest, e.2) ∈ fs.entries ∧ e.1 = target ++ rest := by
  rcases List.mem_append.1 he with he | he
  · obtain ⟨he, hstay⟩ := List.mem_filter.1 he
    exact .inl ⟨he, isPrefixOf_eq_false.1 (by simpa using hstay)⟩
  · obtain ⟨⟨key, entry⟩, hmoved, rfl⟩ := List.mem_map.1 he
    obtain ⟨he, hpre⟩ := List.mem_filter.1 hmoved
    obtain ⟨rest, rfl⟩ := List.isPrefixOf_iff_prefix.1 hpre
    exact .inr ⟨rest, he, rebase_append source target rest⟩

section

variable {source target : Location} (hfs : fs.WellFormed) (hsource : source ≠ [])
  (htarget : target ≠ []) (hnone : fs.get? target = none)

include hfs hnone

/-- Entries that stay and entries that move do not meet. -/
theorem nodup_moveTree : ((fs.moveTree source target).entries.map (·.1)).Nodup := by
  unfold FileSystem.moveTree
  rw [List.map_append, List.nodup_append]
  refine ⟨hfs.distinct.sublist (List.filter_sublist.map _), ?_, ?_⟩
  · exact nodup_rebase (by simp) (hfs.distinct.sublist (List.filter_sublist.map _))
  · rintro k hk k' hk' rfl
    obtain ⟨e, he, rfl⟩ := List.mem_map.1 hk
    obtain ⟨_, hmoved, hkey⟩ := List.mem_map.1 hk'
    obtain ⟨e', -, rfl⟩ := List.mem_map.1 hmoved
    -- What moves lands below the target, and there nothing was.
    have hget := hfs.get?_of_mem (List.mem_filter.1 he).1
    rw [hfs.get?_of_free hnone (hkey ▸ List.prefix_append target _)] at hget
    cases hget

include hsource htarget

/-- A directory that is not in the tree stays one. -/
theorem isDirectoryAt_moveTree_of_not_prefix (hk : fs.isDirectoryAt k) (hnot : ¬ source <+: k) :
    (fs.moveTree source target).isDirectoryAt k := by
  have hapart : ¬ target <+: k := by
    intro hpre
    rw [isDirectoryAt_iff, hfs.get?_of_free hnone hpre] at hk
    cases hk
  rw [isDirectoryAt_iff, get?_moveTree hsource htarget fun _ hm => hfs.get?_of_free hnone hm,
    if_neg hapart, if_neg hnot]
  exact isDirectoryAt_iff.1 hk

/-- A directory in the tree is one at the place that it moves to. -/
theorem isDirectoryAt_moveTree_append {rest : Location} (h : fs.isDirectoryAt (source ++ rest)) :
    (fs.moveTree source target).isDirectoryAt (target ++ rest) := by
  rw [isDirectoryAt_iff, get?_moveTree hsource htarget fun _ hm => hfs.get?_of_free hnone hm,
    if_pos (List.prefix_append target rest), rebase_append]
  exact isDirectoryAt_iff.1 h

end

/-- A tree can be moved to a free slot that is not below its top. -/
theorem WellFormed.moveTree {source target : Location} (hfs : fs.WellFormed)
    (hsource : source ≠ []) (hslot : fs.IsSlot target) (hnone : fs.get? target = none)
    (hnot : ¬ source <+: target) :
    (fs.moveTree source target).WellFormed := by
  have hstays : ∀ k, fs.isDirectoryAt k → ¬ source <+: k →
      (fs.moveTree source target).isDirectoryAt k := fun _ =>
    isDirectoryAt_moveTree_of_not_prefix hfs hsource hslot.below_root hnone
  have hmoves : ∀ rest, fs.isDirectoryAt (source ++ rest) →
      (fs.moveTree source target).isDirectoryAt (target ++ rest) := fun _ =>
    isDirectoryAt_moveTree_append hfs hsource hslot.below_root hnone
  refine {
    distinct := nodup_moveTree hfs hnone
    below_root := fun e he => ?_
    in_directory := fun e he => ?_
    named := fun e he name hname => ?_
    current_directory := ?_ }
  · rcases mem_moveTree he with ⟨he, -⟩ | ⟨rest, -, hkey⟩
    · exact hfs.below_root e he
    · rw [hkey]
      exact fun h => hslot.below_root (List.append_eq_nil_iff.1 h).1
  · rcases mem_moveTree he with ⟨he, hsm⟩ | ⟨rest, he, hkey⟩
    · exact hstays _ (hfs.in_directory e he) fun hpre => hsm (hpre.trans (List.dropLast_prefix e.1))
    · rw [hkey]
      by_cases hrest : rest = []
      · -- The top of the tree is held by what holds the slot.
        rw [hrest, List.append_nil]
        exact hstays _ hslot.in_directory fun hpre =>
          hnot (hpre.trans (List.dropLast_prefix target))
      · rw [List.dropLast_append_of_ne_nil hrest]
        refine hmoves _ ?_
        rw [← List.dropLast_append_of_ne_nil hrest]
        exact hfs.in_directory _ he
  · rcases mem_moveTree he with ⟨he, -⟩ | ⟨rest, he, hkey⟩
    · exact hfs.named e he name hname
    · rw [hkey, List.mem_append] at hname
      rcases hname with hname | hname
      · exact hslot.isName_of_mem hfs hname
      · exact hfs.named _ he name (List.mem_append_right source hname)
  · unfold FileSystem.moveTree
    simp only
    split
    · next hpre =>
      obtain ⟨rest, hrest⟩ := List.isPrefixOf_iff_prefix.1 hpre
      rw [← hrest, rebase_append]
      exact hmoves rest (hrest ▸ hfs.current_directory)
    · next hpre => exact hstays _ hfs.current_directory (by simpa using hpre)

/-! ### Paths that lead somewhere -/

theorem get?_of_follow {names : List String} (hfs : fs.WellFormed) (hk : (fs.get? k).isSome)
    (h : fs.follow k names = .ok l) : (fs.get? l).isSome := by
  induction names generalizing k with
  | nil =>
    obtain rfl := Except.ok.inj h
    exact hk
  | cons name rest ih =>
    obtain ⟨m, hdir, hstep, hrest⟩ := follow_cons_ok h
    obtain ⟨rfl, hplain⟩ := step_eq_ok.1 hstep
    refine ih ?_ hrest
    unfold turn
    split
    · exact hk
    · next hidle =>
      split
      · exact Option.isSome_of_any (hfs.isDirectoryAt_dropLast hk)
      · next hup => exact (hplain ⟨hidle, hup⟩).2

/-- A path that can be followed to its end leads to an entry. -/
theorem WellFormed.get?_of_locate {p : Path} (hfs : fs.WellFormed) (h : fs.locate p = .ok l) :
    (fs.get? l).isSome := by
  refine get?_of_follow hfs ?_ (locate_eq_ok.1 h).2
  unfold origin
  split
  · rfl
  · exact Option.isSome_of_any hfs.current_directory

/-- A path is of nothing if nothing is at its reading. -/
theorem WellFormed.isPresent_eq_false {p : Path} (hfs : fs.WellFormed)
    (h : fs.get? (fs.reading p) = none) : fs.isPresent p = false := by
  rw [← Bool.not_eq_true, isPresent_iff]
  intro hlocate
  have hsome := hfs.get?_of_locate hlocate
  rw [h] at hsome
  cases hsome

end Scaffold.FileSystem
