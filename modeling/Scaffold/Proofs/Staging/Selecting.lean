import Scaffold.Proofs.FileSystem.Enclosure
import Scaffold.Proofs.FileSystem.Order
import Scaffold.Staging.Selection

/-! # What operations select

  A selection of the entries below a root holds every entry that is wanted once,
  and no entry before something that it holds.

  - `mem_collectContentsFirst_iff`: the entries that a walk finds.
  - `pairwise_collectContentsFirst`: their order.
  - `IsFileBelow`: the files among them.
  - `entriesMatching_of_located`, `filesMatching_of_located`: both selections.
-/

namespace Scaffold

namespace FileSystem

variable {fs : FileSystem} {l : Location} {v : Visited}

/-! ### Walks -/

/-- A walk finds the entries below the location where it begins. -/
theorem mem_collectContentsFirst_iff (hfs : fs.WellFormed) :
    v ∈ fs.collectContentsFirst l ↔
      v.relative ≠ [] ∧ fs.get? (l ++ v.relative) = some v.entry := by
  rw [mem_collectContentsFirst, mem_below, and_comm]
  refine and_congr_right fun hne => ?_
  exact ⟨hfs.get?_of_mem, mem_entries_of_get? (by simp [hne])⟩

theorem nodup_collectContentsFirst (hfs : fs.WellFormed) (l : Location) :
    ((fs.collectContentsFirst l).map (·.relative)).Nodup := by
  have hperm := (collectContentsFirst_perm fs l).map (·.relative)
  exact hperm.nodup_iff.2 (hfs.nodup_below l)

/-- Nothing that a walk finds lies below something that it has found before, or is it again. -/
theorem pairwise_collectContentsFirst (hfs : fs.WellFormed) (l : Location) :
    (fs.collectContentsFirst l).Pairwise fun v w => ¬ v.relative <+: w.relative := by
  have hdistinct := List.pairwise_map.1 (nodup_collectContentsFirst hfs l)
  refine ((collectContentsFirst_pairwise fs l).and hdistinct).imp_of_mem ?_
  intro v w hv hw ⟨hle, hne⟩ hpre
  obtain ⟨-, hventry⟩ := (mem_collectContentsFirst_iff hfs).1 hv
  obtain ⟨-, hwentry⟩ := (mem_collectContentsFirst_iff hfs).1 hw
  -- What holds something is a directory.
  have habove : fs.isDirectoryAt (l ++ v.relative) := by
    apply hfs.isDirectoryAt_of_prefix (l := l ++ w.relative)
    · rw [hwentry]
      rfl
    · exact (List.prefix_append_right_inj l).2 hpre
    · simpa using hne
  have hdir : v.entry.isDirectory = true := by
    rw [isDirectoryAt_iff, hventry] at habove
    rw [Option.some.inj habove]
    rfl
  exact not_prefix_of_stepsLe hdir hne hle hpre

/-- Different entries have different paths, if each path leads down to its entry. -/
theorem nodup_paths {root : Path} {path : Visited → Path} {found : List Visited}
    (hpaths : ∀ v ∈ found, Descends root v.relative (path v))
    (h : (found.map (·.relative)).Nodup) : (found.map path).Nodup := by
  refine List.pairwise_map.2 ((List.pairwise_map.1 h).imp_of_mem ?_)
  intro v w hv hw hne heq
  have hvsteps := (hpaths v hv).steps
  rw [heq, (hpaths w hw).steps, List.append_cancel_left_eq] at hvsteps
  exact hne hvsteps.symm

/-- Where nothing occurs twice, the next entry is unlike all those before. -/
theorem notMem_done {α : Type} {f : Visited → α} {done rest : List Visited}
    (h : ((done ++ v :: rest).map f).Nodup) : f v ∉ done.map f := by
  rw [List.map_append, List.nodup_append] at h
  intro hmem
  exact h.2.2 _ hmem _ (List.mem_map_of_mem List.mem_cons_self) rfl

/-! ### Files -/

/-- The entry is a file below the root. -/
structure IsFileBelow (fs : FileSystem) (root : Path) (v : Visited) : Prop where
  /-- It is not the root. -/
  ne_root : v.relative ≠ []
  /-- It is there. -/
  get? : fs.get? (fs.reading root ++ v.relative) = some v.entry
  /-- It is a file. -/
  isFile : v.entry.isFile = true

namespace IsFileBelow

variable {fs' : FileSystem} {root : Path} {w : Visited}

theorem content (h : IsFileBelow fs root v) : ∃ content, v.entry = .file content := by
  have hfile := h.isFile
  cases hentry : v.entry with
  | directory => rw [hentry] at hfile; cases hfile
  | file content => exact ⟨content, rfl⟩

theorem isName (h : IsFileBelow fs root v) (hfs : fs.WellFormed) {name : String}
    (hname : name ∈ v.relative) : IsName name :=
  hfs.isName_of_mem (by rw [h.get?]; rfl) (List.mem_append_right _ hname)

/-- Nothing lies below a file. -/
theorem eq_of_isPrefix (h : IsFileBelow fs root v) (hw : IsFileBelow fs root w)
    (hfs : fs.WellFormed)
    (hpre : v.relative <+: w.relative) : v.relative = w.relative := by
  obtain ⟨content, hcontent⟩ := h.content
  have hfile := h.get?
  rw [hcontent] at hfile
  by_contra hne
  have habove : fs.isDirectoryAt (fs.reading root ++ v.relative) := by
    apply hfs.isDirectoryAt_of_prefix (l := fs.reading root ++ w.relative)
    · rw [hw.get?]
      rfl
    · exact (List.prefix_append_right_inj _).2 hpre
    · simpa using hne
  exact not_isDirectoryAt_of_file hfile habove

/-- Where the files are the same, the files below a root are. -/
theorem of_contentAt (h : IsFileBelow fs root v)
    (hcurrent : fs'.current = fs.current) (hcontents : ∀ l, fs'.contentAt l = fs.contentAt l) :
    IsFileBelow fs' root v := by
  obtain ⟨content, hcontent⟩ := h.content
  refine ⟨h.ne_root, ?_, h.isFile⟩
  have hthere := h.get?
  rw [hcontent] at hthere ⊢
  rwa [← contentAt_eq_some, hcontents, contentAt_eq_some, reading_congr hcurrent]

end IsFileBelow

end FileSystem

namespace Staging

open FileSystem (Visited)

variable {fs : FileSystem} {root : Path}

/-! ### Selections -/

theorem entries_of_located (h : fs.locate root = .ok (fs.reading root)) :
    entries fs root = .ok (fs.collectContentsFirst (fs.reading root)) := by
  unfold entries FileSystem.walkRoot
  rw [h]

theorem collect_of_located (h : fs.locate root = .ok (fs.reading root)) (wanted : Visited → Bool) :
    collect fs root wanted = .ok ((fs.collectContentsFirst (fs.reading root)).filter wanted) := by
  unfold collect
  rw [entries_of_located h]
  rfl

theorem entriesMatching_of_located (h : fs.locate root = .ok (fs.reading root))
    (pattern : Pattern) : entriesMatching fs root pattern =
      .ok ((fs.collectContentsFirst (fs.reading root)).filter fun v => pattern.isMatch v.name) := by
  unfold entriesMatching
  exact collect_of_located h _

theorem filesMatching_of_located (h : fs.locate root = .ok (fs.reading root))
    (pattern : Pattern) : filesMatching fs root pattern =
      .ok ((fs.collectContentsFirst (fs.reading root)).filter
        fun v => v.entry.isFile && pattern.isMatch v.name) := by
  unfold filesMatching
  exact collect_of_located h _

end Staging

end Scaffold
