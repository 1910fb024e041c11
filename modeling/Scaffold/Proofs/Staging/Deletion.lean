import Scaffold.Proofs.FileSystem.Passing
import Scaffold.Proofs.Staging.Selecting
import Scaffold.Staging.Delete

/-! # What a deletion leaves

  A deletion takes every entry that matches, with all it holds. The selection
  lists contents first, so that every entry is still there when its turn comes.

  - `Pruned`: the tree after some of the entries.
  - `Pruned.deleteOne_ok`, `Pruned.deleteEach_ok`: one more entry, and all of them.
  - `deleteFiles_filters`: a deletion never fails, and leaves a filter of the tree.
-/

namespace Scaffold.Staging

open FileSystem (Descends Visited isBelow isBelow_append isBelow_iff isBelow_of_le)

variable {fs₀ fs fs' : FileSystem} {root p : Path} {v : Visited} {done todo : List Visited}
  {l : Location}

/-! ### One entry -/

/-- An entry that is found is erased, whatever it is. -/
theorem deleteOne_of_located (h : fs.locate p = .ok l) : deleteOne fs p = .ok (fs.eraseTree l) := by
  unfold deleteOne
  rw [h]
  simp only [bind, Except.bind]
  split
  · next hdir =>
    unfold FileSystem.removeTree
    rw [h]
    simp only [bind, Except.bind]
    rw [if_pos hdir]
  · next hdir =>
    unfold FileSystem.removeFile
    rw [h]
    simp only [bind, Except.bind]
    rw [if_neg hdir]

/-! ### Some of the entries -/

/-- The entries `done` below the root are gone with all they held, and everything else is as in
`fs₀`. -/
structure Pruned (fs₀ : FileSystem) (root : Path) (done : List Visited) (fs : FileSystem) :
    Prop where
  /-- The current directory is the same, even if it is gone. -/
  current : fs.current = fs₀.current
  /-- What was deleted is gone. -/
  gone : ∀ v ∈ done, ∀ l, fs₀.reading root ++ v.relative <+: l → fs.get? l = none
  /-- What is neither deleted nor below something deleted is as it was. -/
  kept : ∀ l, (∀ v ∈ done, ¬ fs₀.reading root ++ v.relative <+: l) → fs.get? l = fs₀.get? l

namespace Pruned

theorem start (fs : FileSystem) (root : Path) : Pruned fs root [] fs where
  current := rfl
  gone := fun _ hv => (List.not_mem_nil hv).elim
  kept := fun _ _ => rfl

/-- What is there now was there before, and no deletion has reached it. -/
theorem get?_eq_some (h : Pruned fs₀ root done fs) {entry : Entry} :
    fs.get? l = some entry ↔
      fs₀.get? l = some entry ∧ ∀ v ∈ done, ¬ fs₀.reading root ++ v.relative <+: l := by
  by_cases hreached : ∃ v ∈ done, fs₀.reading root ++ v.relative <+: l
  · obtain ⟨v, hv, hpre⟩ := hreached
    rw [h.gone v hv l hpre]
    exact ⟨nofun, fun hboth => absurd hpre (hboth.2 v hv)⟩
  · have hnone : ∀ v ∈ done, ¬ fs₀.reading root ++ v.relative <+: l :=
      fun v hv hpre => hreached ⟨v, hv, hpre⟩
    rw [h.kept l hnone]
    exact ⟨fun hget => ⟨hget, hnone⟩, fun hboth => hboth.1⟩

/-- Whatever does not lie below the root is as it was. -/
theorem get?_outside (h : Pruned fs₀ root done fs) (hdone : ∀ w ∈ done, w.relative ≠ [])
    (hl : isBelow (fs₀.reading root) l = false) : fs.get? l = fs₀.get? l := by
  apply h.kept
  intro w hw hpre
  have hbelow := isBelow_of_le (isBelow_append (l := fs₀.reading root) (hdone w hw)) hpre
  rw [hbelow] at hl
  cases hl

/-- One more entry is deleted: nothing that was deleted before has taken it along. -/
theorem deleteOne_ok (h : Pruned fs₀ root done fs) (hfs : fs₀.WellFormed)
    (hroot : fs₀.locate root = .ok (fs₀.reading root)) (hway : fs₀.ComesFromAbove root)
    (hdone : ∀ w ∈ done, w.relative ≠ [] ∧ ¬ w.relative <+: v.relative)
    (hne : v.relative ≠ []) (hentry : fs₀.get? (fs₀.reading root ++ v.relative) = some v.entry) :
    ∃ fs', deleteOne fs (v.path root) = .ok fs' ∧ Pruned fs₀ root (done ++ [v]) fs' := by
  have htext := FileSystem.locate_text_ne_empty hroot
  have hsome : (fs₀.get? (fs₀.reading root ++ v.relative)).isSome := by
    rw [hentry]
    rfl
  have hnames : ∀ name ∈ v.relative, IsName name := fun name hname =>
    hfs.isName_of_mem hsome (List.mem_append_right _ hname)
  have hpath : Descends root v.relative (v.path root) := .path htext hnames
  -- The entry was found at its path, and the way down to it is as it was.
  have hlocate₀ : fs₀.locate (v.path root) = .ok (fs₀.reading root ++ v.relative) := by
    have hends := (FileSystem.endsInStep_entry htext hne hnames).1
    have hlast := List.dropLast_concat_getLast hne
    rw [← hlast] at hpath hsome ⊢
    exact FileSystem.locate_entry hfs hroot hpath hends
      (Path.steps_foldl_join htext hnames).2.2 hsome
  have hdown : ∀ front, front <+: v.relative →
      fs.get? (fs₀.reading root ++ front) = fs₀.get? (fs₀.reading root ++ front) := by
    intro front hfront
    apply h.kept
    intro w hw hpre
    rw [List.prefix_append_right_inj] at hpre
    exact (hdone w hw).2 (hpre.trans hfront)
  have hlocate : fs.locate (v.path root) = .ok (fs₀.reading root ++ v.relative) := by
    apply FileSystem.locate_below_of_passed hway hpath h.current _ hdown hlocate₀
    intro k hk
    exact h.get?_outside (fun w hw => (hdone w hw).1) hk
  have hlocation : fs₀.reading root ++ v.relative ≠ [] := by simp [hne]
  refine ⟨_, deleteOne_of_located hlocate, {
    current := h.current
    gone := fun w hw l hpre => ?_
    kept := fun l hl => ?_ }⟩
  · rw [FileSystem.get?_eraseTree hlocation]
    rcases List.mem_append.1 hw with hw | hw
    · split
      · rfl
      · exact h.gone w hw l hpre
    · rw [List.mem_singleton.1 hw] at hpre
      rw [if_pos hpre]
  · have hnot := hl v (List.mem_append_right _ (List.mem_singleton_self v))
    rw [FileSystem.get?_eraseTree hlocation, if_neg hnot]
    exact h.kept l fun w hw => hl w (List.mem_append_left _ hw)

/-- All entries are deleted that come in such an order that no entry lies below an earlier one. The
invariant over what is done is `Pruned`. -/
theorem deleteEach_ok (h : Pruned fs₀ root done fs) (hfs : fs₀.WellFormed)
    (hroot : fs₀.locate root = .ok (fs₀.reading root)) (hway : fs₀.ComesFromAbove root)
    (hentries : ∀ v ∈ done ++ todo, v.relative ≠ [] ∧
      fs₀.get? (fs₀.reading root ++ v.relative) = some v.entry)
    (hturn : (done ++ todo).Pairwise fun v w => ¬ v.relative <+: w.relative) :
    ∃ fs', deleteEach (todo.map (·.path root)) fs = (.ok (todo.map (·.path root)), fs') ∧
      Pruned fs₀ root (done ++ todo) fs' := by
  induction todo generalizing done fs with
  | nil => exact ⟨fs, rfl, by rwa [List.append_nil]⟩
  | cons v rest ih =>
    obtain ⟨hne, hentry⟩ := hentries v (by simp)
    have hdone : ∀ w ∈ done, w.relative ≠ [] ∧ ¬ w.relative <+: v.relative := by
      intro w hw
      refine ⟨(hentries w (List.mem_append_left _ hw)).1, ?_⟩
      exact (List.pairwise_append.1 hturn).2.2 w hw v List.mem_cons_self
    obtain ⟨fs₁, hone, hstep⟩ := h.deleteOne_ok hfs hroot hway hdone hne hentry
    rw [List.append_cons] at hentries hturn ⊢
    obtain ⟨fs', hrest, hfinal⟩ := ih hstep hentries hturn
    refine ⟨fs', ?_, hfinal⟩
    rw [List.map_cons, deleteEach, hone]
    simp only [hrest]

end Pruned

/-! ### All entries that match -/

/-- Neither the entry nor a directory above it matches, as far as they lie below the root. -/
def IsSpared (pattern : Pattern) (relative : Location) : Prop :=
  ∀ front, front ≠ [] → front <+: relative →
    pattern.isMatch (Text.joinTexts '/' front) = false

/-- An entry is spared if it is not at or below a selected one: what lies above an entry is there,
so that it is selected if it matches. -/
theorem isSpared_iff {pattern : Pattern} {relative : Location} {entry : Entry}
    (hfs : fs.WellFormed)
    (hmem : ∀ v : Visited, v ∈ done ↔ (v.relative ≠ [] ∧ fs.get? (l ++ v.relative) = some v.entry) ∧
      pattern.isMatch v.name = true)
    (hget : fs.get? (l ++ relative) = some entry) :
    IsSpared pattern relative ↔ ∀ v ∈ done, ¬ l ++ v.relative <+: l ++ relative := by
  constructor
  · intro hspared v hv hpre
    obtain ⟨⟨hne, -⟩, hmatch⟩ := (hmem v).1 hv
    rw [List.prefix_append_right_inj] at hpre
    have hno : pattern.isMatch v.name = false := hspared v.relative hne hpre
    rw [hmatch] at hno
    cases hno
  · intro hnone front hne hpre
    rw [← Bool.not_eq_true]
    intro hmatch
    have hpre' : l ++ front <+: l ++ relative := (List.prefix_append_right_inj l).2 hpre
    obtain ⟨above, habove⟩ : ∃ above, fs.get? (l ++ front) = some above := by
      by_cases hself : l ++ front = l ++ relative
      · exact ⟨entry, hself ▸ hget⟩
      · have hdir := hfs.isDirectoryAt_of_prefix (by rw [hget]; rfl) hpre' hself
        exact ⟨.directory, FileSystem.isDirectoryAt_iff.1 hdir⟩
    exact hnone ⟨front, above⟩ ((hmem _).2 ⟨⟨hne, habove⟩, hmatch⟩) hpre'

/-- A deletion with a pattern that compiles succeeds. What is left below the root are exactly the
entries that neither match nor lie in a directory that does, with what they held, and elsewhere
nothing has changed. The paths that are returned are those of all entries that match, each once and
behind everything that it holds. A pattern that does not compile changes nothing.

The path of the root must not pass anything below the root, which a deletion might take away. -/
theorem deleteFiles_filters (fs : FileSystem) (root : Path) (wildcard : String)
    (hfs : fs.WellFormed) (hroot : fs.isDirectory root = true) (hway : fs.ComesFromAbove root) :
    (∀ pattern, Pattern.compile wildcard = .ok pattern →
      ∃ (found : List Visited) (fs' : FileSystem),
      deleteFiles fs root wildcard = (.ok (found.map (·.path root)), fs') ∧
      (∀ relative entry, fs'.get? (fs.reading root ++ relative) = some entry ↔
        fs.get? (fs.reading root ++ relative) = some entry ∧ IsSpared pattern relative) ∧
      (∀ l, ¬ fs.reading root <+: l → fs'.get? l = fs.get? l) ∧
      (∀ v : Visited, v ∈ found ↔ (v.relative ≠ [] ∧
        fs.get? (fs.reading root ++ v.relative) = some v.entry) ∧
          pattern.isMatch v.name = true) ∧
      (found.map (·.path root)).Nodup ∧
      found.Pairwise fun v w => ¬ v.relative <+: w.relative) ∧
    ∀ fault, Pattern.compile wildcard = .error fault →
      deleteFiles fs root wildcard = (.error (.pattern fault), fs) := by
  obtain ⟨hlocate, hdir⟩ := FileSystem.isDirectory_iff.1 hroot
  constructor
  · intro pattern hpattern
    let found := (fs.collectContentsFirst (fs.reading root)).filter
      fun v => pattern.isMatch v.name
    have hmem : ∀ v : Visited, v ∈ found ↔ (v.relative ≠ [] ∧
        fs.get? (fs.reading root ++ v.relative) = some v.entry) ∧
          pattern.isMatch v.name = true := by
      intro v
      rw [List.mem_filter, FileSystem.mem_collectContentsFirst_iff hfs]
    have hturn : found.Pairwise fun v w => ¬ v.relative <+: w.relative :=
      (FileSystem.pairwise_collectContentsFirst hfs _).filter _
    have hentries : ∀ v ∈ [] ++ found, v.relative ≠ [] ∧
        fs.get? (fs.reading root ++ v.relative) = some v.entry :=
      fun v hv => ((hmem v).1 hv).1
    obtain ⟨fs', hrun, hpruned⟩ :=
      (Pruned.start fs root).deleteEach_ok hfs hlocate hway hentries hturn
    rw [List.nil_append] at hpruned
    refine ⟨found, fs', ?_, ?_, ?_, hmem, ?_, hturn⟩
    · unfold deleteFiles
      rw [hpattern]
      simp only [entriesMatching_of_located hlocate]
      exact hrun
    · intro relative entry
      rw [hpruned.get?_eq_some]
      exact and_congr_right fun hget => (isSpared_iff hfs hmem hget).symm
    · intro l hl
      apply hpruned.get?_outside (fun v hv => ((hmem v).1 hv).1.1)
      rw [← Bool.not_eq_true, isBelow_iff]
      exact fun hbelow => hl hbelow.1
    · apply FileSystem.nodup_paths
      · intro v hv
        apply Descends.path (FileSystem.locate_text_ne_empty hlocate)
        intro name hname
        obtain ⟨⟨-, hentry⟩, -⟩ := (hmem v).1 hv
        exact hfs.isName_of_mem (by rw [hentry]; rfl) (List.mem_append_right _ hname)
      · exact (FileSystem.nodup_collectContentsFirst hfs _).sublist (List.filter_sublist.map _)
  · intro fault hfault
    unfold deleteFiles
    rw [hfault]

/-! ### A directory that matches together with what is in it -/

/-- A staging tree with a directory whose name begins with a `b`, with two files in it, one of which
has such a name too, and with entries elsewhere. -/
def builtFiles : FileSystem :=
  { entries := [
      (["stage"], .directory), (["stage", "b.txt"], .file "b".toUTF8),
      (["stage", "build"], .directory), (["stage", "build", "b1"], .file "1".toUTF8),
      (["stage", "build", "a"], .file "2".toUTF8), (["stage", "src"], .directory),
      (["stage", "src", "main"], .file "3".toUTF8)] }

theorem deleteFiles_filters_of_builtFiles :
    ∃ pattern, Pattern.compile "**/b*" = .ok pattern ∧
      ∃ (found : List Visited) (fs' : FileSystem),
      deleteFiles builtFiles ⟨"/stage"⟩ "**/b*" = (.ok (found.map (·.path ⟨"/stage"⟩)), fs') ∧
      (∀ relative entry, fs'.get? (builtFiles.reading ⟨"/stage"⟩ ++ relative) = some entry ↔
        builtFiles.get? (builtFiles.reading ⟨"/stage"⟩ ++ relative) = some entry ∧
          IsSpared pattern relative) ∧
      (∀ l, ¬ builtFiles.reading ⟨"/stage"⟩ <+: l → fs'.get? l = builtFiles.get? l) ∧
      (∀ v : Visited, v ∈ found ↔ (v.relative ≠ [] ∧
        builtFiles.get? (builtFiles.reading ⟨"/stage"⟩ ++ v.relative) = some v.entry) ∧
          pattern.isMatch v.name = true) ∧
      (found.map (·.path ⟨"/stage"⟩)).Nodup ∧
      found.Pairwise fun v w => ¬ v.relative <+: w.relative := by
  have hcompiles : (Pattern.compile "**/b*").isOk = true := by decide +kernel
  cases hpattern : Pattern.compile "**/b*" with
  | error fault => rw [hpattern] at hcompiles; cases hcompiles
  | ok pattern =>
    refine ⟨pattern, rfl, ?_⟩
    have hfs : builtFiles.WellFormed := by decide +kernel
    have hroot : builtFiles.isDirectory ⟨"/stage"⟩ = true := by decide +kernel
    have hway : builtFiles.ComesFromAbove ⟨"/stage"⟩ := by decide +kernel
    exact (deleteFiles_filters builtFiles ⟨"/stage"⟩ "**/b*" hfs hroot hway).1 pattern hpattern

end Scaffold.Staging
