import Scaffold.Proofs.FileSystem.Making
import Scaffold.Proofs.Staging.Selecting

/-! # Files that come together

  Files from everywhere below the root come together in one directory, each under
  its last name. Two of them may get in each other's way there, and so may what
  was there before.

  - `Gathered`: the tree after some of the files.
  - `FindsRoom`, `Gathered.get?_placeIn`: whether the next file can follow them.
  - `Gathered.concat_kept`, `Gathered.concat_moved`: the tree after one more file.
-/

namespace Scaffold.Staging

open FileSystem (IsFileBelow MakesDirectories Visited isDirectoryAt_iff)

variable {fs₀ fs fs' : FileSystem} {root : Path} {names : List String} {v w : Visited}
  {done : List Visited} {l : Location}

/-! ### Files and their new places -/

/-- The last name of an entry. -/
def baseName (v : Visited) : String := v.relative.getLastD ""

/-- Whether an entry lies in the directory with these names, and not deeper. -/
def LiesIn (names : List String) (v : Visited) : Prop := v.relative.dropLast = names

instance (names : List String) (v : Visited) : Decidable (LiesIn names v) :=
  inferInstanceAs (Decidable (v.relative.dropLast = names))

/-- Where the directory would hold an entry. -/
def placeIn (fs : FileSystem) (root : Path) (names : List String) (v : Visited) : Location :=
  fs.reading root ++ names ++ [baseName v]

theorem relative_eq (h : v.relative ≠ []) : v.relative.dropLast ++ [baseName v] = v.relative := by
  unfold baseName
  rw [List.getLastD_eq_getLast?, List.getLast?_eq_some_getLast h]
  exact List.dropLast_concat_getLast h

theorem baseName_mem (h : v.relative ≠ []) : baseName v ∈ v.relative := by
  rw [← relative_eq h, List.mem_append]
  exact .inr (List.mem_singleton_self _)

/-- The place of an entry in the directory is where it is if it lies in the directory. -/
theorem placeIn_eq_iff (h : w.relative ≠ []) :
    placeIn fs root names v = fs.reading root ++ w.relative ↔
      LiesIn names w ∧ baseName v = baseName w := by
  unfold placeIn LiesIn
  rw [List.append_assoc, List.append_cancel_left_eq, ← relative_eq h]
  constructor
  · intro heq
    obtain ⟨hfront, hlast⟩ := List.append_inj' heq rfl
    rw [List.dropLast_concat]
    exact ⟨hfront.symm, (List.cons.inj hlast).1⟩
  · rintro ⟨hfront, hbase⟩
    rw [List.dropLast_concat] at hfront
    rw [hfront, hbase]

theorem placeIn_inj : placeIn fs root names v = placeIn fs root names w ↔
    baseName v = baseName w := by
  unfold placeIn
  rw [List.append_cancel_left_eq, List.singleton_inj]

/-! ### Some of the files -/

/-- The files `done` are in the directory, which is there with all above it, and apart from that
everything is as in `fs₀`. -/
structure Gathered (fs₀ : FileSystem) (root : Path) (names : List String) (done : List Visited)
    (fs : FileSystem) : Prop where
  /-- The file system stays well-formed. -/
  wellFormed : fs.WellFormed
  /-- The current directory is the same. -/
  current : fs.current = fs₀.current
  /-- The files were there, below the root. -/
  below : ∀ v ∈ done, IsFileBelow fs₀ root v
  /-- Directories stay, and only the directory and what is missing above it are new. -/
  directories : ∀ l, fs.isDirectoryAt l ↔
    fs₀.isDirectoryAt l ∨ (fs₀.reading root <+: l ∧ l <+: fs₀.reading root ++ names)
  /-- The files are in the directory. -/
  moved : ∀ v ∈ done, fs.get? (placeIn fs₀ root names v) = some v.entry
  /-- They are not where they came from. -/
  gone : ∀ v ∈ done, ¬ LiesIn names v → fs.get? (fs₀.reading root ++ v.relative) = none
  /-- Other files have their content, and no others are new. -/
  others : ∀ l, (∀ v ∈ done, ¬ LiesIn names v →
    l ≠ fs₀.reading root ++ v.relative ∧ l ≠ placeIn fs₀ root names v) →
      fs.contentAt l = fs₀.contentAt l
  /-- Nothing was where a file has moved. -/
  free : ∀ v ∈ done, ¬ LiesIn names v → fs₀.get? (placeIn fs₀ root names v) = none
  /-- No two files have the same name. -/
  distinct : (done.map baseName).Nodup

/-- A file finds room behind others: it is in the directory already, or nothing with its name is
there, from before or moved. -/
def FindsRoom (fs₀ : FileSystem) (root : Path) (names : List String) (done : List Visited)
    (v : Visited) : Prop :=
  LiesIn names v ∨
    (fs₀.get? (placeIn fs₀ root names v) = none ∧ baseName v ∉ done.map baseName)

namespace Gathered

/-- Before the first file. -/
theorem start (hmade : MakesDirectories fs (fs.reading root) names fs') (hwell : fs'.WellFormed)
    (hfree : ∀ front, front <+: names → ¬ fs.isFileAt (fs.reading root ++ front)) :
    Gathered fs root names [] fs' where
  wellFormed := hwell
  current := hmade.current
  below := nofun
  directories := fun l => by
    rw [isDirectoryAt_iff, hmade.get?, isDirectoryAt_iff]
    by_cases hway : fs.reading root <+: l ∧ l <+: fs.reading root ++ names
    · simp [hway]
    · simp [hway]
  moved := nofun
  gone := nofun
  others := fun l _ => by
    unfold FileSystem.contentAt
    rw [hmade.get?]
    split
    · next hway =>
      -- On the way there was no file before.
      obtain ⟨⟨front, rfl⟩, hpre⟩ := hway
      rw [List.prefix_append_right_inj] at hpre
      rcases FileSystem.isDirectoryAt_or_none (hfree front hpre) with hthere | hnone
      · rw [isDirectoryAt_iff.1 hthere]
      · rw [hnone]
        rfl
    · rfl
  free := nofun
  distinct := List.nodup_nil

/-- The root is found where it was. -/
theorem locate_root (h : Gathered fs₀ root names done fs) (hroot : fs₀.locate root = .ok l)
    (hdir : fs₀.isDirectoryAt l) : fs.locate root = .ok l := by
  have hdirs : ∀ k, fs₀.isDirectoryAt k → fs.isDirectoryAt k := fun k hk =>
    (h.directories k).2 (.inl hk)
  exact FileSystem.locate_of_directories h.current.symm hdirs
    (fun _ => Option.isSome_of_any (hdirs l hdir)) hroot

/-- No directory is where a file goes, unless one was there before. -/
theorem isDirectoryAt_placeIn (h : Gathered fs₀ root names done fs) (v : Visited) :
    fs.isDirectoryAt (placeIn fs₀ root names v) ↔ fs₀.isDirectoryAt (placeIn fs₀ root names v) := by
  rw [h.directories, or_iff_left]
  rintro ⟨-, hpre⟩
  have hle := hpre.length_le
  unfold placeIn at hle
  simp only [List.length_append, List.length_singleton] at hle
  omega

/-- A file finds room if nothing is at its place. -/
theorem get?_placeIn (h : Gathered fs₀ root names done fs) (hout : ¬ LiesIn names v) :
    fs.get? (placeIn fs₀ root names v) = none ↔ FindsRoom fs₀ root names done v := by
  have hother : baseName v ∉ done.map baseName →
      fs.contentAt (placeIn fs₀ root names v) = fs₀.contentAt (placeIn fs₀ root names v) := by
    intro hbase
    apply h.others
    intro w hw hwout
    constructor
    · intro heq
      exact hwout ((placeIn_eq_iff (h.below w hw).ne_root).1 heq).1
    · intro heq
      exact hbase (placeIn_inj.1 heq ▸ List.mem_map_of_mem hw)
  unfold FindsRoom
  rw [or_iff_right hout, FileSystem.get?_eq_none_iff, FileSystem.get?_eq_none_iff,
    h.isDirectoryAt_placeIn]
  constructor
  · rintro ⟨hdir, hnone⟩
    have hbase : baseName v ∉ done.map baseName := by
      intro hmem
      obtain ⟨w, hw, heq⟩ := List.mem_map.1 hmem
      have hthere := h.moved w hw
      obtain ⟨content, hcontent⟩ := (h.below w hw).content
      rw [placeIn_inj.2 heq, hcontent, ← FileSystem.contentAt_eq_some, hnone] at hthere
      cases hthere
    rw [← hother hbase]
    exact ⟨⟨hdir, hnone⟩, hbase⟩
  · rintro ⟨⟨hdir, hnone⟩, hbase⟩
    rw [hother hbase]
    exact ⟨hdir, hnone⟩

section

variable (h : Gathered fs₀ root names done fs) (hv : IsFileBelow fs₀ root v)
  (hnew : v.relative ∉ done.map (·.relative))

include h hv hnew

/-- A file whose turn has not come is where it was. -/
theorem get?_source : fs.get? (fs₀.reading root ++ v.relative) = some v.entry := by
  obtain ⟨content, hcontent⟩ := hv.content
  have hbefore := hv.get?
  rw [hcontent, ← FileSystem.contentAt_eq_some] at hbefore ⊢
  rw [h.others, hbefore]
  intro w hw hout
  constructor
  · intro heq
    rw [List.append_cancel_left_eq] at heq
    exact hnew (heq ▸ List.mem_map_of_mem hw)
  · -- Nothing was where another file has moved.
    intro heq
    have hfree := h.free w hw hout
    rw [← heq, hv.get?] at hfree
    cases hfree

/-- Files that were in the directory have other names than those that have moved there. -/
theorem baseName_notMem (hin : LiesIn names v) : baseName v ∉ done.map baseName := by
  intro hmem
  obtain ⟨w, hw, heq⟩ := List.mem_map.1 hmem
  have hplace : placeIn fs₀ root names w = fs₀.reading root ++ v.relative :=
    (placeIn_eq_iff hv.ne_root).2 ⟨hin, heq⟩
  by_cases hwin : LiesIn names w
  · have hself : placeIn fs₀ root names w = fs₀.reading root ++ w.relative :=
      (placeIn_eq_iff (h.below w hw).ne_root).2 ⟨hwin, rfl⟩
    rw [hplace, List.append_cancel_left_eq] at hself
    exact hnew (hself ▸ List.mem_map_of_mem hw)
  · have hfree := h.free w hw hwin
    rw [hplace, hv.get?] at hfree
    cases hfree

theorem distinct_concat (hroom : FindsRoom fs₀ root names done v) :
    ((done ++ [v]).map baseName).Nodup := by
  have hbase : baseName v ∉ done.map baseName := by
    rcases hroom with hin | ⟨-, hbase⟩
    · exact h.baseName_notMem hv hnew hin
    · exact hbase
  rw [List.map_append, List.map_singleton, ← List.concat_eq_append, List.nodup_concat]
  exact ⟨hbase, h.distinct⟩

/-- Behind a file that is in the directory already. -/
theorem concat_kept (hin : LiesIn names v) : Gathered fs₀ root names (done ++ [v]) fs where
  wellFormed := h.wellFormed
  current := h.current
  below := List.forall_mem_append.2 ⟨h.below, List.forall_mem_singleton.2 hv⟩
  directories := h.directories
  moved := List.forall_mem_append.2 ⟨h.moved, List.forall_mem_singleton.2 (by
    rw [(placeIn_eq_iff hv.ne_root).2 ⟨hin, rfl⟩]
    exact h.get?_source hv hnew)⟩
  gone := List.forall_mem_append.2 ⟨h.gone, List.forall_mem_singleton.2 (absurd hin)⟩
  others := fun l hl => h.others l fun w hw => hl w (List.mem_append_left _ hw)
  free := List.forall_mem_append.2 ⟨h.free, List.forall_mem_singleton.2 (absurd hin)⟩
  distinct := h.distinct_concat hv hnew (.inl hin)

/-- Behind a file that has moved to the place where it finds room. -/
theorem concat_moved (hout : ¬ LiesIn names v) (hroom : FindsRoom fs₀ root names done v) :
    Gathered fs₀ root names (done ++ [v])
      (fs.moveTree (fs₀.reading root ++ v.relative) (placeIn fs₀ root names v)) := by
  have hsource := h.get?_source hv hnew
  have hnone := (h.get?_placeIn hout).2 hroom
  obtain ⟨content, hcontent⟩ := hv.content
  rw [hcontent] at hsource
  have hne : placeIn fs₀ root names v ≠ [] := by simp [placeIn]
  have hapart : placeIn fs₀ root names v ≠ fs₀.reading root ++ v.relative := fun heq =>
    hout ((placeIn_eq_iff hv.ne_root).1 heq).1
  have hdirectory : fs.isDirectoryAt (fs₀.reading root ++ names) :=
    (h.directories _).2 (.inr ⟨List.prefix_append _ names, List.prefix_refl _⟩)
  have hname : IsName (baseName v) := h.wellFormed.isName_of_mem (by rw [hsource]; rfl)
    (List.mem_append_right _ (baseName_mem hv.ne_root))
  have hslot : fs.IsSlot (placeIn fs₀ root names v) := {
    below_root := hne
    named := fun name hlast => by
      unfold placeIn at hlast
      rw [List.getLast?_concat] at hlast
      exact Option.some.inj hlast ▸ hname
    in_directory := by
      unfold placeIn
      rwa [List.dropLast_concat] }
  obtain ⟨hwell, hcurrent, hdirs⟩ := h.wellFormed.moveTree_file hsource hslot hnone
  have hget := FileSystem.get?_moveTree_file h.wellFormed hsource hne hnone
  refine {
    wellFormed := hwell
    current := hcurrent.trans h.current
    below := List.forall_mem_append.2 ⟨h.below, List.forall_mem_singleton.2 hv⟩
    directories := fun l => (hdirs l).trans (h.directories l)
    moved := List.forall_mem_append.2 ⟨fun w hw => ?_, List.forall_mem_singleton.2 ?_⟩
    gone := List.forall_mem_append.2 ⟨fun w hw hwout => ?_, List.forall_mem_singleton.2 fun _ => ?_⟩
    others := fun l hl => ?_
    free := List.forall_mem_append.2 ⟨h.free, List.forall_mem_singleton.2 fun _ =>
      (hroom.resolve_left hout).1⟩
    distinct := h.distinct_concat hv hnew hroom }
  · have hbase : placeIn fs₀ root names w ≠ placeIn fs₀ root names v := fun heq =>
      (hroom.resolve_left hout).2 (placeIn_inj.1 heq ▸ List.mem_map_of_mem hw)
    have hfrom : placeIn fs₀ root names w ≠ fs₀.reading root ++ v.relative := fun heq =>
      hout ((placeIn_eq_iff hv.ne_root).1 heq).1
    rw [hget, if_neg hbase, if_neg hfrom]
    exact h.moved w hw
  · rw [hget, if_pos rfl, hcontent]
  · have hplace : fs₀.reading root ++ w.relative ≠ placeIn fs₀ root names v := fun heq =>
      hwout ((placeIn_eq_iff (h.below w hw).ne_root).1 heq.symm).1
    rw [hget, if_neg hplace]
    split
    · rfl
    · exact h.gone w hw hwout
  · rw [hget, if_neg (Ne.symm hapart), if_pos rfl]
  · obtain ⟨hfrom, hto⟩ := hl v (List.mem_append_right _ (List.mem_singleton_self v)) hout
    rw [← h.others l fun w hw => hl w (List.mem_append_left _ hw)]
    unfold FileSystem.contentAt
    rw [hget, if_neg hto, if_neg hfrom]

end

end Gathered

end Scaffold.Staging
