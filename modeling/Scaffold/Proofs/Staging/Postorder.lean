import Scaffold.Proofs.Staging.Selecting
import Scaffold.Proofs.Text.Bytes

/-! # The order of a collection

  A collection lists what a directory holds before the directory, and goes
  through one directory in a fixed way: first the subdirectories with all that
  they hold, by their names, and then the files, by their names. The order of
  names is that of their bytes. This decides which of any two entries comes
  first, so that only one list is in order.

  - `Earlier`: which of two entries comes first.
  - `IsPostorder`: a list of all wanted entries in this order.
  - `isPostorder_iff`: the collection is the only such list.
-/

namespace Scaffold.FileSystem

variable {fs fs' : FileSystem} {l dir : Location} {v w : Visited} {wanted : Visited → Bool}
  {found : List Visited}

/-! ### The place of two elements in a list -/

/-- In the list the first element stands before the second one. -/
def Precedes {α : Type} (found : List α) (x y : α) : Prop := [x, y].Sublist found

theorem precedes_or {α : Type} {found : List α} {x y : α} (hx : x ∈ found) (hy : y ∈ found)
    (hne : x ≠ y) : Precedes found x y ∨ Precedes found y x := by
  unfold Precedes
  induction found with
  | nil => cases hx
  | cons z rest ih =>
    rcases List.mem_cons.1 hx with rfl | hxrest
    · have hyrest : y ∈ rest := (List.mem_cons.1 hy).resolve_left (Ne.symm hne)
      exact .inl (List.cons_sublist_cons.2 (List.singleton_sublist.2 hyrest))
    · rcases List.mem_cons.1 hy with rfl | hyrest
      · exact .inr (List.cons_sublist_cons.2 (List.singleton_sublist.2 hxrest))
      · exact (ih hxrest hyrest).imp (·.cons z) (·.cons z)

/-- An element that occurs once does not stand before and behind another one. -/
theorem not_precedes {α : Type} {found : List α} {x y : α} (hnodup : found.Nodup)
    (h : Precedes found x y) : ¬ Precedes found y x := by
  unfold Precedes at h ⊢
  intro hback
  induction found with
  | nil => cases h
  | cons z rest ih =>
    obtain ⟨hz, hrest⟩ := List.nodup_cons.1 hnodup
    have hmem : ∀ u, [u].Sublist rest → u ∈ rest := fun u => List.singleton_sublist.1
    cases h with
    | cons _ h =>
      cases hback with
      | cons _ hback => exact ih hrest h hback
      | cons_cons _ hback => exact hz (h.subset (by simp))
    | cons_cons _ h =>
      cases hback with
      | cons _ hback => exact hz (hback.subset (by simp))
      | cons_cons _ hback => exact hz (hmem _ h)

/-- If no element of a kind stands behind another element, those of the kind stand in front. -/
theorem filter_eq_takeWhile {α : Type} {found : List α} {p : α → Bool}
    (h : ∀ x y, [x, y].Sublist found → p y = true → p x = true) :
    found.filter p = found.takeWhile p := by
  induction found with
  | nil => rfl
  | cons x rest ih =>
    cases hx : p x with
    | true =>
      rw [List.filter_cons_of_pos hx, List.takeWhile_cons_of_pos hx]
      exact congrArg (x :: ·) (ih fun y z hsub => h y z (hsub.cons x))
    | false =>
      have hx' : ¬ p x = true := by simp [hx]
      rw [List.filter_cons_of_neg hx', List.takeWhile_cons_of_neg hx', List.filter_eq_nil_iff]
      intro y hy hpy
      exact hx' (h x y (List.cons_sublist_cons.2 (List.singleton_sublist.2 hy)) hpy)

/-- Elements of a kind that nothing else stands between are neighbours. -/
theorem filter_isInfix {α : Type} {found : List α} {p : α → Bool}
    (h : ∀ x y z, [x, y, z].Sublist found → p x = true → p z = true → p y = true) :
    found.filter p <:+: found := by
  induction found with
  | nil => exact List.infix_refl []
  | cons x rest ih =>
    cases hx : p x with
    | false =>
      rw [List.filter_cons_of_neg (by simp [hx])]
      exact (ih fun y z u hsub => h y z u (hsub.cons x)).trans (List.suffix_cons x rest).isInfix
    | true =>
      -- Behind the run that begins here there is no other element of the kind.
      have hrun : rest.filter p = rest.takeWhile p :=
        filter_eq_takeWhile fun y z hsub => h x y z (List.cons_sublist_cons.2 hsub) hx
      rw [List.filter_cons_of_pos hx, hrun]
      exact (List.cons_prefix_cons.2 ⟨rfl, List.takeWhile_prefix p⟩).isInfix

/-- Two lists go the same way until one of them ends, or they part at some element. -/
theorem prefix_or_parts {α : Type} (a b : List α) : a <+: b ∨ b <+: a ∨
    ∃ front x y rest rest', x ≠ y ∧ a = front ++ x :: rest ∧ b = front ++ y :: rest' := by
  induction a generalizing b with
  | nil => exact .inl List.nil_prefix
  | cons x a ih =>
    cases b with
    | nil => exact .inr (.inl List.nil_prefix)
    | cons y b =>
      by_cases hxy : x = y
      · subst hxy
        rcases ih b with hpre | hpre | ⟨front, u, u', rest, rest', hne, rfl, rfl⟩
        · exact .inl (List.cons_prefix_cons.2 ⟨rfl, hpre⟩)
        · exact .inr (.inl (List.cons_prefix_cons.2 ⟨rfl, hpre⟩))
        · exact .inr (.inr ⟨x :: front, u, u', rest, rest', hne, rfl, rfl⟩)
      · exact .inr (.inr ⟨[], x, y, a, b, hxy, rfl, rfl⟩)

/-! ### Which of two entries comes first -/

/-- The bytes of the first name come first in the order of bytes. -/
def NameLt (a b : String) : Prop := a.toUTF8.toList < b.toUTF8.toList

instance (a b : String) : Decidable (NameLt a b) :=
  inferInstanceAs (Decidable (a.toUTF8.toList < b.toUTF8.toList))

theorem nameLt_iff {a b : String} : NameLt a b ↔ a < b := Text.bytes_lt_iff

/-- The first entry comes before the second one. Both are found on a walk from `l`. -/
inductive Earlier (fs : FileSystem) (l : Location) : Visited → Visited → Prop where
  /-- What a directory holds comes before the directory. -/
  | held {v w : Visited} : w.relative <+: v.relative → w.relative ≠ v.relative → Earlier fs l v w
  /-- A subdirectory and all that it holds come before the files of the same directory. -/
  | directoryFile {v w : Visited} {dir : Location} {a b : String} :
      fs.isDirectoryAt (l ++ (dir ++ [a])) → dir ++ [a] <+: v.relative →
      w.relative = dir ++ [b] → w.entry.isFile = true → Earlier fs l v w
  /-- Of two subdirectories of a directory, the one with the smaller name and all that it holds come
  before the other one and all that that holds. -/
  | directories {v w : Visited} {dir : Location} {a b : String} :
      fs.isDirectoryAt (l ++ (dir ++ [a])) → fs.isDirectoryAt (l ++ (dir ++ [b])) → NameLt a b →
      dir ++ [a] <+: v.relative → dir ++ [b] <+: w.relative → Earlier fs l v w
  /-- Of two files of a directory, the one with the smaller name comes first. -/
  | files {v w : Visited} {dir : Location} {a b : String} :
      v.relative = dir ++ [a] → w.relative = dir ++ [b] → v.entry.isFile = true →
      w.entry.isFile = true → NameLt a b → Earlier fs l v w

/-- The list holds the wanted entries below `l` in order. -/
structure IsPostorder (fs : FileSystem) (l : Location) (wanted : Visited → Bool)
    (found : List Visited) : Prop where
  /-- It holds every wanted entry below the location and nothing else, not even the location. -/
  mem_iff : ∀ v, v ∈ found ↔
    (v.relative ≠ [] ∧ fs.get? (l ++ v.relative) = some v.entry) ∧ wanted v = true
  /-- It holds no entry twice. -/
  nodup : (found.map (·.relative)).Nodup
  /-- What comes before something else stands before it. -/
  ordered : ∀ v ∈ found, ∀ w ∈ found, Earlier fs l v w → Precedes found v w
  /-- What lies at and below one place stands together. -/
  contiguous : ∀ place : Location,
    found.filter (fun v => place.isPrefixOf v.relative) <:+: found

/-- What lies below the place of an entry makes it a directory. -/
theorem isDirectoryAt_above (hfs : fs.WellFormed)
    (hv : fs.get? (l ++ v.relative) = some v.entry) (hpre : dir <+: v.relative)
    (hne : dir ≠ v.relative) : fs.isDirectoryAt (l ++ dir) := by
  apply hfs.isDirectoryAt_of_prefix (l := l ++ v.relative)
  · rw [hv]
    rfl
  · exact (List.prefix_append_right_inj l).2 hpre
  · simpa using hne

theorem entry_of_isDirectoryAt (hv : fs.get? (l ++ v.relative) = some v.entry)
    (hdir : fs.isDirectoryAt (l ++ v.relative)) : v.entry.isDirectory = true := by
  rw [isDirectoryAt_iff, hv] at hdir
  rw [Option.some.inj hdir]
  rfl

/-- The entry comes before the other one by its steps. -/
def Visited.Before (v w : Visited) : Prop := ¬ stepsLe w.steps v.steps

/-- The steps to what lies at or below a directory begin with those to the directory. -/
theorem steps_of_within (hv : fs.get? (l ++ v.relative) = some v.entry)
    (hdir : fs.isDirectoryAt (l ++ dir)) (h : dir <+: v.relative) :
    ∃ more, v.steps = dir.map (true, ·) ++ more := by
  obtain ⟨rest, hrest⟩ := h
  by_cases hself : rest = []
  · rw [hself, List.append_nil] at hrest
    rw [hrest] at hdir
    have hentry := entry_of_isDirectoryAt hv hdir
    exact ⟨[], by rw [List.append_nil, Visited.steps_of_directory hentry, hrest]⟩
  · exact ⟨_, Visited.steps_append hrest.symm hself⟩

theorem steps_of_isFile {a : String} (hv : v.relative = dir ++ [a])
    (hfile : v.entry.isFile = true) : v.steps = dir.map (true, ·) ++ [(false, a)] := by
  have hdir : v.entry.isDirectory = false := by simpa [Entry.isFile] using hfile
  simp [Visited.steps, hv, hdir]

/-- What comes first comes first by its steps. -/
theorem Earlier.before (h : Earlier fs l v w) (hv : fs.get? (l ++ v.relative) = some v.entry)
    (hw : fs.get? (l ++ w.relative) = some w.entry) (hfs : fs.WellFormed) : v.Before w := by
  unfold Visited.Before
  cases h with
  | held hpre hne =>
    have hdir := entry_of_isDirectoryAt hw (isDirectoryAt_above hfs hv hpre hne)
    exact fun hle => not_prefix_of_stepsLe hdir hne hle hpre
  | directoryFile hdir hpre hname hfile =>
    obtain ⟨more, hsteps⟩ := steps_of_within hv hdir hpre
    rw [List.map_append, List.append_assoc] at hsteps
    rw [hsteps, steps_of_isFile hname hfile]
    exact not_stepsLe_of_stepLt (.inl ⟨rfl, rfl⟩) _ _ _
  | @directories dir a b hdir hdir' hlt hpre hpre' =>
    have hstep : StepLt (true, a) (true, b) := .inr ⟨rfl, nameLt_iff.1 hlt⟩
    obtain ⟨more, hsteps⟩ := steps_of_within hv hdir hpre
    obtain ⟨more', hsteps'⟩ := steps_of_within hw hdir' hpre'
    rw [List.map_append, List.append_assoc] at hsteps hsteps'
    rw [hsteps, hsteps']
    exact not_stepsLe_of_stepLt hstep _ _ _
  | @files dir a b hname hname' hfile hfile' hlt =>
    have hstep : StepLt (false, a) (false, b) := .inr ⟨rfl, nameLt_iff.1 hlt⟩
    rw [steps_of_isFile hname hfile, steps_of_isFile hname' hfile']
    exact not_stepsLe_of_stepLt hstep _ _ _

/-- The first name behind a directory is that of a subdirectory, or of the entry, which is a
file. -/
theorem directory_or_file {a : String} {rest : Location} (hfs : fs.WellFormed)
    (hv : fs.get? (l ++ v.relative) = some v.entry) (hname : v.relative = dir ++ a :: rest) :
    (fs.isDirectoryAt (l ++ (dir ++ [a])) ∧ dir ++ [a] <+: v.relative) ∨
      (v.relative = dir ++ [a] ∧ v.entry.isFile = true) := by
  have hpre : dir ++ [a] <+: v.relative := ⟨rest, by rw [hname, List.append_assoc]; rfl⟩
  by_cases hself : rest = []
  · rw [hself] at hname
    cases hentry : v.entry with
    | directory =>
      refine .inl ⟨?_, hpre⟩
      rw [isDirectoryAt_iff, ← hname, hv, hentry]
    | file content => exact .inr ⟨hname, rfl⟩
  · refine .inl ⟨isDirectoryAt_above hfs hv hpre ?_, hpre⟩
    rw [hname]
    simpa using Ne.symm hself

/-- Of two different entries one comes first. -/
theorem earlier_or (hfs : fs.WellFormed) (hv : fs.get? (l ++ v.relative) = some v.entry)
    (hw : fs.get? (l ++ w.relative) = some w.entry) (hne : v.relative ≠ w.relative) :
    Earlier fs l v w ∨ Earlier fs l w v := by
  rcases prefix_or_parts v.relative w.relative with
    hpre | hpre | ⟨dir, a, b, rest, rest', hab, hvname, hwname⟩
  · exact .inr (.held hpre hne)
  · exact .inl (.held hpre hne.symm)
  · have hlt : NameLt a b ∨ NameLt b a := by
      rw [nameLt_iff, nameLt_iff]
      rcases String.le_total a b with hle | hle
      · exact .inl (Std.lt_of_le_of_ne hle hab)
      · exact .inr (Std.lt_of_le_of_ne hle hab.symm)
    rcases directory_or_file hfs hv hvname with ⟨hdir, hpre⟩ | ⟨hname, hfile⟩
    · rcases directory_or_file hfs hw hwname with ⟨hdir', hpre'⟩ | ⟨hname', hfile'⟩
      · exact hlt.imp (.directories hdir hdir' · hpre hpre') (.directories hdir' hdir · hpre' hpre)
      · exact .inl (.directoryFile hdir hpre hname' hfile')
    · rcases directory_or_file hfs hw hwname with ⟨hdir', hpre'⟩ | ⟨hname', hfile'⟩
      · exact .inr (.directoryFile hdir' hpre' hname hfile)
      · exact hlt.imp (.files hname hname' hfile hfile' ·) (.files hname' hname hfile' hfile ·)

/-! ### The only list in order -/

theorem Visited.Before.asymm (h : v.Before w) : ¬ w.Before v := by
  intro hback
  have htotal := stepsLe_total v.steps w.steps
  rw [Bool.or_eq_true] at htotal
  exact htotal.elim hback h

/-- Between two entries at or below a place there are only such. -/
theorem prefix_of_between {place : Location} {u : Visited}
    (hfs : fs.WellFormed) (hv : fs.get? (l ++ v.relative) = some v.entry)
    (hw : fs.get? (l ++ w.relative) = some w.entry) (hvw : v.relative ≠ w.relative)
    (hvu : v.Before u) (huw : u.Before w) (hvplace : place <+: v.relative)
    (hwplace : place <+: w.relative) : place <+: u.relative := by
  -- Two entries at or below the place make it a directory.
  have hdir : fs.isDirectoryAt (l ++ place) := by
    by_cases hself : place = v.relative
    · exact isDirectoryAt_above hfs hw hwplace (hself ▸ hvw)
    · exact isDirectoryAt_above hfs hv hvplace hself
  obtain ⟨a, ha⟩ := steps_of_within hv hdir hvplace
  obtain ⟨b, hb⟩ := steps_of_within hw hdir hwplace
  have hle : ∀ {x y : Visited}, x.Before y → stepsLe x.steps y.steps := by
    intro x y hxy
    have htotal := stepsLe_total x.steps y.steps
    rw [Bool.or_eq_true] at htotal
    exact htotal.resolve_right hxy
  have hvu' := hle hvu
  have huw' := hle huw
  rw [ha] at hvu'
  rw [hb] at huw'
  obtain ⟨more, hmore⟩ := exists_append_of_stepsLe hvu' huw'
  refine ⟨more.map Prod.snd, ?_⟩
  rw [← u.map_snd_steps, hmore, List.map_append, List.map_map]
  simp [Function.comp_def]

namespace IsPostorder

/-- The wanted entries are in order if they stand in the order of their steps. -/
theorem of_before (hfs : fs.WellFormed)
    (hmem : ∀ v, v ∈ found ↔
      (v.relative ≠ [] ∧ fs.get? (l ++ v.relative) = some v.entry) ∧ wanted v = true)
    (h : found.Pairwise Visited.Before) : IsPostorder fs l wanted found := by
  have hget : ∀ v ∈ found, fs.get? (l ++ v.relative) = some v.entry :=
    fun v hv => ((hmem v).1 hv).1.2
  -- Entries of the same place are the same, and none comes before itself.
  have hsame : ∀ v ∈ found, ∀ w ∈ found, v.relative = w.relative → v = w := by
    intro v hv w hw heq
    have hentry := hget v hv
    rw [heq, hget w hw] at hentry
    cases v
    cases w
    exact congr (congrArg Visited.mk heq) (Option.some.inj hentry).symm
  have hdistinct : (found.map (·.relative)).Nodup := by
    refine List.pairwise_map.2 (h.imp_of_mem ?_)
    intro v w hv hw hbefore heq
    obtain rfl := hsame v hv w hw heq
    exact hbefore.asymm hbefore
  refine ⟨hmem, hdistinct, ?_, ?_⟩
  · intro v hv w hw hearlier
    have hbefore := hearlier.before (hget v hv) (hget w hw) hfs
    have hne : v ≠ w := by
      rintro rfl
      exact hbefore.asymm hbefore
    refine (precedes_or hv hw hne).resolve_right fun hback => ?_
    exact hbefore.asymm (h.forall_sublist hback)
  · intro place
    apply filter_isInfix
    intro x y z hsub hx hz
    rw [List.isPrefixOf_iff_prefix] at hx hz ⊢
    have hxmem : x ∈ found := hsub.subset (by simp)
    have hzmem : z ∈ found := hsub.subset (by simp)
    obtain ⟨hbehind, hrest⟩ := List.pairwise_cons.1 (h.sublist hsub)
    have hxy : x.Before y := hbehind y (by simp)
    have hyz : y.Before z := (List.pairwise_cons.1 hrest).1 z (by simp)
    have hxz : x.relative ≠ z.relative := by
      intro heq
      have hbefore : x.Before z := hbehind z (by simp)
      rw [hsame x hxmem z hzmem heq] at hbefore
      exact hbefore.asymm hbefore
    exact prefix_of_between hfs (hget x hxmem) (hget z hzmem) hxz hxy hyz hx hz

/-- What is in order stands in the order of its steps. -/
theorem pairwise_before (h : IsPostorder fs l wanted found) (hfs : fs.WellFormed) :
    found.Pairwise Visited.Before := by
  rw [List.pairwise_iff_forall_sublist]
  intro v w hsub
  have hv := hsub.subset (show v ∈ [v, w] by simp)
  have hw := hsub.subset (show w ∈ [v, w] by simp)
  have hvget := ((h.mem_iff v).1 hv).1.2
  have hwget := ((h.mem_iff w).1 hw).1.2
  have hne : v.relative ≠ w.relative :=
    (List.pairwise_map.1 h.nodup).forall_sublist hsub
  rcases earlier_or hfs hvget hwget hne with hearlier | hearlier
  · exact hearlier.before hvget hwget hfs
  · exact absurd (h.ordered w hw v hv hearlier) (not_precedes h.nodup.of_map hsub)

/-- Only one list is in order. -/
theorem unique {other : List Visited} (h : IsPostorder fs l wanted found)
    (hother : IsPostorder fs l wanted other) (hfs : fs.WellFormed) : other = found := by
  have hperm : other.Perm found := by
    rw [List.perm_ext_iff_of_nodup hother.nodup.of_map h.nodup.of_map]
    intro v
    rw [hother.mem_iff, h.mem_iff]
  refine hperm.eq_of_pairwise ?_ (hother.pairwise_before hfs) (h.pairwise_before hfs)
  intro v w _ _ hvw hwv
  exact absurd hwv hvw.asymm

end IsPostorder

/-- A walk that lists contents first has the entries in order, and so has what is left of it when
some entries are left out. -/
theorem isPostorder_collectContentsFirst (hfs : fs.WellFormed) (l : Location)
    (wanted : Visited → Bool) :
    IsPostorder fs l wanted ((fs.collectContentsFirst l).filter wanted) := by
  apply IsPostorder.of_before hfs
  · intro v
    rw [List.mem_filter, mem_collectContentsFirst_iff hfs]
  · have hdistinct := List.pairwise_map.1 (nodup_collectContentsFirst hfs l)
    refine List.Pairwise.filter _ (((collectContentsFirst_pairwise fs l).and hdistinct).imp ?_)
    rintro v w ⟨hle, hne⟩ hback
    have hsteps := stepsLe_antisymm _ _ hle hback
    exact hne (by rw [← v.map_snd_steps, hsteps, w.map_snd_steps])

/-- The filtered walk is the only list of the wanted entries that is in order. -/
theorem isPostorder_iff (hfs : fs.WellFormed) : IsPostorder fs l wanted found ↔
    found = (fs.collectContentsFirst l).filter wanted := by
  have hwalk := isPostorder_collectContentsFirst hfs l wanted
  exact ⟨fun h => hwalk.unique h hfs, fun h => h ▸ hwalk⟩

end Scaffold.FileSystem
