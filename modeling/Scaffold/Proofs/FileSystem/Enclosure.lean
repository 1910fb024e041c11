import Mathlib.Data.List.Infix
import Scaffold.Proofs.FileSystem.Preservation
import Scaffold.Proofs.FileSystem.Visiting

/-! # Work below a directory

  Work that is done below a directory leaves everything else as it is, and the
  directory where it is. A path that is joined to the path of the directory
  stays below it if no beginning of it leads above.

  - `StaysInside`: names that never lead above where they are followed from.
  - `Enclosed`: what has changed lies below a root.
  - `Enclosed.createDirectories`, `Enclosed.rename`: one statement per operation
    that names a place.
-/

namespace Scaffold

open Scaffold.Path (IsIdle IsPlain)

namespace FileSystem

variable {fs₀ fs fs' : FileSystem} {l m : Location} {root p q : Path} {content : ByteArray}

/-! ### Below a location -/

/-- Whether a location is below another one. -/
def isBelow (l m : Location) : Bool := l.isPrefixOf m && l != m

theorem isBelow_iff : isBelow l m = true ↔ l <+: m ∧ l ≠ m := by
  simp [isBelow]

theorem isBelow_append {rest : Location} (h : rest ≠ []) : isBelow l (l ++ rest) = true :=
  isBelow_iff.2 ⟨List.prefix_append l rest, by simpa using h⟩

/-- What a location or something below it holds is below the location. -/
theorem isBelow_concat (h : l <+: m) (name : String) : isBelow l (m ++ [name]) = true := by
  refine isBelow_iff.2 ⟨h.trans (List.prefix_append m [name]), ?_⟩
  rintro rfl
  have hle := h.length_le
  rw [List.length_append, List.length_singleton] at hle
  omega

theorem isBelow_of_le {k : Location} (h : isBelow l m = true) (hmk : m <+: k) :
    isBelow l k = true := by
  obtain ⟨hlm, hne⟩ := isBelow_iff.1 h
  refine isBelow_iff.2 ⟨hlm.trans hmk, ?_⟩
  rintro rfl
  exact hne (hlm.eq_of_length_le hmk.length_le)

/-- Nothing is below a location and not below the root of the file system. -/
theorem ne_root_of_isBelow (h : isBelow l m = true) : m ≠ [] := by
  rintro rfl
  obtain ⟨hpre, hne⟩ := isBelow_iff.1 h
  exact hne (List.prefix_nil.1 hpre)

theorem filter_insertEntry (keep : Location → Bool) (hl : keep l = false) (entry : Entry)
    (entries : List (Location × Entry)) :
    (insertEntry l entry entries).filter (fun e => keep e.1) =
      entries.filter fun e => keep e.1 := by
  induction entries with
  | nil => simp [insertEntry, hl]
  | cons e rest ih =>
    unfold insertEntry
    split
    · next he => simp [he, hl]
    · rw [List.filter_cons, List.filter_cons, ih]

/-! ### Names that stay inside -/

/-- Names that never lead above where they are followed from: no beginning of them has more `..`
than other names. -/
def StaysInside (names : List String) : Prop :=
  ∀ front ∈ names.inits, 2 * front.count ".." ≤ front.length

instance (names : List String) : Decidable (StaysInside names) :=
  inferInstanceAs (Decidable (∀ front ∈ names.inits, _))

theorem StaysInside.of_prefix {names front : List String} (h : StaysInside names)
    (hfront : front <+: names) : StaysInside front := fun a ha =>
  h a ((List.mem_inits a names).2 (((List.mem_inits a front).1 ha).trans hfront))

/-- Plain names only lead down. -/
theorem staysInside_of_plain {names : List String} (h : ∀ name ∈ names, IsPlain name) :
    StaysInside names := by
  intro front hfront
  have hcount : front.count ".." = 0 := by
    refine List.count_eq_zero.2 fun hup => ?_
    exact (h ".." (((List.mem_inits front names).1 hfront).subset hup)).2 rfl
  omega

/-- Names that stay inside lead to a location below, as deep as they say. -/
theorem exists_readNames {names : List String} (hidle : ∀ name ∈ names, ¬ IsIdle name)
    (h : StaysInside names) (l : Location) :
    ∃ down, readNames l names = l ++ down ∧ down.length + 2 * names.count ".." = names.length := by
  induction names using List.reverseRecOn with
  | nil => exact ⟨[], (List.append_nil l).symm, rfl⟩
  | append_singleton front name ih =>
    obtain ⟨down, hdown, hlength⟩ := ih (fun n hn => hidle n (List.mem_append_left [name] hn))
      (h.of_prefix (List.prefix_append front [name]))
    have hturn : readNames l (front ++ [name]) = turn (l ++ down) name := by
      rw [readNames_append, hdown]
      rfl
    have hname : ¬ IsIdle name := hidle name (by simp)
    by_cases hup : name = ".."
    · -- There is room for one more step up.
      subst hup
      have hroom := h (front ++ [".."]) ((List.mem_inits _ _).2 (List.prefix_refl _))
      rw [List.count_append, List.count_singleton_self, List.length_append,
        List.length_singleton] at hroom
      have hne : down ≠ [] := by
        rintro rfl
        rw [List.length_nil] at hlength
        omega
      have hpos : 0 < down.length := List.length_pos_iff.2 hne
      refine ⟨down.dropLast, ?_, ?_⟩
      · rw [hturn, turn, if_neg hname, if_pos rfl, List.dropLast_append_of_ne_nil hne]
      · rw [List.length_dropLast, List.count_append, List.count_singleton_self,
          List.length_append, List.length_singleton]
        omega
    · refine ⟨down ++ [name], ?_, ?_⟩
      · rw [hturn, turn_plain ⟨hname, hup⟩, List.append_assoc]
      · have hcount : [name].count ".." = 0 := by simp [hup]
        rw [List.length_append, List.count_append, hcount, List.length_append]
        simp only [List.length_singleton]
        omega

/-- Names that stay inside do so at every step. -/
theorem StaysInside.prefix_readNames {names front : List String} (h : StaysInside names)
    (hidle : ∀ name ∈ names, ¬ IsIdle name) (hfront : front <+: names) (l : Location) :
    l <+: readNames l front := by
  obtain ⟨down, hdown, -⟩ := exists_readNames (fun n hn => hidle n (hfront.subset hn))
    (h.of_prefix hfront) l
  rw [hdown]
  exact List.prefix_append l down

/-! ### Paths that stay inside -/

/-- A path that passes the root and goes on by names that stay inside. -/
structure Inside (root : Path) (rest : List String) (p : Path) : Prop where
  /-- It begins as the path of the root. -/
  isAbsolute : p.isAbsolute = root.isAbsolute
  /-- It passes the root. -/
  steps : p.steps = root.steps ++ rest
  /-- From there it does not lead above. -/
  inside : StaysInside rest

/-- A path that leads down from the root by the names `rest`. -/
structure Descends (root : Path) (rest : List String) (p : Path) : Prop where
  /-- It begins as the path of the root. -/
  isAbsolute : p.isAbsolute = root.isAbsolute
  /-- It passes the root. -/
  steps : p.steps = root.steps ++ rest
  /-- From there it leads down only. -/
  plain : ∀ name ∈ rest, IsPlain name

/-- No step of a path leads nowhere. -/
theorem not_isIdle_of_mem_steps {name : String} (h : name ∈ p.steps) : ¬ IsIdle name := by
  simpa using (List.mem_filter.1 h).2

namespace Inside

variable {rest front : List String} {text : String}

theorem not_isIdle (h : Inside root rest p) {name : String} (hname : name ∈ rest) :
    ¬ IsIdle name :=
  not_isIdle_of_mem_steps (p := p) (h.steps ▸ List.mem_append_right root.steps hname)

theorem reading (h : Inside root rest p) : fs.reading p = readNames (fs.reading root) rest := by
  rw [reading_eq_steps, reading_eq_steps, h.steps, readNames_append, origin_eq rfl h.isAbsolute]

/-- On its way behind the root the path is below it. -/
theorem prefix_readNames (h : Inside root rest p) (hfront : front <+: rest) (l : Location) :
    l <+: readNames l front :=
  h.inside.prefix_readNames (fun _ => h.not_isIdle) hfront l

/-- What is joined to the root stays inside if its text does. -/
theorem join_root (hroot : root.text ≠ "") (hrel : Path.isAbsolute ⟨text⟩ = false)
    (hinside : StaysInside (Path.steps ⟨text⟩)) :
    Inside root (Path.steps ⟨text⟩) (root.join text) where
  isAbsolute := Path.isAbsolute_join hroot hrel
  steps := Path.steps_join hroot hrel
  inside := hinside

/-- A file of the directory where a path leads is below the root. -/
theorem isBelow_join {name : String} (h : Inside root rest p) (hp : p.text ≠ "")
    (hname : IsName name) :
    isBelow (fs.reading root) (fs.reading (p.join name)) = true := by
  obtain ⟨hsteps, hrel⟩ := Path.steps_of_name hname
  have hone : ∀ n ∈ [name], IsPlain n := by simpa using hname.isPlain
  rw [reading_join hp hrel, hsteps, readNames_plain hone, h.reading]
  exact isBelow_concat (h.prefix_readNames (List.prefix_refl rest) _) name

end Inside

namespace Descends

variable {rest : List String} {v : Visited} {text name : String}

theorem toInside (h : Descends root rest p) : Inside root rest p :=
  ⟨h.isAbsolute, h.steps, staysInside_of_plain h.plain⟩

theorem reading (h : Descends root rest p) : fs.reading p = fs.reading root ++ rest :=
  reading_of_steps h.isAbsolute h.steps h.plain

theorem path (hroot : root.text ≠ "") (h : ∀ n ∈ v.relative, IsName n) :
    Descends root v.relative (v.path root) := by
  obtain ⟨hsteps, habs, -⟩ := Path.steps_foldl_join hroot h
  exact ⟨habs, hsteps, fun n hn => (h n hn).isPlain⟩

theorem join_name (hroot : root.text ≠ "") (h : ∀ n ∈ v.relative, IsName n) :
    Descends root v.relative (root.join v.name) := by
  obtain ⟨hsteps, hrel⟩ := Path.steps_of_names h
  refine ⟨Path.isAbsolute_join hroot hrel, ?_, fun n hn => (h n hn).isPlain⟩
  exact (Path.steps_join hroot hrel).trans (congrArg _ hsteps)

/-- The file name of a path that leads down is the last name. -/
theorem fileName?_eq (h : Descends root (rest ++ [name]) p) : p.fileName? = some name := by
  have hplain := h.plain name (by simp)
  rw [Path.fileName?_eq, h.steps, ← List.append_assoc, List.getLast?_concat]
  simp [hplain.2]

end Descends

/-- A path that passes the root and stays inside from there, or ends on the way. -/
def IsOnWay (root p : Path) : Prop := ∃ rest whole, Inside root rest whole ∧
  p.isAbsolute = root.isAbsolute ∧ p.steps <+: root.steps ++ rest

theorem Inside.isOnWay {rest : List String} (h : Inside root rest p) : IsOnWay root p :=
  ⟨rest, p, h, h.isAbsolute, h.steps ▸ List.prefix_refl _⟩

theorem IsOnWay.parent? (h : IsOnWay root p) (hq : p.parent? = some q) : IsOnWay root q := by
  obtain ⟨rest, whole, hwhole, habs, hpre⟩ := h
  obtain ⟨hsteps, habs'⟩ := Path.steps_parent? hq
  exact ⟨rest, whole, hwhole, habs'.trans habs, hsteps ▸ (List.dropLast_prefix _).trans hpre⟩

/-- The ancestors of a path on the way are on the way. -/
theorem IsOnWay.of_mem_ancestors {fuel : Nat} (h : IsOnWay root p) (hq : q ∈ ancestors p fuel) :
    IsOnWay root q := by
  induction fuel generalizing p with
  | zero => cases hq
  | succ fuel ih =>
    unfold ancestors at hq
    split at hq
    · cases hq
    · next parent hparent =>
      split at hq
      · cases hq
      · rcases List.mem_cons.1 hq with rfl | hq
        · exact h
        · exact ih (h.parent? hparent) hq

/-! ### Enclosed work -/

/-- The file system is as `fs₀`, but for what is below the directory that `root` leads to. -/
structure Enclosed (fs₀ : FileSystem) (root : Path) (fs : FileSystem) : Prop where
  /-- The entries are well-formed. -/
  sound : fs.Sound
  /-- The root is a directory. -/
  directory : fs.isDirectoryAt (fs₀.reading root)
  /-- The path of the root does not begin below the root. -/
  apart : isBelow (fs₀.reading root) (fs₀.origin root) = false
  /-- The current directory has not moved, unless it was below the root. -/
  current : isBelow (fs₀.reading root) fs₀.current = false → fs.current = fs₀.current
  /-- What is not below the root has not changed. -/
  outside : (fs.entries.filter fun e => !isBelow (fs₀.reading root) e.1) =
    fs₀.entries.filter fun e => !isBelow (fs₀.reading root) e.1

namespace Enclosed

/-- Nothing has changed yet. -/
theorem refl (hsound : fs.Sound) (hroot : fs.isDirectoryAt (fs.reading root))
    (hapart : isBelow (fs.reading root) (fs.origin root) = false) : Enclosed fs root fs :=
  ⟨hsound, hroot, hapart, fun _ => rfl, rfl⟩

/-- The path of the root begins where it began. -/
theorem origin_root (h : Enclosed fs₀ root fs) : fs.origin root = fs₀.origin root := by
  have hapart := h.apart
  unfold origin at hapart ⊢
  by_cases habs : root.isAbsolute = true
  · rw [if_pos habs, if_pos habs]
  · rw [if_neg habs] at hapart
    rw [if_neg habs, if_neg habs, h.current hapart]

/-- The path of the root leads where it led. -/
theorem reading_root (h : Enclosed fs₀ root fs) : fs.reading root = fs₀.reading root := by
  rw [reading, reading, h.origin_root]

theorem isBelow_reading (h : Enclosed fs₀ root fs) {rest : List String} (hp : Descends root rest p)
    (hne : rest ≠ []) : isBelow (fs₀.reading root) (fs.reading p) = true := by
  rw [hp.reading, h.reading_root]
  exact isBelow_append hne

/-- What is not below the root is as before. -/
theorem get?_outside (h : Enclosed fs₀ root fs) (hl : isBelow (fs₀.reading root) l = false) :
    fs.get? l = fs₀.get? l := by
  by_cases hne : l = []
  · rw [hne]
    rfl
  · have hbefore := lookup_filter_key (fun k => !isBelow (fs₀.reading root) k) l fs₀.entries
    have hafter := lookup_filter_key (fun k => !isBelow (fs₀.reading root) k) l fs.entries
    rw [if_pos (by simp [hl])] at hbefore hafter
    rw [get?_of_ne_root hne, get?_of_ne_root hne, ← hbefore, ← hafter, h.outside]

/-! ### Elementary changes -/

theorem isSlot_anywhere (h : fs.IsSlot l) : IsSlot { fs with current := [] } l :=
  ⟨h.below_root, h.named, h.in_directory⟩

theorem setFile (h : Enclosed fs₀ root fs) (hl : isBelow (fs₀.reading root) l)
    (hslot : fs.IsSlot l) (hfree : ¬ fs.isDirectoryAt l) :
    Enclosed fs₀ root (fs.setFile l content) :=
  { h with
    sound := WellFormed.setFile h.sound (isSlot_anywhere hslot) hfree
    directory := isDirectoryAt_setFile hslot hfree h.directory
    outside := by
      rw [← h.outside]
      exact filter_insertEntry (fun k => !isBelow (fs₀.reading root) k) (by simp [hl]) _ _ }

theorem addDirectory (h : Enclosed fs₀ root fs) (hl : isBelow (fs₀.reading root) l)
    (hslot : fs.IsSlot l) (hnone : fs.get? l = none) : Enclosed fs₀ root (fs.addDirectory l) :=
  { h with
    sound := WellFormed.addDirectory h.sound (isSlot_anywhere hslot) hnone
    directory := isDirectoryAt_addDirectory hslot hnone h.directory
    outside := by
      unfold FileSystem.addDirectory
      rw [List.filter_append, h.outside]
      simp [hl] }

/-- The root is not at or below what is below it. -/
theorem not_prefix_root (hl : isBelow (fs₀.reading root) l = true) : ¬ l <+: fs₀.reading root := by
  intro hpre
  obtain ⟨hbelow, hne⟩ := isBelow_iff.1 hl
  exact hne (hbelow.eq_of_length_le hpre.length_le)

theorem eraseTree (h : Enclosed fs₀ root fs) (hl : isBelow (fs₀.reading root) l) :
    Enclosed fs₀ root (fs.eraseTree l) := by
  have hne := ne_root_of_isBelow hl
  refine { h with
    sound := WellFormed.eraseTree h.sound hne fun hpre => hne (List.prefix_nil.1 hpre)
    directory := isDirectoryAt_eraseTree hne h.directory (not_prefix_root hl)
    outside := ?_ }
  unfold FileSystem.eraseTree
  rw [List.filter_filter, ← h.outside]
  refine List.filter_congr fun e _ => ?_
  -- Whatever is not below the root is not at or below `l`.
  by_cases hpre : l <+: e.1
  · simp [isBelow_of_le hl hpre]
  · simp [isPrefixOf_eq_false.2 hpre]

theorem moveTree {source target : Location} (h : Enclosed fs₀ root fs)
    (hsource : isBelow (fs₀.reading root) source) (htarget : isBelow (fs₀.reading root) target)
    (hslot : fs.IsSlot target) (hnone : fs.get? target = none) (hnot : ¬ source <+: target) :
    Enclosed fs₀ root (fs.moveTree source target) := by
  have hne := ne_root_of_isBelow hsource
  have hsound : (FileSystem.moveTree { fs with current := [] } source target).WellFormed :=
    WellFormed.moveTree h.sound hne (isSlot_anywhere hslot) hnone hnot
  refine {
    sound := ?_
    directory := ?_
    apart := h.apart
    current := fun hout => ?_
    outside := ?_ }
  · -- The root of the file system does not move.
    cases source with
    | nil => exact absurd rfl hne
    | cons name rest => exact hsound
  · have hmoved : ({ fs with current := [] } : FileSystem).WellFormed := h.sound
    have hdir := isDirectoryAt_moveTree_of_not_prefix hmoved hne hslot.below_root hnone h.directory
      (not_prefix_root hsource)
    exact hdir
  · show (if source.isPrefixOf fs.current then _ else fs.current) = fs₀.current
    rw [h.current hout]
    refine if_neg fun hpre => ?_
    rw [isBelow_of_le hsource (List.isPrefixOf_iff_prefix.1 hpre)] at hout
    cases hout
  · -- What stays is what an erasure would leave, and what moves lands below the root.
    have hstayed := (h.eraseTree hsource).outside
    have hmoved : (((fs.entries.filter fun e => source.isPrefixOf e.1).map fun e =>
        (rebase source target e.1, e.2)).filter
          fun e => !isBelow (fs₀.reading root) e.1) = [] := by
      refine List.filter_eq_nil_iff.2 fun e he => ?_
      obtain ⟨e', -, rfl⟩ := List.mem_map.1 he
      have hbelow := isBelow_of_le htarget (List.prefix_append target (e'.1.drop source.length))
      simpa [rebase] using hbelow
    unfold FileSystem.moveTree
    rw [List.filter_append, hmoved, List.append_nil]
    exact hstayed

/-! ### File operations -/

theorem copyFile {source target : Path} (h : Enclosed fs₀ root fs)
    (htarget : isBelow (fs₀.reading root) (fs.reading target))
    (hcopy : fs.copyFile source target = .ok fs') : Enclosed fs₀ root fs' := by
  obtain ⟨hslot, hfree, content, rfl, -⟩ := copyFile_eq_ok hcopy
  exact h.setFile htarget hslot hfree

/-- A directory that can be made on the way is below the root: what is above it is there. -/
theorem createDirectory (h : Enclosed fs₀ root fs) (hloc : fs.locate root = .ok (fs₀.reading root))
    (hp : IsOnWay root p) (hmade : fs.createDirectory p = .ok fs') :
    Enclosed fs₀ root fs' ∧ fs'.locate root = .ok (fs₀.reading root) := by
  obtain ⟨hslot, hnone, rfl⟩ := createDirectory_eq_ok hmade
  obtain ⟨rest, whole, hwhole, habs, hpre⟩ := hp
  have hbelow : isBelow (fs₀.reading root) (fs.reading p) = true := by
    rcases List.prefix_or_prefix_of_prefix hpre (List.prefix_append root.steps rest) with
      hsteps | ⟨front, hfront⟩
    · -- The root and all that is above it is there, so it cannot be made.
      have hdir := isDirectoryAt_of_locate hloc h.directory hsteps
      rw [origin_eq rfl habs.symm, ← reading_eq_steps, isDirectoryAt_iff, hnone] at hdir
      cases hdir
    · have hreading : fs.reading p = readNames (fs₀.reading root) front := by
        rw [reading_eq_steps, ← hfront, readNames_append, origin_eq rfl habs, ← reading_eq_steps,
          h.reading_root]
      rw [← hfront, List.prefix_append_right_inj] at hpre
      refine isBelow_iff.2 ⟨?_, fun heq => ?_⟩
      · rw [hreading]
        exact hwhole.prefix_readNames hpre _
      · have hdir := h.directory
        rw [heq, isDirectoryAt_iff, hnone] at hdir
        cases hdir
  refine ⟨h.addDirectory hbelow hslot hnone, ?_⟩
  have hdirs : ∀ k, fs.isDirectoryAt k → (fs.addDirectory (fs.reading p)).isDirectoryAt k :=
    fun _ => isDirectoryAt_addDirectory hslot hnone
  have hcurrent : fs.current = (fs.addDirectory (fs.reading p)).current := rfl
  exact locate_of_directories hcurrent hdirs
    (fun _ => Option.isSome_of_any (hdirs _ h.directory)) hloc

theorem createDirectories (h : Enclosed fs₀ root fs)
    (hloc : fs.locate root = .ok (fs₀.reading root)) (hp : IsOnWay root p) :
    Enclosed fs₀ root (fs.createDirectories p).2 ∧
      (fs.createDirectories p).2.locate root = .ok (fs₀.reading root) :=
  createChain_induct (P := fun fs => Enclosed fs₀ root fs ∧ fs.locate root = .ok (fs₀.reading root))
    (fun _ _ _ hq hfs hmade => hfs.1.createDirectory hfs.2 (hp.of_mem_ancestors hq) hmade) ⟨h, hloc⟩

theorem copyInto {source target : Path} {rest : List String} (h : Enclosed fs₀ root fs)
    (hloc : fs.locate root = .ok (fs₀.reading root)) (htarget : Descends root rest target)
    (hne : rest ≠ []) : Enclosed fs₀ root (fs.copyInto source target).2 := by
  have hmade : Enclosed fs₀ root (fs.createParents target).2 := by
    unfold createParents
    split
    · next hparent => exact (h.createDirectories hloc (htarget.toInside.isOnWay.parent? hparent)).1
    · exact h
  unfold FileSystem.copyInto
  split
  · next hr => rw [hr] at hmade; exact hmade
  · next hr =>
    rw [hr] at hmade
    split
    · exact hmade
    · next hcopy => exact hmade.copyFile (hmade.isBelow_reading htarget hne) hcopy

theorem removeFile (h : Enclosed fs₀ root fs)
    (hp : isBelow (fs₀.reading root) (fs.reading p)) (hremoved : fs.removeFile p = .ok fs') :
    Enclosed fs₀ root fs' := by
  obtain ⟨-, -, rfl⟩ := removeFile_eq_ok hremoved
  exact h.eraseTree hp

theorem removeTree (h : Enclosed fs₀ root fs)
    (hp : isBelow (fs₀.reading root) (fs.reading p)) (hremoved : fs.removeTree p = .ok fs') :
    Enclosed fs₀ root fs' := by
  obtain ⟨-, -, rfl⟩ := removeTree_eq_ok hremoved
  exact h.eraseTree hp

/-- A rename to a path where nothing is, from below the root to a place that is not above it. -/
theorem rename {source target : Path} (h : Enclosed fs₀ root fs)
    (hsource : isBelow (fs₀.reading root) (fs.reading source))
    (htarget : fs₀.reading root <+: fs.reading target)
    (habsent : fs.isPresent target = false) (hrename : fs.rename source target = .ok fs') :
    Enclosed fs₀ root fs' := by
  obtain ⟨-, hslot, hsome, hnone, hnot, rfl⟩ := rename_to_absent hrename habsent
  have hbelow : isBelow (fs₀.reading root) (fs.reading target) = true := by
    refine isBelow_iff.2 ⟨htarget, fun heq => ?_⟩
    have hdir := h.directory
    rw [heq, isDirectoryAt_iff, hnone] at hdir
    cases hdir
  refine h.moveTree hsource hbelow hslot hnone fun hpre => ?_
  -- Whatever is above the target is a directory, and a directory does not move below itself.
  refine hnot ?_ hpre
  have hne : fs.reading source ≠ fs.reading target := by
    intro heq
    rw [heq, hnone] at hsome
    cases hsome
  have hanywhere := isSlot_anywhere hslot
  exact hanywhere.isDirectoryAt_of_prefix h.sound hpre hne

end Enclosed

end FileSystem

end Scaffold
