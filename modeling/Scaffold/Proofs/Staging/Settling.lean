import Scaffold.Proofs.FileSystem.Parents
import Scaffold.Proofs.Staging.Moving

/-! # Files that lie in the directory already

  A move leaves a file alone if its new path is the path that it has, component
  by component. Whether something is at the new path is a question to the file
  system. The two answers differ where the directory is written with a way up:
  then the file itself is in its own way, and the move is refused although it
  would replace nothing.

  - `LiesAt`, `SpelledAs`: a file in the directory of a move, and the spelling.
  - `Stays`: what a move comes to if all its files lie in the directory.
  - `Settling`: the tree while files move to any directory.
  - `moveFiles_settles`: such moves, and moves that are repeated.
-/

namespace Scaffold

open FileSystem (Descends IsFileBelow Visited isFileAt_iff readNames_plain)

namespace Staging

variable {fs₀ fs fs' : FileSystem} {root destination : Path} {target : String} {v : Visited}
  {done todo files : List Visited} {paths : List Path}

/-! ### The directory of a move -/

/-- The directory of a move is there, made or not, and otherwise only directories are new. -/
structure Opened (fs : FileSystem) (destination : Path) (fs' : FileSystem) : Prop where
  /-- It is there. -/
  there : fs'.isDirectory destination = true
  /-- The file system stays well-formed. -/
  wellFormed : fs'.WellFormed
  /-- The current directory is the same. -/
  current : fs'.current = fs.current
  /-- Directories stay. -/
  directories : ∀ k, fs.isDirectoryAt k → fs'.isDirectoryAt k
  /-- Files are the same. -/
  contents : ∀ l, fs'.contentAt l = fs.contentAt l

theorem openDestination_opened (hfs : fs.WellFormed) (hne : destination.text ≠ "")
    (h : openDestination fs destination = (.ok (), fs')) : Opened fs destination fs' := by
  unfold openDestination at h
  split at h
  · next hpresent =>
    split at h
    · cases h
    · next hnotfile =>
      obtain rfl := (Prod.mk.inj h).2
      refine ⟨?_, hfs, rfl, fun _ hk => hk, fun _ => rfl⟩
      have hlocate := FileSystem.isPresent_iff.1 hpresent
      have hsome := hfs.get?_of_locate hlocate
      unfold FileSystem.isFile at hnotfile
      rw [hlocate] at hnotfile
      refine FileSystem.isDirectory_iff.2 ⟨hlocate, ?_⟩
      rcases FileSystem.isDirectoryAt_or_none hnotfile with hdir | hnone
      · exact hdir
      · rw [hnone] at hsome
        cases hsome
  · next habsent =>
    have hwell := hfs.createDirectories destination
    obtain ⟨hcurrent, hdirs⟩ := FileSystem.directories_createDirectories fs destination
    have hcontents := FileSystem.contentAt_createDirectories fs destination
    cases hmade : fs.createDirectories destination with
    | mk result made =>
      rw [hmade] at h hwell hcurrent hdirs hcontents
      cases result with
      | error fault => cases h
      | ok =>
        obtain rfl := (Prod.mk.inj h).2
        refine ⟨?_, hwell, hcurrent, hdirs, hcontents⟩
        refine FileSystem.isDirectory_of_createDirectories (fun hnil => ?_) hmade
        exact habsent (FileSystem.isPresent_of_steps_nil hfs hne hnil)

/-- The files below the root are the same before and after the directory is opened. -/
theorem Opened.isFileBelow_iff (h : Opened fs destination fs') :
    IsFileBelow fs' root v ↔ IsFileBelow fs root v :=
  ⟨fun hv => hv.of_contentAt h.current.symm fun l => (h.contents l).symm,
    fun hv => hv.of_contentAt h.current h.contents⟩

/-- A directory that is there is opened as it is. -/
theorem openDestination_of_isDirectory (h : fs.isDirectory destination = true) :
    openDestination fs destination = (.ok (), fs) := by
  obtain ⟨hlocate, hdir⟩ := FileSystem.isDirectory_iff.1 h
  have hnotfile : ¬ fs.isFile destination = true := by
    unfold FileSystem.isFile
    rw [hlocate]
    intro hfile
    obtain ⟨content, hcontent⟩ := isFileAt_iff.1 hfile
    exact FileSystem.not_isDirectoryAt_of_file hcontent hdir
  unfold openDestination
  rw [if_pos (FileSystem.isPresent_iff.2 hlocate), if_neg hnotfile]

/-! ### Files in the directory -/

/-- A file lies in the directory that a path leads to. -/
def LiesAt (fs : FileSystem) (root destination : Path) (v : Visited) : Prop :=
  (fs.reading root ++ v.relative).dropLast = fs.reading destination

/-- The path is spelled like that of the directory that holds the file: up to doubled slashes,
slashes at the end and inner dots it is the root with the names of the directory joined to it. -/
def SpelledAs (root destination : Path) (v : Visited) : Prop :=
  destination.same (v.relative.dropLast.foldl Path.join root) = true

instance (fs : FileSystem) (root destination : Path) (v : Visited) :
    Decidable (LiesAt fs root destination v) :=
  inferInstanceAs (Decidable (_ = _))

instance (root destination : Path) (v : Visited) : Decidable (SpelledAs root destination v) :=
  inferInstanceAs (Decidable (_ = true))

section

variable (hroot : root.text ≠ "") (hdest : destination.text ≠ "") (hne : v.relative ≠ [])
  (hnames : ∀ name ∈ v.relative, IsName name)

include hne in
theorem liesAt_iff : LiesAt fs root destination v ↔
    fs.reading root ++ v.relative = fs.reading destination ++ [baseName v] := by
  have hsplit : fs.reading root ++ v.relative =
      (fs.reading root ++ v.relative.dropLast) ++ [baseName v] := by
    rw [List.append_assoc, relative_eq hne]
  unfold LiesAt
  rw [hsplit, List.dropLast_concat, List.append_cancel_right_eq]

include hroot hdest hne hnames

/-- A move leaves a file alone if its directory is spelled like the one that holds the file. -/
theorem same_target_iff_spelledAs :
    (destination.join (baseName v)).same (v.path root) = true ↔ SpelledAs root destination v := by
  have hfront : ∀ name ∈ v.relative.dropLast, IsName name :=
    fun name hname => hnames name (List.dropLast_subset _ hname)
  have hpath : v.path root = (v.relative.dropLast.foldl Path.join root).join (baseName v) := by
    rw [← List.foldl_concat Path.join, relative_eq hne]
    rfl
  rw [hpath]
  exact Path.same_join hdest (Path.steps_foldl_join hroot hfront).2.2
    (Path.steps_of_name (hnames _ (baseName_mem hne))).2

omit hroot in
/-- The new path of a file leads into the directory, under the name of the file. -/
theorem reading_join_baseName (fs : FileSystem) :
    fs.reading (destination.join (baseName v)) = fs.reading destination ++ [baseName v] := by
  have hname := hnames _ (baseName_mem hne)
  obtain ⟨hsteps, hrel⟩ := Path.steps_of_name hname
  rw [FileSystem.reading_join hdest hrel, hsteps, readNames_plain (by simpa using hname.isPlain)]

/-- A file whose directory is spelled like that of the move lies in it. -/
theorem SpelledAs.liesAt (h : SpelledAs root destination v) : LiesAt fs root destination v := by
  have hsame := (same_target_iff_spelledAs hroot hdest hne hnames).2 h
  rw [liesAt_iff hne, ← reading_join_baseName hdest hne hnames fs,
    FileSystem.reading_of_same hsame, FileSystem.reading_path hroot hnames]

end

/-- Below the root it is a way up that tells the spellings apart. -/
theorem spelledAs_iff (hroot : root.text ≠ "") (hrel : Path.isAbsolute ⟨target⟩ = false)
    (hnames : ∀ name ∈ v.relative, IsName name) (hne : v.relative ≠ [])
    (hlies : LiesAt fs root (root.join target) v) :
    SpelledAs root (root.join target) v ↔ ".." ∉ Path.steps ⟨target⟩ := by
  have hfront : ∀ name ∈ v.relative.dropLast, IsName name :=
    fun name hname => hnames name (List.dropLast_subset _ hname)
  have hhead : (root.join target).parts.head =
      (v.relative.dropLast.foldl Path.join root).parts.head := by
    rw [Path.head_join hroot hrel, Path.head_foldl_join hroot hfront]
  unfold SpelledAs
  rw [Path.same_iff hhead, Path.steps_join hroot hrel, (Path.steps_foldl_join hroot hfront).1,
    List.append_cancel_left_eq]
  constructor
  · intro hsteps hup
    rw [hsteps] at hup
    exact (hfront _ hup).not_parent rfl
  · intro hup
    -- Without a way up the target leads down by its steps.
    have hplain : ∀ name ∈ Path.steps ⟨target⟩, Path.IsPlain name :=
      fun name hname => FileSystem.isPlain_of_mem_steps hup hname
    unfold LiesAt at hlies
    rw [FileSystem.reading_join hroot hrel, readNames_plain hplain,
      List.dropLast_append_of_ne_nil hne, List.append_cancel_left_eq] at hlies
    exact hlies.symm

/-- Files whose directory is spelled like that of the move are passed over. -/
theorem moveEach_spelled (hroot : root.text ≠ "") (hdest : destination.text ≠ "")
    (hnames : ∀ v ∈ files, v.relative ≠ [] ∧ ∀ name ∈ v.relative, IsName name)
    (hspelled : ∀ v ∈ files, SpelledAs root destination v) (rest : List Path) :
    moveEach destination (files.map (·.path root) ++ rest) fs = moveEach destination rest fs := by
  induction files with
  | nil => rfl
  | cons v files ih =>
    obtain ⟨⟨hne, hv⟩, hfiles⟩ := List.forall_mem_cons.1 hnames
    obtain ⟨hfirst, hlater⟩ := List.forall_mem_cons.1 hspelled
    rw [List.map_cons, List.cons_append, moveEach, moveTarget_path hroot hne hv,
      if_pos ((same_target_iff_spelledAs hroot hdest hne hv).2 hfirst)]
    exact ih hfiles hlater

/-- A file in the directory is in its own way if the directory is spelled in another way. -/
theorem moveEach_unspelled (hfs : fs.WellFormed) (hroot : root.text ≠ "")
    (hthere : fs.isDirectory destination = true) (hv : IsFileBelow fs root v)
    (hlies : LiesAt fs root destination v) (hspelled : ¬ SpelledAs root destination v)
    (rest : List Path) :
    moveEach destination (v.path root :: rest) fs =
      (.error (.targetExists (destination.join (baseName v))), fs) := by
  have hnames : ∀ name ∈ v.relative, IsName name := fun _ => hv.isName hfs
  obtain ⟨hlocate, -⟩ := FileSystem.isDirectory_iff.1 hthere
  have hdest := FileSystem.locate_text_ne_empty hlocate
  have hone : ∀ name ∈ [baseName v], IsName name :=
    List.forall_mem_singleton.2 (hnames _ (baseName_mem hv.ne_root))
  -- What is at the new path is the file.
  have hdown : Descends destination ([] ++ [baseName v]) (destination.join (baseName v)) := by
    obtain ⟨hsteps, hrel⟩ := Path.steps_of_name (hone _ (List.mem_singleton_self _))
    refine ⟨Path.isAbsolute_join hdest hrel, ?_, fun name hname => (hone name hname).isPlain⟩
    rw [Path.steps_join hdest hrel, hsteps]
    rfl
  have hends := FileSystem.endsInStep_join hdest (List.cons_ne_nil _ []) hone
  rw [Path.joinTexts_singleton] at hends
  have hsome : (fs.get? (fs.reading destination ++ ([] ++ [baseName v]))).isSome := by
    rw [List.nil_append, ← (liesAt_iff hv.ne_root).1 hlies, hv.get?]
    rfl
  have hpresent : fs.isPresent (destination.join (baseName v)) = true := by
    rw [FileSystem.isPresent_iff, hdown.reading]
    exact FileSystem.locate_entry hfs hlocate hdown hends (Path.join_text_ne_empty hdest) hsome
  have hdiffer : ¬ (destination.join (baseName v)).same (v.path root) = true := fun hsame =>
    hspelled ((same_target_iff_spelledAs hroot hdest hv.ne_root hnames).1 hsame)
  rw [moveEach, moveTarget_path hroot hv.ne_root hnames, if_neg hdiffer, if_pos hpresent]

/-- What a move comes to if all files that it selects lie in its directory. -/
structure Stays (fs : FileSystem) (root : Path) (source target : String) (files : List Visited) :
    Prop where
  /-- Nothing changes. -/
  unchanged : (moveFiles fs root source target).2 = fs
  /-- If the target is written below the root and without a way up, the move succeeds, and no file
  has moved. -/
  down : Path.isAbsolute ⟨target⟩ = false → ".." ∉ Path.steps ⟨target⟩ →
    moveFiles fs root source target = (.ok [], fs)
  /-- If it is written with a way up, the move is refused for the first file. -/
  winding : Path.isAbsolute ⟨target⟩ = false → ".." ∈ Path.steps ⟨target⟩ →
    ∀ v rest, files = v :: rest → moveFiles fs root source target =
      (.error (.targetExists ((root.join target).join (baseName v))), fs)
  /-- However it is written, the move succeeds if it is spelled like the directory of each file. -/
  spelled : (∀ v ∈ files, SpelledAs root (root.join target) v) →
    moveFiles fs root source target = (.ok [], fs)
  /-- It is refused for the first file whose directory is spelled in another way. -/
  refused : ∀ front v rest, files = front ++ v :: rest →
    (∀ w ∈ front, SpelledAs root (root.join target) w) → ¬ SpelledAs root (root.join target) v →
      moveFiles fs root source target =
        (.error (.targetExists ((root.join target).join (baseName v))), fs)

theorem stays {source : String} {pattern : Pattern} (hfs : fs.WellFormed)
    (hroot : fs.locate root = .ok (fs.reading root))
    (hpattern : Pattern.compile source = .ok pattern)
    (hthere : fs.isDirectory (root.join target) = true)
    (hlies : ∀ v ∈ matchingFiles fs root pattern, LiesAt fs root (root.join target) v) :
    Stays fs root source target (matchingFiles fs root pattern) := by
  have htext := FileSystem.locate_text_ne_empty hroot
  have hdest : (root.join target).text ≠ "" :=
    FileSystem.locate_text_ne_empty (FileSystem.isDirectory_iff.1 hthere).1
  have hrun : moveFiles fs root source target = moveEach (root.join target)
      ((matchingFiles fs root pattern).map (·.path root)) fs := by
    unfold moveFiles
    simp only [hpattern, filesMatching_of_located hroot, openDestination_of_isDirectory hthere]
    rfl
  have hbelow : ∀ v ∈ matchingFiles fs root pattern, IsFileBelow fs root v :=
    fun v hv => ((mem_matchingFiles hfs).1 hv).1
  have hnames : ∀ v ∈ matchingFiles fs root pattern,
      v.relative ≠ [] ∧ ∀ name ∈ v.relative, IsName name :=
    fun v hv => ⟨(hbelow v hv).ne_root, fun _ => (hbelow v hv).isName hfs⟩
  have hspelled : (∀ v ∈ matchingFiles fs root pattern, SpelledAs root (root.join target) v) →
      moveFiles fs root source target = (.ok [], fs) := by
    intro hall
    rw [hrun, ← List.append_nil ((matchingFiles fs root pattern).map _),
      moveEach_spelled htext hdest hnames hall]
    rfl
  have hrefused : ∀ front v rest, matchingFiles fs root pattern = front ++ v :: rest →
      (∀ w ∈ front, SpelledAs root (root.join target) w) → ¬ SpelledAs root (root.join target) v →
        moveFiles fs root source target =
          (.error (.targetExists ((root.join target).join (baseName v))), fs) := by
    intro front v rest hsplit hfront hv
    have hmem : v ∈ matchingFiles fs root pattern := by simp [hsplit]
    rw [hrun, hsplit, List.map_append, List.map_cons, moveEach_spelled htext hdest
      (fun w hw => hnames w (by rw [hsplit]; exact List.mem_append_left _ hw)) hfront]
    exact moveEach_unspelled hfs htext hthere (hbelow v hmem) (hlies v hmem) hv _
  have hway : Path.isAbsolute ⟨target⟩ = false → ∀ v ∈ matchingFiles fs root pattern,
      (SpelledAs root (root.join target) v ↔ ".." ∉ Path.steps ⟨target⟩) :=
    fun hrel v hv => spelledAs_iff htext hrel (hnames v hv).2 (hnames v hv).1 (hlies v hv)
  refine ⟨?_, ?_, ?_, hspelled, hrefused⟩
  · cases hfirst : (matchingFiles fs root pattern).find? fun v =>
        ¬ SpelledAs root (root.join target) v with
    | none =>
      rw [hspelled fun v hv => by simpa using List.find?_eq_none.1 hfirst v hv]
    | some v =>
      obtain ⟨hv, front, rest, hsplit, hfront⟩ := List.find?_eq_some_iff_append.1 hfirst
      rw [hrefused front v rest hsplit (fun w hw => by simpa using hfront w hw) (by simpa using hv)]
  · intro hrel hup
    exact hspelled fun v hv => (hway hrel v hv).2 hup
  · intro hrel hup v rest hsplit
    refine hrefused [] v rest hsplit nofun fun hv => ?_
    exact (hway hrel v (by simp [hsplit])).1 hv hup

/-! ### Files on their way -/

/-- While files move to a directory, wherever it is, every file is in the directory or one that was
there before and whose turn has not come. -/
structure Settling (fs₀ : FileSystem) (root destination : Path) (done : List Visited)
    (fs : FileSystem) : Prop where
  /-- The file system stays well-formed. -/
  wellFormed : fs.WellFormed
  /-- The current directory is the same. -/
  current : fs.current = fs₀.current
  /-- The directories are the same. -/
  directories : ∀ l, fs.isDirectoryAt l ↔ fs₀.isDirectoryAt l
  /-- Files are in the directory, or left. -/
  files : ∀ l, fs.isFileAt l → l.dropLast = fs₀.reading destination ∨
    (fs₀.isFileAt l ∧ ∀ v ∈ done, l ≠ fs₀.reading root ++ v.relative)

namespace Settling

theorem start (hfs : fs₀.WellFormed) : Settling fs₀ root destination [] fs₀ where
  wellFormed := hfs
  current := rfl
  directories := fun _ => Iff.rfl
  files := fun _ hl => .inr ⟨hl, nofun⟩

/-- What is at the place of a file that was there before is a file: no directory has come. -/
theorem file_stays (h : Settling fs₀ root destination done fs) (hv : IsFileBelow fs₀ root v)
    (hsome : (fs.get? (fs₀.reading root ++ v.relative)).isSome) :
    ∃ content, fs.get? (fs₀.reading root ++ v.relative) = some (.file content) := by
  obtain ⟨old, hold⟩ := hv.content
  have hbefore := hv.get?
  rw [hold] at hbefore
  refine isFileAt_iff.1 (by_contra fun hnot => ?_)
  rcases FileSystem.isDirectoryAt_or_none hnot with hdir | hgone
  · exact FileSystem.not_isDirectoryAt_of_file hbefore ((h.directories _).1 hdir)
  · rw [hgone] at hsome
    cases hsome

section

variable (h : Settling fs₀ root destination done fs) (hfs : fs₀.WellFormed)
  (hroot : root.text ≠ "") (hdest : destination.text ≠ "") (hv : IsFileBelow fs₀ root v)

include h hfs hroot hdest hv

/-- Behind a file that is left alone. -/
theorem concat_spelled (hspelled : SpelledAs root destination v) :
    Settling fs₀ root destination (done ++ [v]) fs where
  wellFormed := h.wellFormed
  current := h.current
  directories := h.directories
  files := by
    intro l hl
    have hlies : LiesAt fs₀ root destination v :=
      hspelled.liesAt hroot hdest hv.ne_root fun _ => hv.isName hfs
    by_cases hself : l = fs₀.reading root ++ v.relative
    · rw [hself]
      exact .inl hlies
    · refine (h.files l hl).imp_right fun hleft => ⟨hleft.1, ?_⟩
      exact List.forall_mem_append.2 ⟨hleft.2, List.forall_mem_singleton.2 hself⟩

/-- Behind a file that has moved to a path where nothing was. -/
theorem concat_renamed (habsent : fs.isPresent (destination.join (baseName v)) = false)
    (hrename : fs.rename (v.path root) (destination.join (baseName v)) = .ok fs') :
    Settling fs₀ root destination (done ++ [v]) fs' := by
  have hnames : ∀ name ∈ v.relative, IsName name := fun _ => hv.isName hfs
  obtain ⟨-, hslot, hsome, hnone, -, rfl⟩ := FileSystem.rename_to_absent hrename habsent
  have hfrom : fs.reading (v.path root) = fs₀.reading root ++ v.relative := by
    rw [FileSystem.reading_congr h.current, FileSystem.reading_path hroot hnames]
  have hto : fs.reading (destination.join (baseName v)) =
      fs₀.reading destination ++ [baseName v] := by
    rw [FileSystem.reading_congr h.current, reading_join_baseName hdest hv.ne_root hnames]
  rw [hfrom] at hsome ⊢
  rw [hto] at hslot hnone ⊢
  obtain ⟨content, hfile⟩ := h.file_stays hv hsome
  obtain ⟨hwell, hcurrent, hdirs⟩ := h.wellFormed.moveTree_file hfile hslot hnone
  have hget := FileSystem.get?_moveTree_file h.wellFormed hfile hslot.below_root hnone
  refine {
    wellFormed := hwell
    current := hcurrent.trans h.current
    directories := fun l => (hdirs l).trans (h.directories l)
    files := fun l hl => ?_ }
  obtain ⟨bytes, hbytes⟩ := isFileAt_iff.1 hl
  rw [hget] at hbytes
  split at hbytes
  · next hself =>
    rw [hself, List.dropLast_concat]
    exact .inl rfl
  · split at hbytes
    · cases hbytes
    · next hself =>
      refine (h.files l (isFileAt_iff.2 ⟨bytes, hbytes⟩)).imp_right fun hleft => ⟨hleft.1, ?_⟩
      exact List.forall_mem_append.2 ⟨hleft.2, List.forall_mem_singleton.2 hself⟩

end

/-- Behind a move that has succeeded. -/
theorem moveEach (h : Settling fs₀ root destination done fs) (hfs : fs₀.WellFormed)
    (hroot : root.text ≠ "") (hdest : destination.text ≠ "")
    (htodo : ∀ v ∈ todo, IsFileBelow fs₀ root v)
    (hrun : moveEach destination (todo.map (·.path root)) fs = (.ok paths, fs')) :
    Settling fs₀ root destination (done ++ todo) fs' := by
  induction todo generalizing done fs paths with
  | nil =>
    obtain rfl := (Prod.mk.inj hrun).2
    rwa [List.append_nil]
  | cons v rest ih =>
    obtain ⟨hv, hrest⟩ := List.forall_mem_cons.1 htodo
    have hnames : ∀ name ∈ v.relative, IsName name := fun _ => hv.isName hfs
    rw [List.map_cons] at hrun
    unfold Staging.moveEach at hrun
    rw [moveTarget_path hroot hv.ne_root hnames] at hrun
    rw [List.append_cons]
    split at hrun
    · next hsame =>
      have hspelled := (same_target_iff_spelledAs hroot hdest hv.ne_root hnames).1 hsame
      exact ih (h.concat_spelled hfs hroot hdest hv hspelled) hrest hrun
    · split at hrun
      · cases hrun
      · next habsent =>
        split at hrun
        · cases hrun
        · next moved hrename =>
          have hstep := h.concat_renamed hfs hroot hdest hv (by simpa using habsent) hrename
          split at hrun
          · cases hrun
          · next final hlater =>
            obtain rfl := (Prod.mk.inj hrun).2
            exact ih hstep hrest hlater

end Settling

/-! ### Moves -/

/-- Behind a move that has succeeded all files that its pattern selects lie in its directory: one
that has moved cannot match again elsewhere. -/
theorem moveFiles_liesAt {source : String} {pattern : Pattern} (hfs : fs.WellFormed)
    (hroot : fs.isDirectory root = true) (hpattern : Pattern.compile source = .ok pattern)
    (hrun : moveFiles fs root source target = (.ok paths, fs')) :
    fs'.WellFormed ∧ fs'.isDirectory root = true ∧ fs'.isDirectory (root.join target) = true ∧
      ∀ v ∈ matchingFiles fs' root pattern, LiesAt fs' root (root.join target) v := by
  have hlocate := (FileSystem.isDirectory_iff.1 hroot).1
  have htext := FileSystem.locate_text_ne_empty hlocate
  have hdest : (root.join target).text ≠ "" := Path.join_text_ne_empty htext
  unfold moveFiles at hrun
  simp only [hpattern, filesMatching_of_located hlocate] at hrun
  cases hopen : openDestination fs (root.join target) with
  | mk result fs₁ =>
    rw [hopen] at hrun
    cases result with
    | error e => cases hrun
    | ok =>
      have hopened := openDestination_opened hfs hdest hopen
      have hbelow : ∀ v ∈ matchingFiles fs root pattern, IsFileBelow fs₁ root v :=
        fun v hv => hopened.isFileBelow_iff.2 ((mem_matchingFiles hfs).1 hv).1
      have hsettled := (Settling.start hopened.wellFormed).moveEach hopened.wellFormed htext hdest
        hbelow hrun
      rw [List.nil_append] at hsettled
      have hdirs : ∀ k, fs₁.isDirectoryAt k → fs'.isDirectoryAt k := fun k =>
        (hsettled.directories k).2
      have hcurrent : fs'.current = fs.current := hsettled.current.trans hopened.current
      refine ⟨hsettled.wellFormed, ?_, ?_, fun v hv => ?_⟩
      · exact FileSystem.isDirectory_of_directories hcurrent.symm
          (fun k hk => hdirs k (hopened.directories k hk)) hroot
      · exact FileSystem.isDirectory_of_directories hsettled.current.symm hdirs hopened.there
      · obtain ⟨hfile, hmatch⟩ := (mem_matchingFiles hsettled.wellFormed).1 hv
        obtain ⟨bytes, hbytes⟩ := hfile.content
        have hthere := hfile.get?
        rw [hbytes] at hthere
        rcases hsettled.files _ (isFileAt_iff.2 ⟨bytes, hthere⟩) with hlies | ⟨hleft, hnot⟩
        · rwa [← FileSystem.reading_congr hsettled.current] at hlies
        · -- The file was there before under the same name, so its turn has come.
          obtain ⟨old, hold⟩ := isFileAt_iff.1 hleft
          have hbefore : IsFileBelow fs₁ root ⟨v.relative, .file old⟩ := by
            refine ⟨hfile.ne_root, ?_, rfl⟩
            rwa [FileSystem.reading_congr hsettled.current] at hold
          refine absurd ?_ (hnot ⟨v.relative, .file old⟩ ((mem_matchingFiles hfs).2 ⟨?_, hmatch⟩))
          · rw [FileSystem.reading_congr hsettled.current]
          · exact hopened.isFileBelow_iff.1 hbefore

/-- A move settles the files that it selects. -/
theorem moveFiles_settles (fs : FileSystem) (root : Path) (source target : String)
    (pattern : Pattern) (hfs : fs.WellFormed) (hroot : fs.isDirectory root = true)
    (hpattern : Pattern.compile source = .ok pattern) :
    (fs.isDirectory (root.join target) = true →
      (∀ v ∈ matchingFiles fs root pattern, LiesAt fs root (root.join target) v) →
        Stays fs root source target (matchingFiles fs root pattern)) ∧
    ∀ paths fs', moveFiles fs root source target = (.ok paths, fs') →
      fs'.isDirectory (root.join target) = true ∧
      (∀ v ∈ matchingFiles fs' root pattern, LiesAt fs' root (root.join target) v) ∧
      Stays fs' root source target (matchingFiles fs' root pattern) := by
  refine ⟨stays hfs (FileSystem.isDirectory_iff.1 hroot).1 hpattern, fun paths fs' hrun => ?_⟩
  obtain ⟨hfs', hroot', hthere, hlies⟩ := moveFiles_liesAt hfs hroot hpattern hrun
  exact ⟨hthere, hlies, stays hfs' (FileSystem.isDirectory_iff.1 hroot').1 hpattern hthere hlies⟩

/-! ### One file in its directory -/

/-- A staging tree with one file, in the directory where it is to go. -/
def settledFile : FileSystem :=
  { entries := [
      (["stage", "lib", "a.txt"], .file "A".toUTF8), (["stage", "lib"], .directory),
      (["stage"], .directory)] }

theorem matchingFiles_settledFile :
    ∃ pattern, Pattern.compile "lib/*.txt" = .ok pattern ∧
      matchingFiles settledFile ⟨"/stage"⟩ pattern = [⟨["lib", "a.txt"], .file "A".toUTF8⟩] := by
  have hwalk : settledFile.collectContentsFirst (settledFile.reading ⟨"/stage"⟩) =
      settledFile.below (settledFile.reading ⟨"/stage"⟩) :=
    List.mergeSort_of_pairwise (by decide +kernel)
  have hfilter : (Pattern.compile "lib/*.txt").toOption.map (fun pattern =>
      (settledFile.below (settledFile.reading ⟨"/stage"⟩)).filter
        fun v => v.entry.isFile && pattern.isMatch v.name) =
      some [⟨["lib", "a.txt"], .file "A".toUTF8⟩] := by decide +kernel
  cases hpattern : Pattern.compile "lib/*.txt" with
  | error fault => rw [hpattern] at hfilter; cases hfilter
  | ok pattern =>
    rw [hpattern] at hfilter
    refine ⟨pattern, rfl, ?_⟩
    unfold matchingFiles
    rw [hwalk]
    exact Option.some.inj hfilter

/-- The file stays, if dots and slashes are all that is odd about the directory, also when the move
is repeated. -/
theorem moveFiles_settles_of_settledFile :
    ∃ pattern, Pattern.compile "lib/*.txt" = .ok pattern ∧
      matchingFiles settledFile ⟨"/stage"⟩ pattern = [⟨["lib", "a.txt"], .file "A".toUTF8⟩] ∧
      moveFiles settledFile ⟨"/stage"⟩ "lib/*.txt" "./lib//" = (.ok [], settledFile) ∧
      Stays settledFile ⟨"/stage"⟩ "lib/*.txt" "./lib//"
        (matchingFiles settledFile ⟨"/stage"⟩ pattern) := by
  obtain ⟨pattern, hpattern, hfiles⟩ := matchingFiles_settledFile
  obtain ⟨hstays, hrepeat⟩ := moveFiles_settles settledFile ⟨"/stage"⟩ "lib/*.txt" "./lib//" pattern
    (by decide +kernel) (by decide +kernel) hpattern
  have hlies : ∀ v ∈ matchingFiles settledFile ⟨"/stage"⟩ pattern,
      LiesAt settledFile ⟨"/stage"⟩ (Path.join ⟨"/stage"⟩ "./lib//") v := by
    rw [hfiles]
    decide +kernel
  have hrun := (hstays (by decide +kernel) hlies).down (by decide +kernel) (by decide +kernel)
  obtain ⟨-, -, hagain⟩ := hrepeat _ _ hrun
  exact ⟨pattern, hpattern, hfiles, hrun, hagain⟩

/-- It is in its own way if the same directory is written with a way up. -/
theorem settledFile_collides :
    ¬ ∀ (target : String) (pattern : Pattern), Pattern.compile "lib/*.txt" = .ok pattern →
      settledFile.isDirectory (Path.join ⟨"/stage"⟩ target) = true →
      settledFile.reading ⟨"/stage"⟩ <+: settledFile.reading (Path.join ⟨"/stage"⟩ target) →
      (∀ v ∈ matchingFiles settledFile ⟨"/stage"⟩ pattern,
        LiesAt settledFile ⟨"/stage"⟩ (Path.join ⟨"/stage"⟩ target) v) →
      moveFiles settledFile ⟨"/stage"⟩ "lib/*.txt" target = (.ok [], settledFile) := by
  intro hsettled
  obtain ⟨pattern, hpattern, hfiles⟩ := matchingFiles_settledFile
  have hthere : settledFile.isDirectory (Path.join ⟨"/stage"⟩ "lib/../lib") = true := by
    decide +kernel
  have hlies : ∀ v ∈ matchingFiles settledFile ⟨"/stage"⟩ pattern,
      LiesAt settledFile ⟨"/stage"⟩ (Path.join ⟨"/stage"⟩ "lib/../lib") v := by
    rw [hfiles]
    decide +kernel
  have hrefused := (stays (by decide +kernel) (by decide +kernel) hpattern hthere hlies).winding
    (by decide +kernel) (by decide +kernel) _ _ hfiles
  rw [hsettled _ pattern hpattern hthere (by decide +kernel) hlies] at hrefused
  cases hrefused

end Staging

end Scaffold
