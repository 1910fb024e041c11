import Mathlib.Data.List.Perm.Subperm
import Scaffold.Proofs.Staging.Gathering
import Scaffold.Staging.Move

/-! # What a move does

  A move makes its directory unless a file is in the way, and then takes one file
  after the other there. It stops at the first file that does not find room.

  - `IsWritten`: the ways to write the names of the directory.
  - `openDestination_ok`, `openDestination_error`: the directory.
  - `Gathered.moveEach_room`, `Gathered.moveEach_no_room`: the next file.
  - `moveFiles_gathers`: when a move succeeds, and what it leaves if not.
-/

namespace Scaffold.Staging

open FileSystem (Descends IsFileBelow IsReadable MakesDirectories Visited isDirectoryAt_iff)

variable {fs₀ fs : FileSystem} {root : Path} {target : String} {names : List String}
  {v : Visited} {done todo : List Visited} {l : Location}

/-! ### The directory -/

/-- The text is the names with slashes between them, or that with a dot and a slash in front. For no
names it can be the dot alone. -/
structure IsWritten (target : String) (names : List String) : Prop where
  /-- All are names. -/
  named : ∀ name ∈ names, IsName name
  /-- How they are written. -/
  written : target = Text.joinTexts '/' names ∨ (target = "." ∧ names = []) ∨
    target = "./" ++ Text.joinTexts '/' names

namespace IsWritten

/-- The names of the path that the text is. -/
theorem pathNames_eq (h : IsWritten target names) :
    Path.isAbsolute ⟨target⟩ = false ∧ Path.steps ⟨target⟩ = names ∧
      (names ≠ [] → ∃ front, Path.names ⟨target⟩ = front ++ names) := by
  have hslash : ∀ name ∈ names, '/' ∉ name.toList := fun name hname => (h.named name hname).no_slash
  obtain ⟨hsteps, habs⟩ := Path.steps_of_names h.named
  rcases h.written with rfl | ⟨rfl, rfl⟩ | rfl
  · exact ⟨habs, hsteps, fun hne => ⟨[], Path.names_joinTexts hne hslash⟩⟩
  · exact ⟨by decide, by decide, fun hne => absurd rfl hne⟩
  · have hdot : Path.names ⟨"./" ++ Text.joinTexts '/' names⟩ =
        "." :: Path.names ⟨Text.joinTexts '/' names⟩ := by
      unfold Path.names Text.splitAt
      simp [Text.segments]
    refine ⟨?_, ?_, fun hne => ⟨["."], ?_⟩⟩
    · rw [Path.isAbsolute_append (by decide)]
      decide
    · refine Eq.trans ?_ hsteps
      unfold Path.steps
      rw [hdot]
      exact List.filter_cons_of_neg (by decide)
    · rw [hdot, Path.names_joinTexts hne hslash]
      rfl

/-- The directory lies below the root, at the names. -/
theorem descends (h : IsWritten target names) (hroot : root.text ≠ "") :
    Descends root names (root.join target) := by
  obtain ⟨hrel, hsteps, -⟩ := h.pathNames_eq
  refine ⟨Path.isAbsolute_join hroot hrel, ?_, fun name hname => (h.named name hname).isPlain⟩
  rw [Path.steps_join hroot hrel, hsteps]

theorem endsInStep (h : IsWritten target names) (hroot : root.text ≠ "") (hne : names ≠ []) :
    (root.join target).EndsInStep := by
  intro _
  obtain ⟨hrel, -, hlast⟩ := h.pathNames_eq
  obtain ⟨front, hfront⟩ := hlast hne
  obtain ⟨before, hnames, -, -⟩ := Path.names_join hroot hrel
  refine ⟨before ++ front ++ names.dropLast, names.getLast hne, ?_,
    (h.named _ (List.getLast_mem hne)).isPlain.1⟩
  rw [hnames, hfront, List.append_assoc _ names.dropLast, List.dropLast_concat_getLast hne,
    List.append_assoc]

theorem isReadable (h : IsWritten target names) (hroot : IsReadable root) :
    IsReadable (root.join target) :=
  (h.descends hroot.1).isReadable hroot (Path.join_text_ne_empty hroot.1) h.named

/-- The root is passed on the way. -/
theorem follow_root (h : IsWritten target names) (hroot : fs.locate root = .ok l) :
    fs.follow (fs.origin (root.join target)) root.steps = .ok l := by
  rw [FileSystem.origin_eq rfl (h.descends (FileSystem.locate_text_ne_empty hroot)).isAbsolute]
  exact FileSystem.follow_steps_of_locate hroot

end IsWritten

section

variable (hfs : fs.WellFormed) (hroot : fs.locate root = .ok (fs.reading root))
  (hdir : fs.isDirectoryAt (fs.reading root)) (h : IsWritten target names)

include hfs hroot hdir h

/-- The directory is there or can be made if no file is in the way. -/
theorem openDestination_ok
    (hfree : ∀ front, front <+: names → ¬ fs.isFileAt (fs.reading root ++ front)) :
    ∃ fs', openDestination fs (root.join target) = (.ok (), fs') ∧
      MakesDirectories fs (fs.reading root) names fs' ∧ fs'.WellFormed := by
  have hread := (FileSystem.locate_eq_ok.1 hroot).1
  have hbase := h.follow_root hroot
  have hsteps := (h.descends hread.1).steps
  have hreading : fs.reading (root.join target) = fs.reading root ++ names :=
    (h.descends hread.1).reading
  unfold openDestination
  rcases FileSystem.isDirectoryAt_or_none (hfree names (List.prefix_refl names)) with
    hthere | hnone
  · have hlocate : fs.locate (root.join target) = .ok (fs.reading root ++ names) := by
      apply FileSystem.locate_of_steps (h.isReadable hread) _ hthere
      rw [hsteps, FileSystem.follow_append, hbase]
      exact hfs.follow_down (Option.isSome_of_any hthere)
    have hpresent : fs.isPresent (root.join target) = true := by
      rw [FileSystem.isPresent_iff, hlocate, hreading]
    have hnotfile : ¬ fs.isFile (root.join target) = true := by
      unfold FileSystem.isFile
      rw [hlocate]
      exact hfree names (List.prefix_refl names)
    rw [if_pos hpresent, if_neg hnotfile]
    exact ⟨fs, rfl, .of_existing hfs hthere, hfs⟩
  · have habsent : fs.isPresent (root.join target) = false := by
      apply hfs.isPresent_eq_false
      rw [hreading, hnone]
    have hne : names ≠ [] := by
      rintro rfl
      rw [List.append_nil] at hnone
      rw [isDirectoryAt_iff, hnone] at hdir
      cases hdir
    obtain ⟨fs', hmade, hspec⟩ := FileSystem.createDirectories_ok hfs (h.isReadable hread)
      (h.endsInStep hread.1 hne) hsteps hbase hdir h.named
      fun front hfront => FileSystem.isDirectoryAt_or_none (hfree front hfront)
    have hwell := hfs.createDirectories (root.join target)
    rw [hmade] at hwell
    rw [if_neg (by simp [habsent]), hmade]
    exact ⟨fs', rfl, hspec, hwell⟩

/-- Where a file is in the way, nothing is made. -/
theorem openDestination_error {front : Location} (hfront : front <+: names)
    (hfile : fs.isFileAt (fs.reading root ++ front)) :
    ∃ e, openDestination fs (root.join target) = (.error e, fs) ∧
      (fs.isFileAt (fs.reading root ++ names) → e = .invalidTarget (root.join target)) := by
  have hread := (FileSystem.locate_eq_ok.1 hroot).1
  have hpath := h.descends hread.1
  obtain ⟨content, hcontent⟩ := FileSystem.isFileAt_iff.1 hfile
  have hnotdir := FileSystem.not_isDirectoryAt_of_file hcontent
  have hfrontne : front ≠ [] := by
    rintro rfl
    rw [List.append_nil] at hnotdir
    exact hnotdir hdir
  have hne : names ≠ [] := by
    rintro rfl
    exact hfrontne (List.prefix_nil.1 hfront)
  have hends := h.endsInStep hread.1 hne
  unfold openDestination
  by_cases hself : front = names
  · -- The directory would have to be where the file is.
    subst hself
    have hlocate : fs.locate (root.join target) = .ok (fs.reading root ++ front) := by
      rw [← List.dropLast_concat_getLast hne] at hpath hcontent ⊢
      exact FileSystem.locate_entry hfs hroot hpath hends (h.isReadable hread).1
        (by rw [hcontent]; rfl)
    have hpresent : fs.isPresent (root.join target) = true := by
      rw [FileSystem.isPresent_iff, hlocate, hpath.reading]
    have hisFile : fs.isFile (root.join target) = true := by
      unfold FileSystem.isFile
      rw [hlocate]
      exact hfile
    rw [if_pos hpresent, if_pos hisFile]
    exact ⟨_, rfl, fun _ => rfl⟩
  · -- The file is above the directory, and below it nothing is.
    have hnone : fs.get? (fs.reading root ++ names) = none :=
      hfs.get?_below hnotdir ((List.prefix_append_right_inj _).2 hfront) (by simpa using hself)
    have habsent : fs.isPresent (root.join target) = false := by
      apply hfs.isPresent_eq_false
      rw [hpath.reading, hnone]
    have habove : front <+: names.dropLast := by
      rw [← List.dropLast_concat_getLast hne, List.prefix_concat_iff] at hfront
      apply hfront.resolve_left
      rwa [List.dropLast_concat_getLast hne]
    have hsteps :
        (root.join target).steps = root.steps ++ names.dropLast ++ [names.getLast hne] := by
      rw [List.append_assoc, List.dropLast_concat_getLast hne]
      exact hpath.steps
    rw [if_neg (by simp [habsent]), FileSystem.createDirectories_blocked hfs (h.isReadable hread)
      hends hsteps (h.named _ (List.getLast_mem hne)) (h.follow_root hroot) habove
      hcontent]
    refine ⟨_, rfl, fun hthere => ?_⟩
    obtain ⟨_, hsome⟩ := FileSystem.isFileAt_iff.1 hthere
    rw [hnone] at hsome
    cases hsome

end

/-! ### Paths of files -/

section

variable (hroot : root.text ≠ "") (hwritten : IsWritten target names) (hne : v.relative ≠ [])
  (hnames : ∀ name ∈ v.relative, IsName name)

include hroot hne hnames

/-- A file goes to its last name in the directory. -/
theorem moveTarget_path (destination : Path) :
    moveTarget destination (v.path root) = destination.join (baseName v) := by
  have hpath : Descends root v.relative (v.path root) := .path hroot hnames
  rw [← relative_eq hne] at hpath
  unfold moveTarget
  rw [hpath.fileName?_eq]
  rfl

/-- Its new path ends with this name. -/
theorem endsInStep_target : ((root.join target).join (baseName v)).EndsInStep := by
  have hone : ∀ name ∈ [baseName v], IsName name :=
    List.forall_mem_singleton.2 (hnames _ (baseName_mem hne))
  have htext : (root.join target).text ≠ "" := Path.join_text_ne_empty hroot
  have hends := FileSystem.endsInStep_join htext (List.cons_ne_nil _ []) hone
  rwa [Path.joinTexts_singleton] at hends

include hwritten

/-- Its new path leads down from the root. -/
theorem descends_target :
    Descends root (names ++ [baseName v]) ((root.join target).join (baseName v)) := by
  have hname := hnames _ (baseName_mem hne)
  have hbase := hwritten.descends hroot
  have htext : (root.join target).text ≠ "" := Path.join_text_ne_empty hroot
  obtain ⟨hsteps, hrel⟩ := Path.steps_of_name hname
  refine ⟨(Path.isAbsolute_join htext hrel).trans hbase.isAbsolute, ?_, ?_⟩
  · rw [Path.steps_join htext hrel, hbase.steps, hsteps, List.append_assoc]
  · exact List.forall_mem_append.2 ⟨hbase.plain, List.forall_mem_singleton.2 hname.isPlain⟩

/-- The new path is the old one if the file lies in the directory. -/
theorem same_target_iff :
    ((root.join target).join (baseName v)).same (v.path root) = true ↔ LiesIn names v := by
  have hname := hnames _ (baseName_mem hne)
  have hhead : ((root.join target).join (baseName v)).parts.head = (v.path root).parts.head := by
    rw [Path.head_join (Path.join_text_ne_empty hroot) (Path.steps_of_name hname).2,
      Path.head_join hroot hwritten.pathNames_eq.1]
    exact (Path.head_foldl_join hroot hnames).symm
  have hpath : Descends root v.relative (v.path root) := .path hroot hnames
  rw [Path.same_iff hhead, (descends_target hroot hwritten hne hnames).steps, hpath.steps,
    List.append_cancel_left_eq]
  unfold LiesIn
  constructor
  · intro heq
    rw [← heq, List.dropLast_concat]
  · intro heq
    rw [← heq, relative_eq hne]

end

/-- The new paths of the files that lie elsewhere. -/
def newPaths (root : Path) (target : String) (names : List String) (files : List Visited) :
    List Path :=
  (files.filter fun v => ¬ LiesIn names v).map fun v => (root.join target).join (baseName v)

theorem newPaths_append (root : Path) (target : String) (names : List String)
    (files more : List Visited) : newPaths root target names (files ++ more) =
      newPaths root target names files ++ newPaths root target names more := by
  unfold newPaths
  rw [List.filter_append, List.map_append]

namespace Gathered

/-! ### One file -/

section

variable (h : Gathered fs₀ root names done fs) (hfs : fs₀.WellFormed)
  (hroot : fs₀.locate root = .ok (fs₀.reading root)) (hwritten : IsWritten target names)
  (hv : IsFileBelow fs₀ root v)

include h hfs hroot hwritten hv

theorem isPresent_target_eq_false (hnone : fs.get? (placeIn fs₀ root names v) = none) :
    fs.isPresent ((root.join target).join (baseName v)) = false := by
  have hpath := descends_target (FileSystem.locate_text_ne_empty hroot) hwritten hv.ne_root
    fun _ => hv.isName hfs
  apply h.wellFormed.isPresent_eq_false
  rw [hpath.reading, FileSystem.reading_congr h.current, ← List.append_assoc]
  exact hnone

variable (hdir : fs₀.isDirectoryAt (fs₀.reading root))

include hdir

/-- The new path is that of something if something is at its place. -/
theorem isPresent_target (hsome : (fs.get? (placeIn fs₀ root names v)).isSome) :
    fs.isPresent ((root.join target).join (baseName v)) = true := by
  have htext := FileSystem.locate_text_ne_empty hroot
  have hnames : ∀ name ∈ v.relative, IsName name := fun _ => hv.isName hfs
  have hpath := descends_target htext hwritten hv.ne_root hnames
  unfold placeIn at hsome
  rw [List.append_assoc] at hsome
  rw [FileSystem.isPresent_iff, hpath.reading, FileSystem.reading_congr h.current]
  exact FileSystem.locate_entry h.wellFormed (h.locate_root hroot hdir) hpath
    (endsInStep_target htext hv.ne_root hnames)
    (Path.join_text_ne_empty (Path.join_text_ne_empty htext)) hsome

/-- A file whose turn has come is renamed to its new path if nothing is there. -/
theorem rename_target (hnew : v.relative ∉ done.map (·.relative))
    (hnone : fs.get? (placeIn fs₀ root names v) = none) :
    fs.rename (v.path root) ((root.join target).join (baseName v)) =
      .ok (fs.moveTree (fs₀.reading root ++ v.relative) (placeIn fs₀ root names v)) := by
  have htext := FileSystem.locate_text_ne_empty hroot
  have hlocate := h.locate_root hroot hdir
  have hnames : ∀ name ∈ v.relative, IsName name := fun _ => hv.isName hfs
  have hsource := h.get?_source hv hnew
  obtain ⟨content, hcontent⟩ := hv.content
  rw [hcontent] at hsource
  have hfrom : fs.place (v.path root) =
      .ok ⟨fs₀.reading root ++ v.relative.dropLast, some (baseName v), false⟩ := by
    have hpath : Descends root v.relative (v.path root) := .path htext hnames
    have hends := (FileSystem.endsInStep_entry htext hv.ne_root hnames).1
    have habove : fs.isDirectoryAt (fs₀.reading root ++ v.relative.dropLast) := by
      have hheld := h.wellFormed.isDirectoryAt_dropLast (by rw [hsource]; rfl)
      rwa [List.dropLast_append_of_ne_nil hv.ne_root] at hheld
    rw [← relative_eq hv.ne_root] at hpath hnames
    exact FileSystem.place_of_descends h.wellFormed hlocate hpath hends
      (Path.steps_foldl_join htext fun _ => hv.isName hfs).2.2 hnames habove
  have hto : fs.place ((root.join target).join (baseName v)) =
      .ok ⟨fs₀.reading root ++ names, some (baseName v), false⟩ := by
    have hdirectory : fs.isDirectoryAt (fs₀.reading root ++ names) :=
      (h.directories _).2 (.inr ⟨List.prefix_append _ names, List.prefix_refl _⟩)
    exact FileSystem.place_of_descends h.wellFormed hlocate
      (descends_target htext hwritten hv.ne_root hnames) (endsInStep_target htext hv.ne_root hnames)
      (Path.join_text_ne_empty (Path.join_text_ne_empty htext))
      (List.forall_mem_append.2 ⟨hwritten.named,
        List.forall_mem_singleton.2 (hnames _ (baseName_mem hv.ne_root))⟩) hdirectory
  have hsplit : fs₀.reading root ++ v.relative.dropLast ++ [baseName v] =
      fs₀.reading root ++ v.relative := by
    rw [List.append_assoc, relative_eq hv.ne_root]
  have hnotdir := FileSystem.not_isDirectoryAt_of_file hsource
  have hsome : (fs.get? (fs₀.reading root ++ v.relative)).isSome := by rw [hsource]; rfl
  rw [← hsplit] at hnotdir hsome ⊢
  exact FileSystem.rename_free hfrom hto hsome hnone nofun fun hdir => absurd hdir hnotdir

/-- A file that finds room is behind those that are done, and its new path is returned if it has
moved. -/
theorem moveEach_room (hnew : v.relative ∉ done.map (·.relative))
    (hroom : FindsRoom fs₀ root names done v) :
    ∃ fs', Gathered fs₀ root names (done ++ [v]) fs' ∧ ∀ rest,
      moveEach (root.join target) (v.path root :: rest) fs =
        ((moveEach (root.join target) rest fs').1.map (newPaths root target names [v] ++ ·),
          (moveEach (root.join target) rest fs').2) := by
  have htext := FileSystem.locate_text_ne_empty hroot
  have hnames : ∀ name ∈ v.relative, IsName name := fun _ => hv.isName hfs
  have hsame := same_target_iff htext hwritten hv.ne_root hnames
  have htarget := moveTarget_path htext hv.ne_root hnames (root.join target)
  by_cases hin : LiesIn names v
  · have hnothing : newPaths root target names [v] = [] := by simp [newPaths, hin]
    refine ⟨fs, h.concat_kept hv hnew hin, fun rest => ?_⟩
    rw [moveEach, htarget, if_pos (hsame.2 hin), hnothing]
    cases moveEach (root.join target) rest fs with
    | mk result final => cases result <;> rfl
  · have hnone := (h.get?_placeIn hin).2 hroom
    have habsent := h.isPresent_target_eq_false hfs hroot hwritten hv hnone
    have hone : newPaths root target names [v] = [(root.join target).join (baseName v)] := by
      simp [newPaths, hin]
    refine ⟨_, h.concat_moved hv hnew hin hroom, fun rest => ?_⟩
    rw [moveEach, htarget, if_neg (fun hsame' => hin (hsame.1 hsame')), if_neg (by simp [habsent]),
      h.rename_target hfs hroot hwritten hv hdir hnew hnone, hone]
    simp only
    cases moveEach (root.join target) rest _ with
    | mk result final => cases result <;> rfl

/-- At a file that does not find room the move stops. -/
theorem moveEach_no_room (hroom : ¬ FindsRoom fs₀ root names done v) (rest : List Path) :
    moveEach (root.join target) (v.path root :: rest) fs =
      (.error (.targetExists ((root.join target).join (baseName v))), fs) := by
  have htext := FileSystem.locate_text_ne_empty hroot
  have hnames : ∀ name ∈ v.relative, IsName name := fun _ => hv.isName hfs
  have hout : ¬ LiesIn names v := fun hin => hroom (.inl hin)
  have hsome : (fs.get? (placeIn fs₀ root names v)).isSome := by
    rw [Option.isSome_iff_ne_none]
    exact fun hnone => hroom ((h.get?_placeIn hout).1 hnone)
  rw [moveEach, moveTarget_path htext hv.ne_root hnames,
    if_neg (fun hsame => hout ((same_target_iff htext hwritten hv.ne_root hnames).1 hsame)),
    if_pos (h.isPresent_target hfs hroot hwritten hv hdir hsome)]

end

/-! ### All files -/

/-- Files are moved until one does not find room. The invariant over what is done is `Gathered`. -/
theorem moveEach_cases (h : Gathered fs₀ root names done fs) (hfs : fs₀.WellFormed)
    (hroot : fs₀.locate root = .ok (fs₀.reading root)) (hwritten : IsWritten target names)
    (hdir : fs₀.isDirectoryAt (fs₀.reading root)) (hfiles : ∀ v ∈ todo, IsFileBelow fs₀ root v)
    (hdistinct : ((done ++ todo).map (·.relative)).Nodup) :
    (∃ fs', moveEach (root.join target) (todo.map (·.path root)) fs =
        (.ok (newPaths root target names todo), fs') ∧
      Gathered fs₀ root names (done ++ todo) fs') ∨
    ∃ (front : List Visited) (v : Visited) (rest : List Visited) (fs' : FileSystem),
      todo = front ++ v :: rest ∧ ¬ FindsRoom fs₀ root names (done ++ front) v ∧
      moveEach (root.join target) (todo.map (·.path root)) fs =
        (.error (.targetExists ((root.join target).join (baseName v))), fs') ∧
      Gathered fs₀ root names (done ++ front) fs' := by
  induction todo generalizing done fs with
  | nil => exact .inl ⟨fs, rfl, by rwa [List.append_nil]⟩
  | cons v rest ih =>
    have hv := hfiles v List.mem_cons_self
    have hrest : ∀ w ∈ rest, IsFileBelow fs₀ root w := fun w hw =>
      hfiles w (List.mem_cons_of_mem v hw)
    have hnew : v.relative ∉ done.map (·.relative) := FileSystem.notMem_done hdistinct
    rw [List.map_cons]
    by_cases hroom : FindsRoom fs₀ root names done v
    · obtain ⟨fs₁, hstep, hone⟩ := h.moveEach_room hfs hroot hwritten hv hdir hnew hroom
      rw [List.append_cons] at hdistinct
      rw [hone]
      rcases ih hstep hrest hdistinct with
        ⟨fs', hrun, hfinal⟩ | ⟨front, w, later, fs', rfl, hnoroom, hrun, hfinal⟩
      · refine .inl ⟨fs', ?_, by rwa [List.append_cons]⟩
        have hpaths := newPaths_append root target names [v] rest
        rw [List.singleton_append] at hpaths
        rw [hrun, hpaths]
        rfl
      · rw [← List.append_cons] at hnoroom hfinal
        refine .inr ⟨v :: front, w, later, fs', rfl, hnoroom, ?_, hfinal⟩
        rw [hrun]
        rfl
    · refine .inr ⟨[], v, rest, fs, rfl, ?_, ?_, ?_⟩
      · rwa [List.append_nil]
      · exact h.moveEach_no_room hfs hroot hwritten hv hdir hroom _
      · rwa [List.append_nil]

end Gathered

/-! ### Moves -/

/-- The files that a pattern selects, in the order in which they are moved. -/
def matchingFiles (fs : FileSystem) (root : Path) (pattern : Pattern) : List Visited :=
  (fs.collectContentsFirst (fs.reading root)).filter
    fun v => v.entry.isFile && pattern.isMatch v.name

theorem mem_matchingFiles {pattern : Pattern} (hfs : fs.WellFormed) :
    v ∈ matchingFiles fs root pattern ↔ IsFileBelow fs root v ∧ pattern.isMatch v.name = true := by
  unfold matchingFiles
  rw [List.mem_filter, FileSystem.mem_collectContentsFirst_iff hfs, Bool.and_eq_true, ← and_assoc]
  exact and_congr_left fun _ => ⟨fun h => ⟨h.1.1, h.1.2, h.2⟩, fun h => ⟨⟨h.1, h.2⟩, h.3⟩⟩

/-- All files find room in the directory: no two of them have the same name, and for those that lie
elsewhere nothing with their name is there. -/
def HaveRoom (fs : FileSystem) (root : Path) (names : List String) (files : List Visited) : Prop :=
  (files.map baseName).Nodup ∧
    ∀ v ∈ files, ¬ LiesIn names v → fs.get? (placeIn fs root names v) = none

instance (fs : FileSystem) (root : Path) (names : List String) (files : List Visited) :
    Decidable (HaveRoom fs root names files) :=
  inferInstanceAs (Decidable (_ ∧ ∀ v ∈ files, ¬ LiesIn names v → _ = none))

/-- Fewer files find room too, in whatever order. -/
theorem HaveRoom.subperm {files more : List Visited} (h : HaveRoom fs root names more)
    (hfiles : files.Subperm more) : HaveRoom fs root names files := by
  obtain ⟨some, hperm, hsublist⟩ := hfiles
  refine ⟨?_, fun v hv => h.2 v (hsublist.subset (hperm.mem_iff.2 hv))⟩
  exact (hperm.map baseName).nodup_iff.1 (h.1.sublist (hsublist.map baseName))

theorem HaveRoom.findsRoom {front rest : List Visited}
    (h : HaveRoom fs root names (front ++ v :: rest)) : FindsRoom fs root names front v := by
  obtain ⟨hdistinct, hfree⟩ := h
  by_cases hin : LiesIn names v
  · exact .inl hin
  · exact .inr ⟨hfree v (by simp) hin, FileSystem.notMem_done hdistinct⟩

/-- A move of the files that a pattern selects into a directory below the root.

If a file is in the way of the directory, the move fails and changes nothing. Else it succeeds if
and only if all files find room. Then `Gathered` says what the tree is like, and the new paths of
the files that have moved are returned. If not all find room, it stops at the first one that does
not, and the tree is as if only the files before had been selected. -/
theorem moveFiles_gathers (fs : FileSystem) (root : Path) (source target : String)
    (names : List String) (pattern : Pattern) (hfs : fs.WellFormed)
    (hroot : fs.isDirectory root = true) (hpattern : Pattern.compile source = .ok pattern)
    (hwritten : IsWritten target names) :
    (∀ v, v ∈ matchingFiles fs root pattern ↔
      IsFileBelow fs root v ∧ pattern.isMatch v.name = true) ∧
    ((∃ front, front <+: names ∧ fs.isFileAt (fs.reading root ++ front) = true) →
      ∃ e, moveFiles fs root source target = (.error e, fs) ∧
        (fs.isFileAt (fs.reading root ++ names) = true → e = .invalidTarget (root.join target))) ∧
    ((∀ front, front <+: names → ¬ fs.isFileAt (fs.reading root ++ front) = true) →
      (HaveRoom fs root names (matchingFiles fs root pattern) → ∃ fs',
        moveFiles fs root source target =
          (.ok (newPaths root target names (matchingFiles fs root pattern)), fs') ∧
        Gathered fs root names (matchingFiles fs root pattern) fs') ∧
      (¬ HaveRoom fs root names (matchingFiles fs root pattern) →
        ∃ (front : List Visited) (v : Visited) (rest : List Visited) (fs' : FileSystem),
        matchingFiles fs root pattern = front ++ v :: rest ∧ ¬ FindsRoom fs root names front v ∧
        moveFiles fs root source target =
          (.error (.targetExists ((root.join target).join (baseName v))), fs') ∧
        Gathered fs root names front fs')) := by
  obtain ⟨hlocate, hdir⟩ := FileSystem.isDirectory_iff.1 hroot
  have hmem : ∀ v, v ∈ matchingFiles fs root pattern ↔
      IsFileBelow fs root v ∧ pattern.isMatch v.name = true := fun _ => mem_matchingFiles hfs
  refine ⟨hmem, ?_, ?_⟩
  · rintro ⟨front, hfront, hfile⟩
    obtain ⟨e, hopen, he⟩ := openDestination_error hfs hlocate hdir hwritten hfront hfile
    refine ⟨e, ?_, he⟩
    unfold moveFiles
    simp only [hpattern, filesMatching_of_located hlocate, hopen]
  · intro hfree
    obtain ⟨fs₁, hopen, hmade, hwell⟩ := openDestination_ok hfs hlocate hdir hwritten hfree
    have hrun : moveFiles fs root source target = moveEach (root.join target)
        ((matchingFiles fs root pattern).map (·.path root)) fs₁ := by
      unfold moveFiles
      simp only [hpattern, filesMatching_of_located hlocate, hopen]
      rfl
    have hdistinct : ((matchingFiles fs root pattern).map (·.relative)).Nodup :=
      (FileSystem.nodup_collectContentsFirst hfs _).sublist
        (List.filter_sublist.map Visited.relative)
    rw [hrun]
    rcases (Gathered.start hmade hwell hfree).moveEach_cases hfs hlocate hwritten hdir
        (fun v hv => ((hmem v).1 hv).1) hdistinct with
      ⟨fs', hall, hfinal⟩ | ⟨front, v, rest, fs', hsplit, hnoroom, hstop, hfinal⟩
    · rw [List.nil_append] at hfinal
      exact ⟨fun _ => ⟨fs', hall, hfinal⟩, fun hno => absurd ⟨hfinal.distinct, hfinal.free⟩ hno⟩
    · rw [List.nil_append] at hnoroom hfinal
      have hno : ¬ HaveRoom fs root names (matchingFiles fs root pattern) := by
        intro hroom
        rw [hsplit] at hroom
        exact hnoroom hroom.findsRoom
      exact ⟨fun hroom => absurd hroom hno,
        fun _ => ⟨front, v, rest, fs', hsplit, hnoroom, hstop, hfinal⟩⟩

/-! ### Files from several directories -/

/-- A staging tree with files in several directories, one of them in the directory where all go. -/
def scatteredFiles : FileSystem :=
  { entries := [
      (["stage"], .directory), (["stage", "a.txt"], .file "a".toUTF8),
      (["stage", "src"], .directory), (["stage", "src", "b.txt"], .file "b".toUTF8),
      (["stage", "lib"], .directory), (["stage", "lib", "c.txt"], .file "c".toUTF8)] }

theorem moveFiles_gathers_of_scatteredFiles :
    ∃ (pattern : Pattern) (fs' : FileSystem), Pattern.compile "**/*.txt" = .ok pattern ∧
      moveFiles scatteredFiles ⟨"/stage"⟩ "**/*.txt" "./lib" =
        (.ok (newPaths ⟨"/stage"⟩ "./lib" ["lib"]
          (matchingFiles scatteredFiles ⟨"/stage"⟩ pattern)), fs') ∧
      Gathered scatteredFiles ⟨"/stage"⟩ ["lib"]
        (matchingFiles scatteredFiles ⟨"/stage"⟩ pattern) fs' := by
  have hcompiles : (Pattern.compile "**/*.txt").isOk = true := by decide +kernel
  cases hpattern : Pattern.compile "**/*.txt" with
  | error fault => rw [hpattern] at hcompiles; cases hcompiles
  | ok pattern =>
    have hwritten : IsWritten "./lib" ["lib"] := ⟨by decide +kernel, by decide +kernel⟩
    obtain ⟨-, -, hmove⟩ := moveFiles_gathers scatteredFiles ⟨"/stage"⟩ "**/*.txt" "./lib" ["lib"]
      pattern (by decide +kernel) (by decide +kernel) hpattern hwritten
    have hfree : ∀ front ∈ ["lib"].inits, ¬ scatteredFiles.isFileAt
        (scatteredFiles.reading ⟨"/stage"⟩ ++ front) = true := by decide +kernel
    -- Whatever the pattern selects, all files of the tree would find room.
    let everything := (scatteredFiles.below
      (scatteredFiles.reading ⟨"/stage"⟩)).filter (·.entry.isFile)
    have hall : HaveRoom scatteredFiles ⟨"/stage"⟩ ["lib"] everything := by decide +kernel
    have hsubperm : (matchingFiles scatteredFiles ⟨"/stage"⟩ pattern).Subperm everything := by
      have hwalk := FileSystem.collectContentsFirst_perm scatteredFiles
        (scatteredFiles.reading ⟨"/stage"⟩)
      have hfewer : (matchingFiles scatteredFiles ⟨"/stage"⟩ pattern).Sublist _ :=
        List.monotone_filter_right _ fun v hv => (Bool.and_eq_true_iff.1 hv).1
      exact hfewer.subperm.trans (hwalk.filter (·.entry.isFile)).subperm
    obtain ⟨hroom, -⟩ := hmove fun front hfront => hfree front ((List.mem_inits _ _).2 hfront)
    obtain ⟨fs', hrun, hfinal⟩ := hroom (hall.subperm hsubperm)
    exact ⟨pattern, fs', rfl, hrun, hfinal⟩

end Scaffold.Staging
