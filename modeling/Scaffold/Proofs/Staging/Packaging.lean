import Scaffold.Proofs.Builtin.Packages
import Scaffold.Proofs.Staging.Settling

/-! # Packages as directories

  The path of a package name leads down from where it is followed, by one name
  for each segment. So files that move to the path of a package name come to lie
  in the directory of the package, below the root.

  - `Builtin.IsPackage.toPackagePath`, `Builtin.IsPackage.components`: the path.
  - `moveFiles_gathered`: what a move that succeeds leaves.
  - `package_names_are_safe_paths`: package names, their paths and their directories.
-/

namespace Scaffold

open FileSystem (Descends IsFileBelow Visited)

/-- The parts of a text keep their order when another separator takes the place of theirs. -/
theorem Text.map_joinWith {old new : Char} {parts : List (List Char)}
    (h : ∀ part ∈ parts, old ∉ part) :
    (Text.joinWith old parts).map (fun c => if c = old then new else c) =
      Text.joinWith new parts := by
  have hpart : ∀ part : List Char, old ∉ part →
      part.map (fun c => if c = old then new else c) = part := by
    intro part hpart
    refine (List.map_congr_left fun c hc => if_neg ?_).trans (List.map_id' part)
    rintro rfl
    exact hpart hc
  induction parts with
  | nil => rfl
  | cons part parts ih =>
    obtain ⟨hfirst, hrest⟩ := List.forall_mem_cons.1 h
    cases parts with
    | nil => exact hpart part hfirst
    | cons next parts =>
      rw [Text.joinWith, List.map_append, List.map_cons, if_pos rfl, hpart part hfirst, ih hrest]
      rfl

namespace Builtin

variable {name other : String} {segments : List String}

/-! ### Paths of packages -/

theorem call_packageToPath : packageToPath.call = toPackagePath := rfl

theorem IsPackageSegment.slash_notMem {segment : String} (h : IsPackageSegment segment) :
    '/' ∉ segment.toList := fun hslash => (h.isWordPart hslash).ne.2.1 rfl

theorem IsPackageSegment.dot_notMem {segment : String} (h : IsPackageSegment segment) :
    '.' ∉ segment.toList := fun hdot => (h.isWordPart hdot).ne.1 rfl

/-- A segment leads to an entry of the directory it is followed from. -/
theorem IsPackageSegment.isPlain {segment : String} (h : IsPackageSegment segment) :
    Path.IsPlain segment := by
  refine ⟨?_, ?_⟩
  · rintro (rfl | rfl)
    · exact h.ne_empty rfl
    · exact h.dot_notMem (by decide)
  · rintro rfl
    exact h.dot_notMem (by decide)

/-- The path of a package is its segments with slashes between them. -/
theorem IsPackage.toPackagePath (h : IsPackage name segments) :
    toPackagePath name = Text.joinTexts '/' segments := by
  unfold Builtin.toPackagePath
  rw [h.joined]
  unfold Text.joinTexts
  rw [String.toList_ofList, Text.map_joinWith]
  intro part hpart
  obtain ⟨segment, hsegment, rfl⟩ := List.mem_map.1 hpart
  exact (h.segment segment hsegment).dot_notMem

/-- It leads down by the segments. -/
theorem IsPackage.steps (h : IsPackage name segments) :
    Path.steps ⟨Builtin.toPackagePath name⟩ = segments ∧
      Path.isAbsolute ⟨Builtin.toPackagePath name⟩ = false := by
  rw [h.toPackagePath]
  exact Path.steps_of_plain fun segment hsegment =>
    ⟨(h.segment segment hsegment).isPlain, (h.segment segment hsegment).slash_notMem⟩

/-- Below a root it leads to the directory with the segments. -/
theorem IsPackage.descends {root : Path} (h : IsPackage name segments) (hroot : root.text ≠ "") :
    Descends root segments (root.join (Builtin.toPackagePath name)) := by
  obtain ⟨hsteps, hrel⟩ := h.steps
  refine ⟨Path.isAbsolute_join hroot hrel, ?_,
    fun segment hsegment => (h.segment segment hsegment).isPlain⟩
  rw [Path.steps_join hroot hrel, hsteps]

/-- Its components are the segments. -/
theorem IsPackage.components (h : IsPackage name segments) :
    Path.components ⟨Builtin.toPackagePath name⟩ = segments.map Path.Component.normal := by
  obtain ⟨hsteps, hrel⟩ := h.steps
  have hhead : (Path.mk (Builtin.toPackagePath name)).parts.head = [] := by
    have hnames : Path.names ⟨Builtin.toPackagePath name⟩ = segments := by
      rw [h.toPackagePath]
      exact Path.names_joinTexts h.nonempty fun segment hsegment =>
        (h.segment segment hsegment).slash_notMem
    rw [Path.head_eq, hrel, hnames, if_neg Bool.false_ne_true, if_neg]
    intro hdot
    have hmem := List.mem_of_mem_head? hdot
    exact (h.segment _ hmem).isPlain.1 (.inr rfl)
  rw [Path.components_eq, hhead, hsteps, List.nil_append]
  refine List.map_congr_left fun segment hsegment => ?_
  exact if_neg (h.segment segment hsegment).isPlain.2

/-- Packages with the same path are the same. -/
theorem IsPackage.eq_of_same {others : List String} (h : IsPackage name segments)
    (hother : IsPackage other others)
    (hsame : Path.same ⟨Builtin.toPackagePath name⟩ ⟨Builtin.toPackagePath other⟩ = true) :
    name = other := by
  unfold Path.same at hsame
  rw [beq_iff_eq, h.components, hother.components] at hsame
  have hsegments : segments = others :=
    List.map_injective_iff.2 (fun _ _ => Path.Component.normal.inj) hsame
  rw [h.joined, hother.joined, hsegments]

end Builtin

namespace Staging

variable {fs fs' : FileSystem} {root : Path} {source target : String} {names : List String}
  {paths : List Path}

/-! ### Moves to a directory below the root -/

theorem compile_of_moved (hrun : moveFiles fs root source target = (.ok paths, fs')) :
    ∃ pattern, Pattern.compile source = .ok pattern := by
  unfold moveFiles at hrun
  split at hrun
  · cases hrun
  · next pattern hpattern => exact ⟨pattern, hpattern⟩

/-- A move opens its directory and then takes the files there. -/
theorem moveFiles_eq {pattern : Pattern} (hroot : fs.locate root = .ok (fs.reading root))
    (hpattern : Pattern.compile source = .ok pattern) :
    moveFiles fs root source target = match openDestination fs (root.join target) with
      | (.error e, fs') => (.error e, fs')
      | (.ok (), fs') => moveEach (root.join target)
          ((matchingFiles fs root pattern).map (·.path root)) fs' := by
  unfold moveFiles
  simp only [hpattern, filesMatching_of_located hroot]
  rfl

/-- The directory of a move that has succeeded has names that a directory can give. -/
theorem isName_of_moved (hfs : fs.WellFormed) (hroot : fs.isDirectory root = true)
    (hpath : Descends root names (root.join target))
    (hrun : moveFiles fs root source target = (.ok paths, fs')) :
    ∀ name ∈ names, IsName name := by
  intro name hname
  obtain ⟨pattern, hpattern⟩ := compile_of_moved hrun
  obtain ⟨hwell, -, hthere, -⟩ := moveFiles_liesAt hfs hroot hpattern hrun
  obtain ⟨-, hdir⟩ := FileSystem.isDirectory_iff.1 hthere
  rw [hpath.reading] at hdir
  exact hwell.isName_of_mem (Option.isSome_of_any hdir) (List.mem_append_right _ hname)

/-- Behind a move that has succeeded the files are in the directory with the names of the target,
and the new paths of those that have moved are returned. -/
theorem moveFiles_gathered {pattern : Pattern} (hfs : fs.WellFormed)
    (hroot : fs.isDirectory root = true) (hwritten : IsWritten target names)
    (hpattern : Pattern.compile source = .ok pattern)
    (hrun : moveFiles fs root source target = (.ok paths, fs')) :
    paths = newPaths root target names (matchingFiles fs root pattern) ∧
      Gathered fs root names (matchingFiles fs root pattern) fs' := by
  obtain ⟨hlocate, hdir⟩ := FileSystem.isDirectory_iff.1 hroot
  rw [moveFiles_eq hlocate hpattern] at hrun
  by_cases hfree : ∀ front, front <+: names → ¬ fs.isFileAt (fs.reading root ++ front) = true
  · obtain ⟨fs₁, hopen, hmade, hwell⟩ := openDestination_ok hfs hlocate hdir hwritten hfree
    rw [hopen] at hrun
    have hdistinct : ((matchingFiles fs root pattern).map (·.relative)).Nodup :=
      (FileSystem.nodup_collectContentsFirst hfs _).sublist
        (List.filter_sublist.map Visited.relative)
    rcases (Gathered.start hmade hwell hfree).moveEach_cases hfs hlocate hwritten hdir
        (fun v hv => ((mem_matchingFiles hfs).1 hv).1) hdistinct with
      ⟨final, hall, hfinal⟩ | ⟨front, v, rest, final, -, -, hstop, -⟩
    · obtain ⟨hpaths, rfl⟩ := Prod.mk.inj (hall.symm.trans hrun)
      exact ⟨(Except.ok.inj hpaths).symm, hfinal⟩
    · cases hstop.symm.trans hrun
  · push Not at hfree
    obtain ⟨front, hfront, hfile⟩ := hfree
    obtain ⟨e, hopen, -⟩ := openDestination_error hfs hlocate hdir hwritten hfront hfile
    rw [hopen] at hrun
    cases hrun

/-- The new path of a file that has moved leads to its place in the directory. -/
theorem Gathered.locate_target {files : List Visited} (h : Gathered fs root names files fs')
    (hfs : fs.WellFormed) (hroot : fs.isDirectory root = true) (hwritten : IsWritten target names)
    {v : Visited} (hv : v ∈ files) :
    fs'.locate ((root.join target).join (baseName v)) = .ok (placeIn fs root names v) := by
  obtain ⟨hlocate, hdir⟩ := FileSystem.isDirectory_iff.1 hroot
  have hfile := h.below v hv
  have hpath := descends_target (FileSystem.locate_text_ne_empty hlocate) hwritten hfile.ne_root
    fun _ => hfile.isName hfs
  have hthere := h.isPresent_target hfs hlocate hwritten hfile hdir (by rw [h.moved v hv]; rfl)
  rw [FileSystem.isPresent_iff, hpath.reading, FileSystem.reading_congr h.current,
    ← List.append_assoc] at hthere
  exact hthere

end Staging

namespace Builtin

open Staging

/-! ### Package names -/

/-- A text is accepted as a package name if it is one, segment by segment. The path of a package
name is relative, and its components are the segments, none of which leads nowhere or up. No other
package name has the same path. A move to this path that succeeds leaves all files that it selects
in the directory with the segments below the root, each with what it held, and their new paths lead
there. -/
theorem package_names_are_safe_paths (name : String) :
    (isPackage.call name = "" ↔ ∃ segments, IsPackage name segments) ∧
    ∀ segments, IsPackage name segments →
      (Path.isAbsolute ⟨packageToPath.call name⟩ = false ∧
        Path.components ⟨packageToPath.call name⟩ = segments.map .normal ∧
        ∀ segment ∈ segments, segment ≠ "" ∧ segment ≠ "." ∧ segment ≠ "..") ∧
      (∀ other, isPackage.call other = "" →
        Path.same ⟨packageToPath.call name⟩ ⟨packageToPath.call other⟩ = true → name = other) ∧
      ∀ (fs : FileSystem) (root : Path) (source : String) (paths : List Path) (fs' : FileSystem),
        fs.WellFormed → fs.isDirectory root = true →
        moveFiles fs root source (packageToPath.call name) = (.ok paths, fs') →
        ∃ pattern, Pattern.compile source = .ok pattern ∧
          paths = newPaths root (packageToPath.call name) segments
            (matchingFiles fs root pattern) ∧
          Gathered fs root segments (matchingFiles fs root pattern) fs' ∧
          ∀ v ∈ matchingFiles fs root pattern,
            fs'.locate ((root.join (packageToPath.call name)).join (baseName v)) =
                .ok (fs.reading root ++ segments ++ [baseName v]) ∧
              fs'.get? (fs.reading root ++ segments ++ [baseName v]) = some v.entry := by
  rw [call_isPackage, call_packageToPath]
  refine ⟨checkPackage_eq_empty_iff, fun segments h => ⟨⟨h.steps.2, h.components, ?_⟩, ?_, ?_⟩⟩
  · intro segment hsegment
    obtain ⟨hidle, hup⟩ := (h.segment segment hsegment).isPlain
    exact ⟨fun hempty => hidle (.inl hempty), fun hdot => hidle (.inr hdot), hup⟩
  · intro other hother hsame
    obtain ⟨others, hothers⟩ := checkPackage_eq_empty_iff.1 hother
    exact h.eq_of_same hothers hsame
  · intro fs root source paths fs' hfs hroot hrun
    obtain ⟨pattern, hpattern⟩ := compile_of_moved hrun
    have htext := FileSystem.locate_text_ne_empty (FileSystem.isDirectory_iff.1 hroot).1
    -- The move has found or made the directory, so its names are not too long.
    have hwritten : IsWritten (toPackagePath name) segments :=
      ⟨isName_of_moved hfs hroot (h.descends htext) hrun, .inl h.toPackagePath⟩
    obtain ⟨hpaths, hgathered⟩ := moveFiles_gathered hfs hroot hwritten hpattern hrun
    exact ⟨pattern, hpattern, hpaths, hgathered, fun v hv =>
      ⟨hgathered.locate_target hfs hroot hwritten hv, hgathered.moved v hv⟩⟩

/-- A file moves to the directory of a package, which the move makes. -/
theorem package_names_are_safe_paths_of_settledFile :
    IsPackage "com.example" ["com", "example"] ∧
    ∃ paths fs', moveFiles settledFile ⟨"/stage"⟩ "lib/*.txt" (packageToPath.call "com.example") =
        (.ok paths, fs') ∧
      fs'.get? ["stage", "com", "example", "a.txt"] = some (.file "A".toUTF8) := by
  have hpackage : IsPackage "com.example" ["com", "example"] := by decide +kernel
  have hroot : settledFile.isDirectory ⟨"/stage"⟩ = true := by decide +kernel
  obtain ⟨-, hpaths⟩ := package_names_are_safe_paths "com.example"
  obtain ⟨-, -, hmoves⟩ := hpaths _ hpackage
  obtain ⟨pattern, hpattern, hfiles⟩ := matchingFiles_settledFile
  cases hrun : moveFiles settledFile ⟨"/stage"⟩ "lib/*.txt" (packageToPath.call "com.example") with
  | mk result fs' =>
    cases result with
    | error e =>
      -- The one file finds room in the new directory.
      rw [moveFiles_eq (FileSystem.isDirectory_iff.1 hroot).1 hpattern, hfiles] at hrun
      have hfails := congrArg (fun outcome => outcome.1.isOk) hrun
      replace hfails : _ = false := hfails
      exact absurd hfails (by decide +kernel)
    | ok paths =>
      obtain ⟨other, hother, -, -, hplaces⟩ := hmoves _ _ _ _ _ (by decide +kernel) hroot hrun
      obtain rfl : pattern = other := Except.ok.inj (hpattern.symm.trans hother)
      have hplace := (hplaces ⟨["lib", "a.txt"], .file "A".toUTF8⟩ (by simp [hfiles])).2
      exact ⟨hpackage, paths, fs', rfl, hplace⟩

end Builtin

end Scaffold
