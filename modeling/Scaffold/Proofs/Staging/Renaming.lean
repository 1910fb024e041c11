import Scaffold.Proofs.FileSystem.Renaming
import Scaffold.Proofs.Staging.Enclosure

/-! # What comes of a rename

  A rename is refused and changes nothing, or the entry has its new name
  already, or it is carried to a place where nothing was.

  - `SpellsRoot`: the paths that are taken for the root.
  - `renameFile_outcomes`: an entry whose path is made of names, and the way back.
  - `renameFile_within_directory`: where an entry goes under whatever new name.
  - `renameFile_of_root`: the root itself, by whatever path.
-/

namespace Scaffold.Staging

open Scaffold.Path (IsIdle IsPlain)
open FileSystem (Carried Descends readNames)

variable {fs fs' : FileSystem} {root path : Path} {file newName : String} {l : Location}

/-! ### Outcomes -/

/-- A rename is refused, or there is nothing to do, or the file system renames the entry to
something that was not there. -/
theorem renameFile_cases (fs : FileSystem) (root : Path) (file newName : String) :
    (∃ e, renameFile fs root file newName = (.error e, fs)) ∨
    (fs.isPresent (root.join file) = true ∧ (root.join file).fileName? = some newName ∧
      renameFile fs root file newName = (.ok (root.join file), fs)) ∨
    ∃ fs', fs.isPresent ((root.join file).withFileName newName) = false ∧
      fs.rename (root.join file) ((root.join file).withFileName newName) = .ok fs' ∧
      renameFile fs root file newName = (.ok ((root.join file).withFileName newName), fs') := by
  unfold renameFile
  simp only
  split
  · exact .inl ⟨_, rfl⟩
  · next hpresent =>
    split
    · exact .inl ⟨_, rfl⟩
    · split
      · next hname => exact .inr (.inl ⟨by simpa using hpresent, hname, rfl⟩)
      · split
        · exact .inl ⟨_, rfl⟩
        · next habsent =>
          split
          · exact .inl ⟨_, rfl⟩
          · next fs' hrename =>
            exact .inr (.inr ⟨fs', by simpa using habsent, hrename, rfl⟩)

section

variable (hpresent : fs.isPresent (root.join file) = true)
  (hother : ¬ (root.join file).same root = true)

include hpresent hother

/-- What is not taken for the root and has its name already keeps it. -/
theorem renameFile_named (hname : (root.join file).fileName? = some newName) :
    renameFile fs root file newName = (.ok (root.join file), fs) := by
  unfold renameFile
  simp only [hpresent, hname]
  rw [if_neg (by simp), if_neg hother, if_pos trivial]

/-- What is not taken for the root is given another name by the file system, if nothing has it. -/
theorem renameFile_other (hname : (root.join file).fileName? ≠ some newName) :
    renameFile fs root file newName =
      if fs.isPresent ((root.join file).withFileName newName) then
        (.error (.targetExists ((root.join file).withFileName newName)), fs)
      else match fs.rename (root.join file) ((root.join file).withFileName newName) with
        | .error fault => (.error (.io fault), fs)
        | .ok fs' => (.ok ((root.join file).withFileName newName), fs') := by
  unfold renameFile
  simp only
  exact (if_neg (by simp [hpresent])).trans ((if_neg hother).trans (if_neg hname))

end

/-! ### Another name in the same directory -/

section

variable (hfs : fs.WellFormed) (h : fs.locate (root.join file) = .ok l)
  (hother : ¬ (root.join file).same root = true) (hends : (root.join file).EndsInName)
  (hname : IsName newName) (hnew : l.getLast? ≠ some newName)

include h hends hnew

/-- The path of an entry that has another name ends in another name. -/
theorem fileName?_of_located :
    ∃ last, (root.join file).fileName? = some last ∧ (root.join file).fileName? ≠ some newName := by
  obtain ⟨last, -, hfile, hl, -⟩ := FileSystem.place_of_locate_named h hends
  refine ⟨last, hfile, fun hsame => hnew ?_⟩
  rw [hfile] at hsame
  rw [← hl, List.getLast?_concat, Option.some.inj hsame]

include hother hname

/-- A name that something in the directory has is refused. -/
theorem renameFile_taken (hthere : (fs.get? (l.dropLast ++ [newName])).isSome) :
    renameFile fs root file newName =
      (.error (.targetExists ((root.join file).withFileName newName)), fs) := by
  obtain ⟨last, hfile, hdiffers⟩ := fileName?_of_located h hends hnew
  rw [renameFile_other (FileSystem.isPresent_of_locate h) hother hdiffers,
    if_pos (FileSystem.isPresent_withFileName h hname hfile hthere)]

include hfs

/-- A name that is free in the directory is given to the entry. -/
theorem renameFile_free (hnone : fs.get? (l.dropLast ++ [newName]) = none) :
    ∃ fs', renameFile fs root file newName =
        (.ok ((root.join file).withFileName newName), fs') ∧
      fs.reading ((root.join file).withFileName newName) = l.dropLast ++ [newName] ∧
      Carried fs l (l.dropLast ++ [newName]) fs' := by
  obtain ⟨last, hfile, hdiffers⟩ := fileName?_of_located h hends hnew
  obtain ⟨fs', hrename, hcarried⟩ := FileSystem.rename_sibling hfs h hends hname hnone
  have hreading : l.dropLast ++ [newName] =
      fs.reading ((root.join file).withFileName newName) :=
    FileSystem.place_eq_reading (FileSystem.place_withFileName h hname hfile) rfl
  have habsent : fs.isPresent ((root.join file).withFileName newName) = false :=
    hfs.isPresent_eq_false (hreading ▸ hnone)
  refine ⟨fs', ?_, hreading.symm, hcarried⟩
  rw [renameFile_other (FileSystem.isPresent_of_locate h) hother hdiffers, habsent, hrename]
  rfl

end

/-! ### Paths of the root -/

/-- The text spells the root itself: it has no steps behind the root, or it is the whole path of the
root step by step. -/
def SpellsRoot (root : Path) (file : String) : Prop :=
  if Path.isAbsolute ⟨file⟩ then root.isAbsolute = true ∧ Path.steps ⟨file⟩ = root.steps
  else Path.steps ⟨file⟩ = []

instance (root : Path) (file : String) : Decidable (SpellsRoot root file) :=
  inferInstanceAs (Decidable (if Path.isAbsolute ⟨file⟩ then _ else _))

/-- Paths are compared by their spelling. -/
theorem same_root_iff (hroot : root.text ≠ "") :
    (root.join file).same root = true ↔ SpellsRoot root file := by
  unfold SpellsRoot
  by_cases habs : Path.isAbsolute ⟨file⟩ = true
  · rw [if_pos habs, Path.join_absolute root habs, Path.same_iff_head_steps,
      Path.isAbsolute_iff_head.1 habs, Path.isAbsolute_iff_head, eq_comm]
  · have hrel := Bool.eq_false_iff.2 habs
    rw [if_neg habs, Path.same_iff (Path.head_join hroot hrel), Path.steps_join hroot hrel,
      List.append_right_eq_self]

/-! ### Entries by their names -/

section

variable {front : List String} {name : String}

/-- Names with slashes between them lead down from the root. -/
theorem descends_joinTexts (hroot : root.text ≠ "") {parts : List String}
    (hparts : ∀ part ∈ parts, IsPlain part ∧ '/' ∉ part.toList) :
    Descends root parts (root.join (Text.joinTexts '/' parts)) := by
  obtain ⟨hsteps, hrel⟩ := Path.steps_of_plain hparts
  refine ⟨Path.isAbsolute_join hroot hrel, ?_, fun part hpart => (hparts part hpart).1⟩
  rw [Path.steps_join hroot hrel, hsteps]

/-- They do not spell the root. -/
theorem not_same_root_joinTexts (hroot : root.text ≠ "")
    (hparts : ∀ part ∈ front ++ [name], IsPlain part ∧ '/' ∉ part.toList) :
    ¬ (root.join (Text.joinTexts '/' (front ++ [name]))).same root = true := by
  obtain ⟨hsteps, hrel⟩ := Path.steps_of_plain hparts
  rw [same_root_iff hroot]
  unfold SpellsRoot
  rw [hrel, if_neg Bool.false_ne_true, hsteps]
  simp

section

variable (hfs : fs.WellFormed) (hroot : fs.locate root = .ok l)
  (hthere : (fs.get? (l ++ (front ++ [name]))).isSome)

include hfs hroot hthere

/-- An entry below the root is found by its names. -/
theorem locate_joinTexts :
    fs.locate (root.join (Text.joinTexts '/' (front ++ [name]))) = .ok (l ++ front ++ [name]) ∧
      (root.join (Text.joinTexts '/' (front ++ [name]))).EndsInName ∧
      ¬ (root.join (Text.joinTexts '/' (front ++ [name]))).same root = true := by
  have htext := FileSystem.locate_text_ne_empty hroot
  have hnames : ∀ part ∈ front ++ [name], IsName part := fun part hpart =>
    hfs.isName_of_mem hthere (List.mem_append_right l hpart)
  have hparts : ∀ part ∈ front ++ [name], IsPlain part ∧ '/' ∉ part.toList := fun part hpart =>
    ⟨(hnames part hpart).isPlain, (hnames part hpart).no_slash⟩
  have hdown := descends_joinTexts htext hparts
  have hends := FileSystem.endsInStep_join htext (by simp) hnames
  have hsteps := hdown.steps
  rw [← List.append_assoc] at hsteps
  obtain ⟨before, hbefore, -⟩ := FileSystem.names_of_endsInStep hends hsteps
  refine ⟨?_, ⟨before, name, 0, hbefore, (hnames name (by simp)).isPlain⟩,
    not_same_root_joinTexts htext hparts⟩
  rw [List.append_assoc]
  exact FileSystem.locate_entry hfs hroot hdown hends (Path.join_text_ne_empty htext) hthere

variable (hname : IsName newName) (hnew : newName ≠ name)

include hname hnew

/-- Another name that is taken there is refused. -/
theorem renameFile_joinTexts_taken (htaken : (fs.get? (l ++ (front ++ [newName]))).isSome) :
    renameFile fs root (Text.joinTexts '/' (front ++ [name])) newName =
      (.error (.targetExists
        ((root.join (Text.joinTexts '/' (front ++ [name]))).withFileName newName)), fs) := by
  obtain ⟨hlocate, hends, hother⟩ := locate_joinTexts hfs hroot hthere
  refine renameFile_taken hlocate hother hends hname ?_ ?_
  · simpa using hnew.symm
  · rwa [List.dropLast_concat, List.append_assoc]

/-- Another name that is free there is given to the entry. -/
theorem renameFile_joinTexts_free (hnone : fs.get? (l ++ (front ++ [newName])) = none) :
    ∃ fs', renameFile fs root (Text.joinTexts '/' (front ++ [name])) newName =
        (.ok ((root.join (Text.joinTexts '/' (front ++ [name]))).withFileName newName), fs') ∧
      fs.reading ((root.join (Text.joinTexts '/' (front ++ [name]))).withFileName newName) =
        l ++ (front ++ [newName]) ∧
      Carried fs (l ++ (front ++ [name])) (l ++ (front ++ [newName])) fs' := by
  obtain ⟨hlocate, hends, hother⟩ := locate_joinTexts hfs hroot hthere
  rw [← List.append_assoc] at hnone
  obtain ⟨fs', hrename, hreading, hcarried⟩ := renameFile_free hfs hlocate hother hends hname
    (by simpa using hnew.symm) (by rwa [List.dropLast_concat])
  rw [List.dropLast_concat, List.append_assoc] at hreading
  rw [List.dropLast_concat, List.append_assoc, List.append_assoc] at hcarried
  exact ⟨fs', hrename, hreading, hcarried⟩

end

/-- The path of a root that comes from above leads there behind a rename too. -/
theorem locate_root_of_renamed (hfs : fs.WellFormed) (hroot : fs.isDirectory root = true)
    (habove : fs.ComesFromAbove root)
    (hparts : ∀ part ∈ front ++ [name], IsPlain part ∧ '/' ∉ part.toList) (hname : IsName newName)
    (h : renameFile fs root (Text.joinTexts '/' (front ++ [name])) newName = (.ok path, fs')) :
    fs'.locate root = .ok (fs.reading root) := by
  obtain ⟨hlocate, hdir⟩ := FileSystem.isDirectory_iff.1 hroot
  obtain ⟨hsteps, hrel⟩ := Path.steps_of_plain hparts
  obtain ⟨hnew, hrel'⟩ := Path.steps_of_name hname
  have hinside : FileSystem.StaysInside (Path.steps ⟨Text.joinTexts '/' (front ++ [name])⟩) :=
    FileSystem.staysInside_of_plain fun part hpart => (hparts part (hsteps ▸ hpart)).1
  have hinside' : FileSystem.StaysInside
      ((Path.steps ⟨Text.joinTexts '/' (front ++ [name])⟩).dropLast ++ Path.steps ⟨newName⟩) := by
    rw [hsteps, hnew, List.dropLast_concat]
    refine FileSystem.staysInside_of_plain (List.forall_mem_append.2 ⟨fun part hpart => ?_, ?_⟩)
    · exact (hparts part (List.mem_append_left _ hpart)).1
    · exact List.forall_mem_singleton.2 hname.isPlain
  have henclosed := renameFile_enclosed (.refl hfs.sound hdir habove.apart)
    (FileSystem.locate_text_ne_empty hlocate) hrel hinside hrel' hinside'
  rw [h] at henclosed
  rw [← henclosed.reading_root]
  exact (FileSystem.isDirectory_iff.1 (henclosed.isDirectory_root habove hroot)).1

/-- Renaming the entry back restores what was, by whatever path then leads to the root. -/
def RestoredByRename (fs : FileSystem) (l : Location) (front : List String) (name newName : String)
    (fs' : FileSystem) : Prop :=
  ∀ root, fs'.locate root = .ok l → ∃ path fs'',
    renameFile fs' root (Text.joinTexts '/' (front ++ [newName])) name = (.ok path, fs'') ∧
      fs''.current = fs.current ∧ ∀ k, fs''.get? k = fs.get? k

/-- What comes of renaming the entry with the names `front` and `name` below the root. -/
structure RenameOutcomes (fs : FileSystem) (root : Path) (front : List String)
    (name newName file : String) : Prop where
  /-- Behind a file there is no entry. -/
  blocked : (∃ way, way <+: front ∧ fs.isFileAt (fs.reading root ++ way) = true) →
    fs.get? (fs.reading root ++ (front ++ [name])) = none
  /-- Without an entry it fails, and nothing changes. -/
  missing : fs.get? (fs.reading root ++ (front ++ [name])) = none →
    renameFile fs root file newName = (.error (.fileNotFound (root.join file)), fs)
  /-- An entry that has the name already keeps it, and nothing changes. -/
  named : (fs.get? (fs.reading root ++ (front ++ [name]))).isSome → newName = name →
    renameFile fs root file newName = (.ok (root.join file), fs)
  /-- If something else has the name it fails, and nothing changes. -/
  taken : (fs.get? (fs.reading root ++ (front ++ [name]))).isSome → newName ≠ name →
    (fs.get? (fs.reading root ++ (front ++ [newName]))).isSome →
    renameFile fs root file newName =
      (.error (.targetExists ((root.join file).withFileName newName)), fs)
  /-- Else the entry is carried to the name, and its new path is returned. If the path of the root
  comes from above, it still leads there. -/
  carried : (fs.get? (fs.reading root ++ (front ++ [name]))).isSome → newName ≠ name →
    fs.get? (fs.reading root ++ (front ++ [newName])) = none →
    ∃ fs', renameFile fs root file newName = (.ok ((root.join file).withFileName newName), fs') ∧
      fs.reading ((root.join file).withFileName newName) =
        fs.reading root ++ (front ++ [newName]) ∧
      Carried fs (fs.reading root ++ (front ++ [name])) (fs.reading root ++ (front ++ [newName]))
        fs' ∧
      (fs.ComesFromAbove root → fs'.locate root = .ok (fs.reading root)) ∧
      RestoredByRename fs (fs.reading root) front name newName fs'

/-- An entry that has been carried to a name can be carried back. -/
theorem restoredByRename (hfs : fs.WellFormed) (hnew : newName ≠ name)
    (hthere : (fs.get? (l ++ (front ++ [name]))).isSome)
    (hcarried : Carried fs (l ++ (front ++ [name])) (l ++ (front ++ [newName])) fs') :
    RestoredByRename fs l front name newName fs' := by
  intro root hroot
  -- There is the entry now, and its old name is free.
  have hback : (fs'.get? (l ++ (front ++ [newName]))).isSome := by
    have hmoved := hcarried.moved []
    rw [List.append_nil, List.append_nil] at hmoved
    rwa [hmoved]
  have hfree : fs'.get? (l ++ (front ++ [name])) = none := by
    have hgone := hcarried.gone []
    rwa [List.append_nil] at hgone
  have hold : IsName name := hfs.isName_of_mem hthere (by simp)
  obtain ⟨fs'', hagain, -, hreturned⟩ := renameFile_joinTexts_free hcarried.wellFormed hroot hback
    hold hnew.symm hfree
  exact ⟨_, fs'', hagain, hcarried.back hreturned hfs⟩

/-- Behind a file there is nothing. -/
theorem get?_behind_file (hfs : fs.WellFormed) {way : List String} (hway : way <+: front)
    (hfile : fs.isFileAt (l ++ way) = true) : fs.get? (l ++ (front ++ [name])) = none := by
  obtain ⟨content, hcontent⟩ := FileSystem.isFileAt_iff.1 hfile
  have hpre : way <+: front ++ [name] := hway.trans (List.prefix_append front [name])
  refine hfs.get?_below (FileSystem.not_isDirectoryAt_of_file hcontent)
    ((List.prefix_append_right_inj l).2 hpre) fun hsame => ?_
  have hlength := hway.length_le
  rw [List.append_cancel_left hsame, List.length_append, List.length_singleton] at hlength
  omega

/-- A rename of an entry whose path is made of names, to another name. It is all or nothing. -/
theorem renameFile_outcomes (fs : FileSystem) (root : Path) (front : List String)
    (name newName : String) (hfs : fs.WellFormed) (hroot : fs.isDirectory root = true)
    (hparts : ∀ part ∈ front ++ [name], IsPlain part ∧ '/' ∉ part.toList) (hname : IsName newName) :
    RenameOutcomes fs root front name newName (Text.joinTexts '/' (front ++ [name])) := by
  obtain ⟨hlocate, -⟩ := FileSystem.isDirectory_iff.1 hroot
  have hdown := descends_joinTexts (FileSystem.locate_text_ne_empty hlocate) hparts
  refine {
    blocked := fun ⟨way, hway, hfile⟩ => get?_behind_file hfs hway hfile
    missing := fun hnone => ?_
    named := fun hthere hsame => ?_
    taken := fun hthere hnew => renameFile_joinTexts_taken hfs hlocate hthere hname hnew
    carried := fun hthere hnew hnone => ?_ }
  · have habsent := hfs.isPresent_eq_false ((congrArg fs.get? hdown.reading).trans hnone)
    unfold renameFile
    simp only [habsent]
    rfl
  · subst hsame
    obtain ⟨hfound, -, hother⟩ := locate_joinTexts hfs hlocate hthere
    exact renameFile_named (FileSystem.isPresent_of_locate hfound) hother hdown.fileName?_eq
  · obtain ⟨fs', hrename, hreading, hcarried⟩ :=
      renameFile_joinTexts_free hfs hlocate hthere hname hnew hnone
    exact ⟨fs', hrename, hreading, hcarried,
      fun habove => locate_root_of_renamed hfs hroot habove hparts hname hrename,
      restoredByRename hfs hnew hthere hcarried⟩

end

/-- A staging tree with a directory, and with a file whose name begins like the one of the
directory. -/
def stagedTree : FileSystem :=
  { entries := [
      (["stage"], .directory), (["stage", "a.txt"], .file "A".toUTF8),
      (["stage", "lib"], .directory), (["stage", "lib", "deep"], .directory),
      (["stage", "lib", "deep", "c.txt"], .file "C".toUTF8),
      (["stage", "lib.txt"], .file "L".toUTF8)] }

/-- The directory goes to its new name with the file deep in it, and back again. -/
theorem renameFile_outcomes_of_stagedTree :
    ∃ path fs' back fs'',
      renameFile stagedTree ⟨"/stage"⟩ "lib" "core" = (.ok path, fs') ∧
      fs'.get? ["stage", "core", "deep", "c.txt"] = some (.file "C".toUTF8) ∧
      renameFile fs' ⟨"/stage"⟩ "core" "lib" = (.ok back, fs'') ∧
      ∀ l, fs''.get? l = stagedTree.get? l := by
  have hlib : IsName "lib" := by decide +kernel
  have houtcomes := renameFile_outcomes stagedTree ⟨"/stage"⟩ [] "lib" "core" (by decide +kernel)
    (by decide +kernel) (List.forall_mem_singleton.2 ⟨hlib.isPlain, hlib.no_slash⟩)
    (by decide +kernel)
  obtain ⟨fs', hrename, -, hcarried, hroot, hrestored⟩ :=
    houtcomes.carried (by decide +kernel) (by decide +kernel) (by decide +kernel)
  obtain ⟨back, fs'', hagain, -, hsame⟩ := hrestored _ (hroot (by decide +kernel))
  rw [List.nil_append, Path.joinTexts_singleton] at hrename hagain
  refine ⟨_, fs', back, fs'', hrename, ?_, hagain, hsame⟩
  have hmoved := hcarried.moved ["deep", "c.txt"]
  have hold : stagedTree.get? (stagedTree.reading ⟨"/stage"⟩ ++ ([] ++ ["lib"]) ++
      ["deep", "c.txt"]) = some (.file "C".toUTF8) := by decide +kernel
  have hread : stagedTree.reading ⟨"/stage"⟩ = ["stage"] := by decide +kernel
  rw [hold, hread] at hmoved
  exact hmoved

/-! ### Any new name -/

/-- The directory in which a new name is looked up. From the directory of the entry all steps of the
name but the last one lead there. -/
def homeOf (directory : Location) (newName : String) : Location :=
  readNames (if Path.isAbsolute ⟨newName⟩ then [] else directory) (Path.steps ⟨newName⟩).dropLast

/-- A new name leads to what this directory holds under the last one of its steps. -/
theorem readFrom_eq_homeOf {name : String} (h : (Path.steps ⟨newName⟩).getLast? = some name)
    (hname : IsName name) (directory : Location) :
    FileSystem.readFrom directory newName = homeOf directory newName ++ [name] := by
  have hsplit : Path.steps ⟨newName⟩ = (Path.steps ⟨newName⟩).dropLast ++ [name] := by
    obtain ⟨front, hfront⟩ := List.getLast?_eq_some_iff.1 h
    rw [hfront, List.dropLast_concat]
  unfold FileSystem.readFrom homeOf
  rw [hsplit, List.dropLast_concat, FileSystem.readNames_append]
  exact FileSystem.turn_plain hname.isPlain

/-- A name that has no slash in it has no step but itself. -/
theorem eq_of_getLast?_steps {name : String} (h : (Path.steps ⟨newName⟩).getLast? = some name)
    (hslash : '/' ∉ newName.toList) : name = newName := by
  have hnames : Path.names ⟨Text.joinTexts '/' [newName]⟩ = [newName] :=
    Path.names_joinTexts (List.cons_ne_nil newName []) (List.forall_mem_singleton.2 hslash)
  rw [Path.joinTexts_singleton] at hnames
  have hmem : name ∈ Path.names ⟨newName⟩ := (List.mem_filter.1 (List.mem_of_getLast? h)).1
  rw [hnames] at hmem
  exact List.mem_singleton.1 hmem

/-- A new name under which nothing was has a last step, and it is a name. -/
theorem getLast?_steps_of_rename (hfs : fs.WellFormed) {source : Path}
    (h : fs.rename source (source.withFileName newName) = .ok fs')
    (habsent : fs.isPresent (source.withFileName newName) = false) :
    source.fileName?.isSome ∧
      ∃ name, (Path.steps ⟨newName⟩).getLast? = some name ∧ IsName name := by
  obtain ⟨s, t, last, name, hs, hlast, ht, hname, -⟩ := FileSystem.places_of_rename h
  obtain ⟨hisLast, a, ha⟩ := FileSystem.steps_of_place hs hlast
  obtain ⟨hisName, b, hb⟩ := FileSystem.steps_of_place ht hname
  have hfile : source.fileName? = some last :=
    Path.fileName?_eq_some.2 ⟨hisLast.not_parent, by rw [ha, List.dropLast_concat]⟩
  have hsome : source.fileName?.isSome := by rw [hfile]; rfl
  obtain ⟨-, -, hthere, hnone, -⟩ := FileSystem.rename_to_absent h habsent
  -- Without steps the name would lead to a directory.
  have hne : Path.steps ⟨newName⟩ ≠ [] := by
    intro hnil
    have hdir : fs.isDirectoryAt (fs.reading source).dropLast := hfs.isDirectoryAt_dropLast hthere
    rw [FileSystem.reading_withFileName hfile, FileSystem.readFrom, hnil] at hnone
    split at hnone
    · rw [show readNames [] [] = [] from rfl, FileSystem.get?_root] at hnone
      cases hnone
    · rw [show readNames (fs.reading source).dropLast [] = (fs.reading source).dropLast from rfl,
        FileSystem.isDirectoryAt_iff.1 hdir] at hnone
      cases hnone
  refine ⟨hsome, name, ?_, hisName⟩
  by_cases habs : Path.isAbsolute ⟨newName⟩ = true
  · obtain ⟨q, -, hwith⟩ := Path.withFileName_eq_join hsome newName
    rw [hwith, Path.join_absolute q habs] at hb
    rw [hb, List.getLast?_concat]
  · obtain ⟨hsteps, -⟩ := Path.steps_withFileName hsome (Bool.eq_false_iff.2 habs)
    rw [hsteps] at hb
    rw [← List.getLast?_append_of_ne_nil _ hne, hb, List.getLast?_concat]

/-- A rename that succeeds, whatever the new name.

If the entry does not have the name already, it is carried into the directory where the name is
looked up. This is the directory of the entry if the name has no slash in it. -/
theorem renameFile_within_directory (fs : FileSystem) (root : Path) (file newName : String)
    (path : Path) (fs' : FileSystem) (hfs : fs.WellFormed)
    (h : renameFile fs root file newName = (.ok path, fs')) :
    (fs.get? (fs.reading (root.join file))).isSome ∧
    (((fs.reading (root.join file)).getLast? = some newName ∧ path = root.join file ∧ fs' = fs) ∨
      ∃ name, (Path.steps ⟨newName⟩).getLast? = some name ∧ IsName name ∧
        fs.reading path = homeOf (fs.reading (root.join file)).dropLast newName ++ [name] ∧
        Carried fs (fs.reading (root.join file)) (fs.reading path) fs' ∧
        ('/' ∉ newName.toList →
          fs.reading path = (fs.reading (root.join file)).dropLast ++ [newName])) := by
  rcases renameFile_cases fs root file newName with
    ⟨e, herror⟩ | ⟨hpresent, hname, hkept⟩ | ⟨final, habsent, hrename, hmoved⟩
  · rw [herror] at h
    cases h
  · rw [hkept] at h
    cases h
    refine ⟨hfs.get?_of_locate (FileSystem.isPresent_iff.1 hpresent), .inl ⟨?_, rfl, rfl⟩⟩
    rw [FileSystem.reading_of_fileName? hname, List.getLast?_concat]
  · rw [hmoved] at h
    cases h
    have hcarried := FileSystem.rename_carries hfs hrename habsent
    obtain ⟨-, -, hthere, -⟩ := FileSystem.rename_to_absent hrename habsent
    obtain ⟨hsome, name, hlast, hisName⟩ := getLast?_steps_of_rename hfs hrename habsent
    obtain ⟨last, hfile⟩ := Option.isSome_iff_exists.1 hsome
    have hread := FileSystem.reading_withFileName hfile fs newName
    refine ⟨hthere, .inr ⟨name, hlast, hisName, ?_, hcarried, fun hslash => ?_⟩⟩
    · rw [hread, readFrom_eq_homeOf hlast hisName]
    · rw [eq_of_getLast?_steps hlast hslash] at hisName
      rw [hread, FileSystem.readFrom_name _ hisName]

/-- A file keeps its directory. -/
theorem renameFile_within_directory_of_stagedTree :
    ∃ path fs', renameFile stagedTree ⟨"/stage"⟩ "a.txt" "b.txt" = (.ok path, fs') ∧
      stagedTree.reading path = ["stage", "b.txt"] ∧
      Carried stagedTree ["stage", "a.txt"] ["stage", "b.txt"] fs' := by
  have hread : stagedTree.reading (Path.join ⟨"/stage"⟩ "a.txt") = ["stage", "a.txt"] := by
    decide +kernel
  obtain ⟨path, hrun⟩ : ∃ path,
      (renameFile stagedTree ⟨"/stage"⟩ "a.txt" "b.txt").1 = .ok path :=
    ⟨⟨"/stage/b.txt"⟩, by decide +kernel⟩
  obtain ⟨-, ⟨hname, -⟩ | ⟨name, -, -, -, hcarried, hslash⟩⟩ :=
    renameFile_within_directory stagedTree ⟨"/stage"⟩ "a.txt" "b.txt" path _ (by decide +kernel)
      (Prod.ext hrun rfl)
  · rw [hread] at hname
    exact absurd hname (by decide +kernel)
  · have hnew := hslash (by decide +kernel)
    rw [hread] at hnew hcarried
    rw [hnew] at hcarried
    exact ⟨path, _, Prod.ext hrun rfl, hnew, hcarried⟩

/-- A name with a slash in it takes a file to another directory. -/
theorem renameFile_leaves_directory :
    ¬ ∀ (newName : String) (path : Path) (fs' : FileSystem),
      renameFile stagedTree ⟨"/stage"⟩ "a.txt" newName = (.ok path, fs') →
      (stagedTree.reading path).dropLast =
        (stagedTree.reading (Path.join ⟨"/stage"⟩ "a.txt")).dropLast := by
  intro h
  have hrun : (renameFile stagedTree ⟨"/stage"⟩ "a.txt" "lib/b.txt").1 =
      .ok ⟨"/stage/lib/b.txt"⟩ := by decide +kernel
  have hkept := h "lib/b.txt" _ _ (Prod.ext hrun rfl)
  revert hkept
  decide +kernel

/-! ### The root itself -/

/-- What comes of renaming the root by a path that does not spell it. -/
structure RootOutcomes (fs : FileSystem) (root : Path) (file newName : String) : Prop where
  /-- It is not refused as the root. If it fails nothing changes, and else the root is carried away.
  It does not succeed if the path does not end in a name. -/
  any : (∃ e, (∀ p, e ≠ .invalidTarget p) ∧ renameFile fs root file newName = (.error e, fs)) ∨
    (root.join file).EndsInName ∧ ∃ fs',
      renameFile fs root file newName = (.ok ((root.join file).withFileName newName), fs') ∧
      Carried fs (fs.reading root) (fs.reading ((root.join file).withFileName newName)) fs'
  /-- A name that is taken beside the root is refused. -/
  taken : (root.join file).EndsInName → IsName newName →
    (fs.get? ((fs.reading root).dropLast ++ [newName])).isSome →
    renameFile fs root file newName =
      (.error (.targetExists ((root.join file).withFileName newName)), fs)
  /-- To a name that is free there the root is carried. -/
  free : (root.join file).EndsInName → IsName newName →
    fs.get? ((fs.reading root).dropLast ++ [newName]) = none →
    ∃ fs', renameFile fs root file newName = (.ok ((root.join file).withFileName newName), fs') ∧
      fs.reading ((root.join file).withFileName newName) = (fs.reading root).dropLast ++ [newName] ∧
      Carried fs (fs.reading root) ((fs.reading root).dropLast ++ [newName]) fs'

/-- A rename whose path leads to the root. It is refused as such if the path spells the root, and
only then: by any other path the root is renamed like other entries. -/
theorem renameFile_of_root (fs : FileSystem) (root : Path) (file newName : String)
    (hfs : fs.WellFormed) (hroot : fs.isDirectory root = true)
    (hfile : fs.locate (root.join file) = .ok (fs.reading root))
    (hnew : (fs.reading root).getLast? ≠ some newName) :
    (SpellsRoot root file →
      renameFile fs root file newName = (.error (.invalidTarget (root.join file)), fs)) ∧
    (¬ SpellsRoot root file → RootOutcomes fs root file newName) := by
  have htext := FileSystem.locate_text_ne_empty (FileSystem.isDirectory_iff.1 hroot).1
  have hpresent := FileSystem.isPresent_of_locate hfile
  have hreading : fs.reading (root.join file) = fs.reading root :=
    (FileSystem.locate_eq_reading hfile).symm
  refine ⟨fun hspells => ?_, fun hspells => ?_⟩
  · unfold renameFile
    simp only
    rw [if_neg (by simp [hpresent]), if_pos ((same_root_iff htext).2 hspells)]
  · have hother : ¬ (root.join file).same root = true := mt (same_root_iff htext).1 hspells
    refine {
      any := ?_
      taken := fun hends hname => renameFile_taken hfile hother hends hname hnew
      free := fun hends hname => renameFile_free hfs hfile hother hends hname hnew }
    have hdiffers : (root.join file).fileName? ≠ some newName := by
      intro hsame
      rw [← hreading, FileSystem.reading_of_fileName? hsame, List.getLast?_concat] at hnew
      exact hnew rfl
    rw [renameFile_other hpresent hother hdiffers]
    split
    · exact .inl ⟨_, by simp, rfl⟩
    · next habsent =>
      split
      · exact .inl ⟨_, by simp, rfl⟩
      · next fs' hrename =>
        have hcarried := FileSystem.rename_carries hfs hrename (by simpa using habsent)
        rw [hreading] at hcarried
        exact .inr ⟨FileSystem.endsInName_of_rename hrename, fs', rfl, hcarried⟩

/-- Dots and slashes spell the root. -/
theorem renameFile_of_root_spelled :
    SpellsRoot ⟨"/stage"⟩ ".//./" ∧
      renameFile stagedTree ⟨"/stage"⟩ ".//./" "elsewhere" =
        (.error (.invalidTarget ⟨"/stage/.//./"⟩), stagedTree) := by
  have hspells : SpellsRoot ⟨"/stage"⟩ ".//./" := by decide +kernel
  have hjoin : Path.join ⟨"/stage"⟩ ".//./" = ⟨"/stage/.//./"⟩ := by decide +kernel
  obtain ⟨hrefused, -⟩ := renameFile_of_root stagedTree ⟨"/stage"⟩ ".//./" "elsewhere"
    (by decide +kernel) (by decide +kernel) (by decide +kernel) (by decide +kernel)
  rw [← hjoin]
  exact ⟨hspells, hrefused hspells⟩

/-- The way up and down again does not spell it: the root is carried away. -/
theorem renameFile_carries_root :
    ¬ ∀ file newName : String,
      stagedTree.locate (Path.join ⟨"/stage"⟩ file) = .ok (stagedTree.reading ⟨"/stage"⟩) →
      (stagedTree.reading ⟨"/stage"⟩).getLast? ≠ some newName →
      renameFile stagedTree ⟨"/stage"⟩ file newName =
        (.error (.invalidTarget (Path.join ⟨"/stage"⟩ file)), stagedTree) := by
  intro h
  have hrefused := h "../stage" "elsewhere" (by decide +kernel) (by decide +kernel)
  have hrun : (renameFile stagedTree ⟨"/stage"⟩ "../stage" "elsewhere").1 =
      .ok ⟨"/stage/../elsewhere"⟩ := by decide +kernel
  rw [hrefused] at hrun
  cases hrun

end Scaffold.Staging
