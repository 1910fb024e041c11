import Scaffold.Proofs.FileSystem.Enclosure
import Scaffold.Proofs.Staging.Templates
import Scaffold.Staging.Delete
import Scaffold.Staging.Move
import Scaffold.Staging.Rename

/-! # Staging operations work below the root

  Every operation on the staging tree is enclosed in it, whether it succeeds or
  fails in the middle. Where the caller names a place, the place has to stay
  inside.

  - `processTemplates_enclosed`, `deleteFiles_enclosed`: no conditions.
  - `moveFiles_enclosed`, `renameFile_enclosed`: texts that stay inside.
-/

namespace Scaffold.Staging

open Scaffold.Path (IsIdle IsPlain)
open FileSystem (Enclosed Inside Descends Visited StaysInside isBelow isBelow_append isBelow_iff)

variable {fs₀ fs fs' : FileSystem} {root : Path} {v : Visited} {found : List Visited}

/-! ### Found entries -/

/-- The path of something below the root. -/
def IsEntryPath (root p : Path) : Prop :=
  ∃ rest, rest ≠ [] ∧ (∀ name ∈ rest, IsName name) ∧ Descends root rest p

theorem IsEntryPath.isBelow {p : Path} (h : Enclosed fs₀ root fs) (hp : IsEntryPath root p) :
    isBelow (fs₀.reading root) (fs.reading p) = true := by
  obtain ⟨rest, hne, -, hdown⟩ := hp
  exact h.isBelow_reading hdown hne

/-- An operation that can select entries has found the root. -/
theorem locate_of_selected (h : Enclosed fs₀ root fs) {keep : Visited → Bool}
    (hfound : (entries fs root).map (·.filter keep) = .ok found) :
    fs.locate root = .ok (fs₀.reading root) := by
  unfold entries FileSystem.walkRoot at hfound
  cases hl : fs.locate root with
  | error fault => rw [hl] at hfound; cases hfound
  | ok l => rw [FileSystem.locate_eq_reading hl, h.reading_root]

/-- What an operation selects in the staging tree has names that lead down. -/
theorem selected_spec (h : Enclosed fs₀ root fs) {keep : Visited → Bool}
    (hfound : (entries fs root).map (·.filter keep) = .ok found) (hv : v ∈ found) :
    keep v = true ∧ v.relative ≠ [] ∧ ∀ name ∈ v.relative, IsName name := by
  have hl := locate_of_selected h hfound
  unfold entries FileSystem.walkRoot at hfound
  rw [hl] at hfound
  obtain rfl := Except.ok.inj hfound
  obtain ⟨hmem, hkeep⟩ := List.mem_filter.1 hv
  have hbelow := FileSystem.mem_collectContentsFirst.1 hmem
  obtain ⟨hentry, hne⟩ := FileSystem.mem_below.1 hbelow
  refine ⟨hkeep, hne, fun name hname => ?_⟩
  exact h.sound.named _ hentry name (List.mem_append_right _ hname)

theorem isEntryPath_of_selected (h : Enclosed fs₀ root fs) {keep : Visited → Bool}
    (hfound : (entries fs root).map (·.filter keep) = .ok found) {p : Path}
    (hp : p ∈ found.map (·.path root)) : IsEntryPath root p := by
  obtain ⟨v, hv, rfl⟩ := List.mem_map.1 hp
  obtain ⟨-, hne, hnames⟩ := selected_spec h hfound hv
  have hroot := FileSystem.locate_text_ne_empty (locate_of_selected h hfound)
  exact ⟨v.relative, hne, hnames, .path hroot hnames⟩

/-! ### Templates and deleted entries -/

/-- The outcome of a template is written below the root, and what is removed is below it too. -/
theorem processOne_enclosed (h : Enclosed fs₀ root fs) {env : Environment} (hroot : root.text ≠ "")
    (hnames : ∀ name ∈ v.relative, IsName name) (hv : isTemplateEntry v = true) :
    Enclosed fs₀ root (processOne fs root env v).2 := by
  rcases processOne_cases fs root env v with ⟨e, herror⟩ | ⟨text, written, hrender, hwrite, hend⟩
  · rw [herror]
    exact h
  · obtain ⟨before, stem, source, hrelative, -, -, -, hslot, hfree, hwritten⟩ :=
      writeBytes_outcome h.sound hroot hnames hv hrender hwrite
    have hstep : Enclosed fs₀ root written := by
      have houtcome :
          isBelow (fs₀.reading root) (fs.reading root ++ (before ++ [stem])) = true := by
        rw [h.reading_root]
        exact isBelow_append (by simp)
      rw [hwritten]
      exact h.setFile houtcome hslot hfree
    rcases hend with ⟨fault, -, herror⟩ | ⟨final, hremove, hok⟩
    · rw [herror]
      exact hstep
    · rw [hok]
      refine hstep.removeFile ?_ hremove
      rw [FileSystem.reading_path hroot hnames, hstep.reading_root]
      exact isBelow_append (by simp [hrelative])

theorem processEach_enclosed (h : Enclosed fs₀ root fs) {env : Environment} {vs : List Visited}
    (hroot : root.text ≠ "")
    (hvs : ∀ v ∈ vs, (∀ name ∈ v.relative, IsName name) ∧ isTemplateEntry v = true) :
    Enclosed fs₀ root (processEach root env vs fs).2 := by
  induction vs generalizing fs with
  | nil => exact h
  | cons v rest ih =>
    obtain ⟨hnames, htemplate⟩ := hvs v List.mem_cons_self
    have hstep : Enclosed fs₀ root (processOne fs root env v).2 :=
      processOne_enclosed h hroot hnames htemplate
    unfold processEach
    split
    · next hone => rw [hone] at hstep; exact hstep
    · next fs' hone =>
      rw [hone] at hstep
      have hrest := ih hstep fun w hw => hvs w (List.mem_cons_of_mem v hw)
      split
      · next hr => rw [hr] at hrest; exact hrest
      · next hr => rw [hr] at hrest; exact hrest

theorem processTemplates_enclosed (h : Enclosed fs₀ root fs) (env : Environment) :
    Enclosed fs₀ root (processTemplates fs root env).2 := by
  unfold processTemplates
  split
  · exact h
  · next found hfound =>
    refine processEach_enclosed h (FileSystem.locate_text_ne_empty (locate_of_selected h hfound))
      fun v hv => ?_
    obtain ⟨htemplate, -, hnames⟩ := selected_spec h hfound hv
    exact ⟨hnames, htemplate⟩

theorem deleteOne_enclosed (h : Enclosed fs₀ root fs) {file : Path} (hfile : IsEntryPath root file)
    (hone : deleteOne fs file = .ok fs') : Enclosed fs₀ root fs' := by
  have hbelow := hfile.isBelow h
  unfold deleteOne at hone
  cases hl : fs.locate file with
  | error fault => rw [hl] at hone; cases hone
  | ok l =>
    rw [hl] at hone
    simp only [bind, Except.bind] at hone
    split at hone
    · exact h.removeTree hbelow hone
    · exact h.removeFile hbelow hone

theorem deleteEach_enclosed (h : Enclosed fs₀ root fs) {files : List Path}
    (hfiles : ∀ file ∈ files, IsEntryPath root file) :
    Enclosed fs₀ root (deleteEach files fs).2 := by
  induction files generalizing fs with
  | nil => exact h
  | cons file rest ih =>
    unfold deleteEach
    split
    · exact h
    · next fs' hone =>
      have hstep := deleteOne_enclosed h (hfiles file List.mem_cons_self) hone
      have hrest := ih hstep fun p hp => hfiles p (List.mem_cons_of_mem file hp)
      split
      · next hr => rw [hr] at hrest; exact hrest
      · next hr => rw [hr] at hrest; exact hrest

theorem deleteFiles_enclosed (h : Enclosed fs₀ root fs) (wildcard : String) :
    Enclosed fs₀ root (deleteFiles fs root wildcard).2 := by
  unfold deleteFiles
  split
  · exact h
  · split
    · exact h
    · next hfound => exact deleteEach_enclosed h fun p hp => isEntryPath_of_selected h hfound hp

/-! ### Texts that lead down -/

/-- A text whose components lead neither up nor to the root leads down. -/
theorem descends_of_staysBelow {text : String}
    (h : (Path.mk text).components.all staysBelow = true) :
    Path.isAbsolute ⟨text⟩ = false ∧ ∀ name ∈ Path.steps ⟨text⟩, IsPlain name := by
  rw [Path.components_eq, List.all_append, Bool.and_eq_true] at h
  obtain ⟨hhead, hsteps⟩ := h
  constructor
  · rw [← Bool.not_eq_true, Path.isAbsolute_iff_head]
    intro hroot
    rw [hroot] at hhead
    cases hhead
  · intro name hname
    have hidle := (List.mem_filter.1 hname).2
    refine ⟨by simpa using hidle, ?_⟩
    rintro rfl
    have hstays := List.all_eq_true.1 hsteps _ (List.mem_map_of_mem hname)
    cases hstays

/-- So does a text whose components are ordinary names. -/
theorem descends_of_normal {text : String}
    (h : ((Path.mk text).components.all fun c => c.normal?.isSome) = true) :
    Path.isAbsolute ⟨text⟩ = false ∧ ∀ name ∈ Path.steps ⟨text⟩, IsPlain name := by
  refine descends_of_staysBelow (List.all_eq_true.2 fun c hc => ?_)
  have hnormal := List.all_eq_true.1 h c hc
  cases c with
  | normal name => rfl
  | root => cases hnormal
  | current => cases hnormal
  | parent => cases hnormal

/-! ### Moved entries -/

/-- A file is moved to a place below the root. -/
theorem IsEntryPath.isBelow_moveTarget {file destination : Path} {rest : List String}
    (hfile : IsEntryPath root file) (hinside : Inside root rest destination)
    (hne : destination.text ≠ "") :
    FileSystem.isBelow (fs.reading root) (fs.reading (moveTarget destination file)) = true := by
  obtain ⟨names, hnames, hisName, hpath⟩ := hfile
  rw [← List.dropLast_concat_getLast hnames] at hpath
  have hlast : IsName (names.getLast hnames) := hisName _ (List.getLast_mem hnames)
  unfold moveTarget
  rw [hpath.fileName?_eq]
  exact hinside.isBelow_join hne hlast

theorem moveEach_enclosed (h : Enclosed fs₀ root fs) {destination : Path} {files : List Path}
    {rest : List String} (hinside : Inside root rest destination) (hne : destination.text ≠ "")
    (hfiles : ∀ file ∈ files, IsEntryPath root file) :
    Enclosed fs₀ root (moveEach destination files fs).2 := by
  induction files generalizing fs with
  | nil => exact h
  | cons file others ih =>
    have hothers : ∀ p ∈ others, IsEntryPath root p :=
      fun p hp => hfiles p (List.mem_cons_of_mem file hp)
    have hfile := hfiles file List.mem_cons_self
    unfold moveEach
    split
    · exact ih h hothers
    · split
      · exact h
      · next habsent =>
        split
        · exact h
        · next fs' hrename =>
          have htarget : isBelow (fs₀.reading root) (fs.reading (moveTarget destination file)) := by
            rw [← h.reading_root]
            exact hfile.isBelow_moveTarget hinside hne
          have hstep : Enclosed fs₀ root fs' :=
            h.rename (hfile.isBelow h) (isBelow_iff.1 htarget).1 (by simpa using habsent) hrename
          have hlater := ih hstep hothers
          split
          · next hr => rw [hr] at hlater; exact hlater
          · next hr => rw [hr] at hlater; exact hlater

theorem openDestination_enclosed (h : Enclosed fs₀ root fs) {destination : Path}
    {rest : List String} (hloc : fs.locate root = .ok (fs₀.reading root))
    (hinside : Inside root rest destination) :
    Enclosed fs₀ root (openDestination fs destination).2 := by
  have hmade := (h.createDirectories hloc hinside.isOnWay).1
  unfold openDestination
  split
  · split <;> exact h
  · split
    · next hr => rw [hr] at hmade; exact hmade
    · next hr => rw [hr] at hmade; exact hmade

/-- Moving files into a directory that stays inside is enclosed in the staging tree. -/
theorem moveFiles_enclosed (h : Enclosed fs₀ root fs) (source : String) {target : String}
    (hrel : Path.isAbsolute ⟨target⟩ = false) (hinside : StaysInside (Path.steps ⟨target⟩)) :
    Enclosed fs₀ root (moveFiles fs root source target).2 := by
  unfold moveFiles
  split
  · exact h
  · split
    · exact h
    · next hfound =>
      have hloc := locate_of_selected h hfound
      have hroot := FileSystem.locate_text_ne_empty hloc
      have hdestination := Inside.join_root hroot hrel hinside
      have hopened := openDestination_enclosed h hloc hdestination
      split
      · next hr => rw [hr] at hopened; exact hopened
      · next hr =>
        rw [hr] at hopened
        exact moveEach_enclosed hopened hdestination (Path.join_text_ne_empty hroot)
          fun p hp => isEntryPath_of_selected h hfound hp

/-! ### Renamed entries -/

/-- What can be renamed has a name at the end of its path. -/
theorem steps_of_rename {source target : Path} (h : fs.rename source target = .ok fs') :
    ∃ name, IsName name ∧ source.steps.getLast? = some name := by
  obtain ⟨s, -, name, -, hs, hname, -⟩ := FileSystem.places_of_rename h
  obtain ⟨hisName, a, hsteps⟩ := FileSystem.steps_of_place hs hname
  exact ⟨name, hisName, by rw [hsteps, List.getLast?_concat]⟩

/-- A rename of something behind the root to a path that stays inside. -/
theorem rename_enclosed (h : Enclosed fs₀ root fs) {file newName : String}
    (hsource : Inside root (Path.steps ⟨file⟩) (root.join file)) (hne : Path.steps ⟨file⟩ ≠ [])
    (hrel : Path.isAbsolute ⟨newName⟩ = false)
    (hinside : StaysInside ((Path.steps ⟨file⟩).dropLast ++ Path.steps ⟨newName⟩))
    (habsent : fs.isPresent ((root.join file).withFileName newName) = false)
    (hrename : fs.rename (root.join file) ((root.join file).withFileName newName) = .ok fs') :
    Enclosed fs₀ root fs' := by
  obtain ⟨name, hname, hlast⟩ := steps_of_rename hrename
  have hfront : Path.steps ⟨file⟩ = (Path.steps ⟨file⟩).dropLast ++ [name] := by
    rw [hsource.steps, List.getLast?_append_of_ne_nil _ hne] at hlast
    exact (List.dropLast_append_getLast? name hlast).symm
  have hfileName : (root.join file).fileName?.isSome := by
    rw [Path.fileName?_eq, hlast]
    simp [hname.not_parent]
  obtain ⟨hsteps, habs⟩ := Path.steps_withFileName hfileName hrel
  have htarget : Inside root ((Path.steps ⟨file⟩).dropLast ++ Path.steps ⟨newName⟩)
      ((root.join file).withFileName newName) := by
    refine ⟨habs.trans hsource.isAbsolute, ?_, hinside⟩
    rw [hsteps, hsource.steps, List.dropLast_append_of_ne_nil hne, List.append_assoc]
  refine h.rename ?_ ?_ habsent hrename
  · -- The entry is in a directory that is not above the root.
    have hdown := hsource.prefix_readNames (List.dropLast_prefix _) (fs₀.reading root)
    have hone : ∀ n ∈ [name], IsPlain n := by simpa using hname.isPlain
    rw [hsource.reading, h.reading_root, hfront, FileSystem.readNames_append,
      FileSystem.readNames_plain hone]
    exact FileSystem.isBelow_concat hdown name
  · rw [htarget.reading, h.reading_root]
    exact htarget.prefix_readNames (List.prefix_refl _) _

/-- Renaming an entry is enclosed in the staging tree if its path stays inside, and the path to the
new name too. -/
theorem renameFile_enclosed (h : Enclosed fs₀ root fs) {file newName : String}
    (hroot : root.text ≠ "") (hrel : Path.isAbsolute ⟨file⟩ = false)
    (hinside : StaysInside (Path.steps ⟨file⟩)) (hrel' : Path.isAbsolute ⟨newName⟩ = false)
    (hinside' : StaysInside ((Path.steps ⟨file⟩).dropLast ++ Path.steps ⟨newName⟩)) :
    Enclosed fs₀ root (renameFile fs root file newName).2 := by
  have hsource := Inside.join_root hroot hrel hinside
  unfold renameFile
  simp only
  split
  · exact h
  · split
    · exact h
    · next hother =>
      -- The path of the root itself has been refused.
      have hne : Path.steps ⟨file⟩ ≠ [] := by
        intro hnil
        refine hother (beq_iff_eq.2 ?_)
        rw [Path.components_eq, Path.components_eq, Path.head_join hroot hrel, hsource.steps, hnil,
          List.append_nil]
      split
      · exact h
      · split
        · exact h
        · next habsent =>
          split
          · exact h
          · next fs' hrename =>
            exact rename_enclosed h hsource hne hrel' hinside' (by simpa using habsent) hrename

end Scaffold.Staging
