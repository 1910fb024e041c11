import Scaffold.Proofs.FileSystem.Making
import Scaffold.Proofs.FileSystem.Parents
import Scaffold.Proofs.Staging.Publication
import Scaffold.Proofs.Staging.Selecting

/-! # What a publication leaves

  A publication lays the files of the staging tree over the destination. The order
  in which they are published does not matter: each of them can be published or
  not because of what was there before, never because of another one.

  - `Overlaid`: the file system after some of the files.
  - `CanReceive`: whether a file can be published, and `Overlaid.canReceive_iff`.
  - `publish_overlays`: when a publication succeeds, and what it leaves if not.
-/

namespace Scaffold

namespace FileSystem

variable {fs : FileSystem} {destination : Path} {v : Visited}

/-! ### Targets -/

/-- The target of a file leads down from the destination, even if that is the empty path. -/
theorem descends_published (destination : Path) (h : ∀ name ∈ v.relative, IsName name) :
    Descends destination v.relative (destination.join v.name) := by
  by_cases hempty : destination.text = ""
  · obtain rfl : destination = ⟨""⟩ := congrArg Path.mk hempty
    obtain ⟨hsteps, hrel⟩ := Path.steps_of_names h
    have hjoin : Path.join ⟨""⟩ v.name = ⟨v.name⟩ := Path.join_empty hrel
    rw [hjoin]
    exact ⟨hrel, hsteps, fun name hname => (h name hname).isPlain⟩
  · exact .join_name hempty h

theorem endsInStep_published (destination : Path) (hne : v.relative ≠ [])
    (h : ∀ name ∈ v.relative, IsName name) : (destination.join v.name).EndsInStep := by
  by_cases hempty : destination.text = ""
  · obtain rfl : destination = ⟨""⟩ := congrArg Path.mk hempty
    have hjoin : Path.join ⟨""⟩ v.name = ⟨v.name⟩ := Path.join_empty (Path.steps_of_names h).2
    intro _
    refine ⟨v.relative.dropLast, v.relative.getLast hne, ?_, (h _ (List.getLast_mem hne)).isPlain.1⟩
    rw [hjoin, List.dropLast_concat_getLast hne]
    exact Path.names_joinTexts hne fun name hname => (h name hname).no_slash
  · exact endsInStep_join hempty hne h

end FileSystem

namespace Staging

open FileSystem (Descends Extends IsFileBelow Visited isDirectoryAt_iff)

variable {fs₀ fs fs' : FileSystem} {root destination : Path} {v w : Visited}
  {tried done todo : List Visited} {l : Location}

/-! ### The places of a publication -/

/-- A staging tree, and a destination elsewhere whose path never leads up. -/
structure Publishable (fs₀ : FileSystem) (root destination : Path) : Prop where
  /-- The file system is well-formed. -/
  wellFormed : fs₀.WellFormed
  /-- The path of the staging tree leads to it. -/
  located : fs₀.locate root = .ok (fs₀.reading root)
  /-- The staging tree is a directory. -/
  directory : fs₀.isDirectoryAt (fs₀.reading root)
  /-- The path of the destination leads down. -/
  plain : ".." ∉ destination.steps
  /-- The destination is not in the staging tree. -/
  not_inside : ¬ fs₀.reading root <+: fs₀.reading destination
  /-- The staging tree is not in the destination. -/
  not_around : ¬ fs₀.reading destination <+: fs₀.reading root

namespace Publishable

/-- Nothing in the staging tree is in the destination or above something in it. -/
theorem apart (h : Publishable fs₀ root destination) {q : Location}
    (hl : fs₀.reading root <+: l) : ¬ l <+: fs₀.reading destination ++ q := by
  intro hpre
  rcases List.prefix_or_prefix_of_prefix (hl.trans hpre)
    (List.prefix_append (fs₀.reading destination) q) with hinside | haround
  · exact h.not_inside hinside
  · exact h.not_around haround

theorem ne_target (h : Publishable fs₀ root destination) (q q' : Location) :
    fs₀.reading root ++ q ≠ fs₀.reading destination ++ q' := by
  intro heq
  apply h.apart (List.prefix_append (fs₀.reading root) q) (q := q')
  rw [heq]

end Publishable

/-- The destination can take a file: it is named by names, and neither is a directory where the file
goes nor a file above that place. -/
structure CanReceive (fs : FileSystem) (destination : Path) (v : Visited) : Prop where
  /-- All that the path of the destination names can be names of entries. -/
  named : ∀ name ∈ destination.steps, IsName name
  /-- No directory is where the file goes. -/
  no_directory : ¬ fs.isDirectoryAt (fs.reading destination ++ v.relative)
  /-- No file is above the place where it goes. -/
  no_file : ∀ front, front <+: fs.reading destination ++ v.relative →
    front ≠ fs.reading destination ++ v.relative → ¬ fs.isFileAt front

instance (fs : FileSystem) (destination : Path) (v : Visited) :
    Decidable (CanReceive fs destination v) :=
  let target := fs.reading destination ++ v.relative
  decidable_of_iff ((∀ name ∈ destination.steps, IsName name) ∧ ¬ fs.isDirectoryAt target ∧
      ∀ front ∈ target.inits, front ≠ target → ¬ fs.isFileAt front)
    ⟨fun ⟨h₁, h₂, h₃⟩ => ⟨h₁, h₂, fun front hfront => h₃ front ((List.mem_inits _ _).2 hfront)⟩,
      fun h => ⟨h.named, h.no_directory, fun front hfront =>
        h.no_file front ((List.mem_inits _ _).1 hfront)⟩⟩

/-! ### Some of the files -/

/-- The files `done` are in the destination, directories were made for the files `tried` only, and
apart from that everything is as in `fs₀`. -/
structure Overlaid (fs₀ : FileSystem) (root destination : Path) (tried done : List Visited)
    (fs : FileSystem) : Prop where
  /-- The file system stays well-formed. -/
  wellFormed : fs.WellFormed
  /-- The current directory is the same. -/
  current : fs.current = fs₀.current
  /-- The files are staged. -/
  staged : ∀ v ∈ done, IsFileBelow fs₀ root v
  /-- Directories stay. -/
  directories : ∀ l, fs₀.isDirectoryAt l → fs.isDirectoryAt l
  /-- New directories are above places of files. -/
  new : ∀ l, fs.isDirectoryAt l → fs₀.isDirectoryAt l ∨
    ∃ v ∈ tried, l <+: fs₀.reading destination ++ v.relative.dropLast
  /-- The files are in the destination. -/
  written : ∀ v ∈ done, fs.get? (fs₀.reading destination ++ v.relative) = some v.entry
  /-- Other files have their content, and no others are new. -/
  others : ∀ l, (∀ v ∈ done, l ≠ fs₀.reading destination ++ v.relative) →
    fs.contentAt l = fs₀.contentAt l

namespace Overlaid

theorem start (hfs : fs.WellFormed) (root destination : Path) :
    Overlaid fs root destination [] [] fs where
  wellFormed := hfs
  current := rfl
  staged := nofun
  directories := fun _ => id
  new := fun _ => .inl
  written := nofun
  others := fun _ _ => rfl

/-- The staging tree is as it was. -/
theorem get?_staging (h : Overlaid fs₀ root destination tried done fs)
    (hplaces : Publishable fs₀ root destination) (hl : fs₀.reading root <+: l) :
    fs.get? l = fs₀.get? l := by
  refine FileSystem.get?_ext ⟨?_, h.directories l⟩ (h.others l ?_)
  · intro hdir
    rcases h.new l hdir with hbefore | ⟨v, -, hpre⟩
    · exact hbefore
    · exact absurd hpre (hplaces.apart hl)
  · intro v _ heq
    rw [heq] at hl
    exact hplaces.apart hl List.prefix_rfl

/-- Its path leads to it. -/
theorem locate_root (h : Overlaid fs₀ root destination tried done fs)
    (hplaces : Publishable fs₀ root destination) :
    fs.locate root = .ok (fs₀.reading root) :=
  FileSystem.locate_of_directories h.current.symm h.directories
    (fun _ => Option.isSome_of_any (h.directories _ hplaces.directory)) hplaces.located

/-- Behind one more file. -/
theorem setFile {content : ByteArray} (h : Overlaid fs₀ root destination tried done fs)
    (hv : IsFileBelow fs₀ root v) (hnew : v.relative ∉ done.map (·.relative))
    (hentry : v.entry = .file content) (hslot : fs.IsSlot (fs₀.reading destination ++ v.relative))
    (hfree : ¬ fs.isDirectoryAt (fs₀.reading destination ++ v.relative)) :
    Overlaid fs₀ root destination tried (done ++ [v])
      (fs.setFile (fs₀.reading destination ++ v.relative) content) where
  wellFormed := h.wellFormed.setFile hslot hfree
  current := h.current
  staged := List.forall_mem_append.2 ⟨h.staged, List.forall_mem_singleton.2 hv⟩
  directories := fun l hl => FileSystem.isDirectoryAt_setFile hslot hfree (h.directories l hl)
  new := fun l hl => by
    rw [isDirectoryAt_iff, FileSystem.get?_setFile hslot.below_root] at hl
    split at hl
    · cases hl
    · exact h.new l (isDirectoryAt_iff.2 hl)
  written := by
    refine List.forall_mem_append.2 ⟨fun w hw => ?_, List.forall_mem_singleton.2 ?_⟩
    · have hother : fs₀.reading destination ++ w.relative ≠
          fs₀.reading destination ++ v.relative := by
        rw [Ne, List.append_cancel_left_eq]
        exact fun heq => hnew (heq ▸ List.mem_map_of_mem hw)
      rw [FileSystem.get?_setFile hslot.below_root, if_neg hother]
      exact h.written w hw
    · rw [FileSystem.get?_setFile hslot.below_root, if_pos rfl, hentry]
  others := fun l hl => by
    have hhere := hl v (List.mem_append_right _ (List.mem_singleton_self v))
    rw [← h.others l fun w hw => hl w (List.mem_append_left _ hw)]
    unfold FileSystem.contentAt
    rw [FileSystem.get?_setFile hslot.below_root, if_neg hhere]

section

variable (h : Overlaid fs₀ root destination done done fs)
  (hplaces : Publishable fs₀ root destination) (hv : IsFileBelow fs₀ root v)

include h hplaces hv

/-- Where a file goes. -/
theorem reading_target :
    fs.reading (destination.join v.name) = fs₀.reading destination ++ v.relative := by
  rw [(FileSystem.descends_published destination fun _ => hv.isName hplaces.wellFormed).reading,
    FileSystem.reading_congr h.current]

theorem reading_source : fs.reading (v.path root) = fs₀.reading root ++ v.relative := by
  have hpath : Descends root v.relative (v.path root) :=
    .path (FileSystem.locate_text_ne_empty hplaces.located) fun _ => hv.isName hplaces.wellFormed
  rw [hpath.reading, FileSystem.reading_congr h.current]

theorem contentAt_source : fs.contentAt (fs₀.reading root ++ v.relative) = v.entry.content? := by
  unfold FileSystem.contentAt
  rw [h.get?_staging hplaces (List.prefix_append _ _), hv.get?]
  rfl

/-- Behind the directories that are made for a file. -/
theorem createParents : Overlaid fs₀ root destination (done ++ [v]) done
    (fs.createParents (destination.join v.name)).2 := by
  have hpath := FileSystem.descends_published destination fun _ => hv.isName hplaces.wellFormed
  have hup : ".." ∉ (destination.join v.name).steps := by
    rw [hpath.steps, List.mem_append, not_or]
    exact ⟨hplaces.plain, fun hmem => (hpath.plain _ hmem).2 rfl⟩
  have hne : (destination.join v.name).steps ≠ [] := by
    rw [hpath.steps]
    simp [hv.ne_root]
  have hmade := Extends.createParents (fun _ => False) fs (destination.join v.name)
  exact {
    wellFormed := hmade.wellFormed h.wellFormed
    current := hmade.current.trans h.current
    staged := h.staged
    directories := fun l hl => hmade.directories l (h.directories l hl)
    new := fun l hl => by
      rcases FileSystem.isDirectoryAt_createParents hup hne hl with hbefore | habove
      · refine (h.new l hbefore).imp_right ?_
        rintro ⟨w, hw, hpre⟩
        exact ⟨w, List.mem_append_left _ hw, hpre⟩
      · rw [h.reading_target hplaces hv, List.dropLast_append_of_ne_nil hv.ne_root] at habove
        exact .inr ⟨v, List.mem_append_right _ (List.mem_singleton_self v), habove⟩
    written := fun w hw => by
      obtain ⟨content, hcontent⟩ := (h.staged w hw).content
      have hthere := h.written w hw
      rw [hcontent, ← FileSystem.contentAt_eq_some] at hthere ⊢
      rw [hmade.contents _ (fun hf => hf)]
      exact hthere
    others := fun l hl => (hmade.contents l (fun hf => hf)).trans (h.others l hl) }

/-- Behind a file that is copied. -/
theorem concat_copied (hnew : v.relative ∉ done.map (·.relative))
    (hcopy : fs.copyInto (v.path root) (destination.join v.name) = (.ok (), fs')) :
    Overlaid fs₀ root destination (done ++ [v]) (done ++ [v]) fs' := by
  obtain ⟨content, hslot, hfree, rfl, hread⟩ := FileSystem.copyInto_eq_ok hcopy
  rw [h.reading_target hplaces hv] at hslot hfree hread ⊢
  rw [h.reading_source hplaces hv, h.contentAt_source hplaces hv] at hread
  have hentry : v.entry = .file content := by
    obtain ⟨staged, hstaged⟩ := hv.content
    have hsame := hread (hplaces.ne_target _ _)
    rw [hstaged] at hsame ⊢
    exact congrArg Entry.file (Option.some.inj hsame)
  exact (h.createParents hplaces hv).setFile hv hnew hentry hslot hfree

/-- Behind a file that cannot be copied. -/
theorem concat_failed {fault : IoFault}
    (hcopy : fs.copyInto (v.path root) (destination.join v.name) = (.error fault, fs')) :
    Overlaid fs₀ root destination (done ++ [v]) done fs' := by
  rw [FileSystem.copyInto_eq_error hcopy]
  exact h.createParents hplaces hv

/-- No file is above another one. -/
theorem ne_target_of_front {front : Location}
    (hfront : front <+: fs₀.reading destination ++ v.relative)
    (hne : front ≠ fs₀.reading destination ++ v.relative) (hw : w ∈ done) :
    front ≠ fs₀.reading destination ++ w.relative := by
  rintro rfl
  rw [List.prefix_append_right_inj] at hfront
  exact hne (congrArg _ ((h.staged w hw).eq_of_isPrefix hv hplaces.wellFormed hfront))

/-- What is copied can be received. -/
theorem canReceive_of_copy
    (hcopy : fs.copyInto (v.path root) (destination.join v.name) = (.ok (), fs')) :
    CanReceive fs₀ destination v := by
  obtain ⟨content, hslot, hfree, -, -⟩ := FileSystem.copyInto_eq_ok hcopy
  have hmade := h.createParents hplaces hv
  rw [h.reading_target hplaces hv] at hslot hfree
  refine {
    named := fun name hname => hslot.isName_of_mem hmade.wellFormed (List.mem_append_left _ ?_)
    no_directory := fun hdir => hfree (hmade.directories _ hdir)
    no_file := fun front hfront hne hfile => ?_ }
  · rw [FileSystem.reading_of_plain hplaces.plain]
    exact List.mem_append_right _ hname
  · -- The file would still be there, but above a slot there are directories.
    obtain ⟨bytes, hbytes⟩ := FileSystem.isFileAt_iff.1 hfile
    have hdir := hslot.isDirectoryAt_of_prefix hmade.wellFormed hfront hne
    rw [← FileSystem.contentAt_eq_some, ← hmade.others front fun w hw =>
      h.ne_target_of_front hplaces hv hfront hne hw, FileSystem.contentAt_eq_some] at hbytes
    exact FileSystem.not_isDirectoryAt_of_file hbytes hdir

/-- The bytes of a staged file are read. -/
theorem readBytes_source {content : ByteArray} (hentry : v.entry = .file content) :
    fs.readBytes (v.path root) = .ok content := by
  have htext := FileSystem.locate_text_ne_empty hplaces.located
  have hnames : ∀ name ∈ v.relative, IsName name := fun _ => hv.isName hplaces.wellFormed
  have hpath : Descends root v.relative (v.path root) := .path htext hnames
  have hfile : fs.get? (fs₀.reading root ++ v.relative) = some (.file content) := by
    rw [h.get?_staging hplaces (List.prefix_append _ _), hv.get?, hentry]
  have hends := (FileSystem.endsInStep_entry htext hv.ne_root hnames).1
  have hpathText := (Path.steps_foldl_join htext hnames).2.2
  rw [← List.dropLast_concat_getLast hv.ne_root] at hpath hfile
  exact FileSystem.readBytes_entry h.wellFormed (h.locate_root hplaces) hpath hends hpathText hfile

/-- No directory has come to be where a file goes. -/
theorem not_isDirectoryAt_target (hcan : CanReceive fs₀ destination v) :
    ¬ fs.isDirectoryAt (fs₀.reading destination ++ v.relative) := by
  intro hdir
  rcases h.new _ hdir with hbefore | ⟨w, hw, hpre⟩
  · exact hcan.no_directory hbefore
  · -- A directory above the place of a file is not the place of another one.
    rw [List.prefix_append_right_inj] at hpre
    have hself := hv.eq_of_isPrefix (h.staged w hw) hplaces.wellFormed
      (hpre.trans (List.dropLast_prefix _))
    have hle := hpre.length_le
    have hpos := List.length_pos_of_ne_nil hv.ne_root
    rw [← hself, List.length_dropLast] at hle
    omega

/-- No file has come to be above the place where a file goes. -/
theorem free_above (hcan : CanReceive fs₀ destination v) {front : Location}
    (hfront : front <+: fs₀.reading destination ++ v.relative)
    (hne : front ≠ fs₀.reading destination ++ v.relative) :
    fs.isDirectoryAt front ∨ fs.get? front = none := by
  apply FileSystem.isDirectoryAt_or_none
  intro hfile
  obtain ⟨content, hcontent⟩ := FileSystem.isFileAt_iff.1 hfile
  rw [← FileSystem.contentAt_eq_some, h.others front fun w hw =>
    h.ne_target_of_front hplaces hv hfront hne hw, FileSystem.contentAt_eq_some] at hcontent
  exact hcan.no_file front hfront hne (FileSystem.isFileAt_iff.2 ⟨content, hcontent⟩)

/-- What can be received is copied, whatever was published before. -/
theorem copy_of_canReceive (hcan : CanReceive fs₀ destination v) :
    ∃ fs', fs.copyInto (v.path root) (destination.join v.name) = (.ok (), fs') := by
  obtain ⟨content, hentry⟩ := hv.content
  obtain ⟨above, last, hrelative⟩ : ∃ above last, v.relative = above ++ [last] :=
    ⟨_, _, (List.dropLast_concat_getLast hv.ne_root).symm⟩
  have hnames : ∀ name ∈ v.relative, IsName name := fun _ => hv.isName hplaces.wellFormed
  have hpath := FileSystem.descends_published destination hnames
  have hall : ∀ name ∈ destination.steps ++ above ++ [last], IsName name := by
    rw [List.append_assoc, ← hrelative]
    exact List.forall_mem_append.2 ⟨hcan.named, hnames⟩
  have hsteps : (destination.join v.name).steps = [] ++ (destination.steps ++ above ++ [last]) := by
    rw [List.nil_append, List.append_assoc, ← hrelative]
    exact hpath.steps
  have htext : (destination.join v.name).text ≠ "" :=
    FileSystem.text_ne_empty_of_steps (by rw [hsteps]; simp)
  have hread : FileSystem.IsReadable (destination.join v.name) := by
    refine FileSystem.isReadable_of_steps htext fun name hname => (hall name ?_).no_zero
    rwa [hsteps] at hname
  -- The path is followed from where it begins, which is a directory.
  have horigin : fs.origin (destination.join v.name) = fs₀.origin destination :=
    FileSystem.origin_eq h.current hpath.isAbsolute
  have hstart : fs.isDirectoryAt (fs₀.origin destination) := by
    unfold FileSystem.origin
    split
    · rfl
    · rw [← h.current]
      exact h.wellFormed.current_directory
  have hplace : fs₀.origin destination ++ (destination.steps ++ above) ++ [last] =
      fs₀.reading destination ++ v.relative := by
    rw [FileSystem.reading_of_plain hplaces.plain, hrelative]
    simp only [List.append_assoc]
  have hfree : ∀ front, front <+: destination.steps ++ above →
      fs.isDirectoryAt (fs₀.origin destination ++ front) ∨
        fs.get? (fs₀.origin destination ++ front) = none := by
    intro front hfront
    have hlonger : fs₀.origin destination ++ front <+:
        fs₀.origin destination ++ (destination.steps ++ above) :=
      (List.prefix_append_right_inj _).2 hfront
    refine h.free_above hplaces hv hcan ?_ fun heq => ?_
    · rw [← hplace]
      exact hlonger.trans (List.prefix_append _ [last])
    · have hle := hlonger.length_le
      rw [heq, ← hplace] at hle
      simp only [List.length_append, List.length_singleton] at hle
      omega
  obtain ⟨made, hcopy, -⟩ := FileSystem.copyInto_ok h.wellFormed
    (h.readBytes_source hplaces hv hentry) hread
    (FileSystem.endsInStep_published destination hv.ne_root hnames) hsteps
    (by rw [horigin]; rfl) hstart hall hfree
    (by rw [hplace]; exact h.not_isDirectoryAt_target hplaces hv hcan)
    (by rw [hplace, h.reading_source hplaces hv]; exact hplaces.ne_target _ _)
  exact ⟨_, hcopy⟩

end

/-! ### All files -/

/-- Files are published until one cannot be received. The invariant over what is done is
`Overlaid`. -/
theorem publishEach_cases (h : Overlaid fs₀ root destination done done fs)
    (hplaces : Publishable fs₀ root destination) (hfiles : ∀ v ∈ todo, IsFileBelow fs₀ root v)
    (hdistinct : ((done ++ todo).map (·.relative)).Nodup) :
    ((∀ v ∈ todo, CanReceive fs₀ destination v) ∧ ∃ fs', publishEach root destination todo fs =
        (.ok (todo.map fun v => destination.join v.name), fs') ∧
      Overlaid fs₀ root destination (done ++ todo) (done ++ todo) fs') ∨
    ∃ (front : List Visited) (v : Visited) (rest : List Visited) (fault : IoFault)
        (fs' : FileSystem), todo = front ++ v :: rest ∧ ¬ CanReceive fs₀ destination v ∧
      publishEach root destination todo fs = (.error (.copy (v.path root) fault), fs') ∧
      Overlaid fs₀ root destination (done ++ front ++ [v]) (done ++ front) fs' := by
  induction todo generalizing done fs with
  | nil => exact .inl ⟨nofun, fs, rfl, by rwa [List.append_nil]⟩
  | cons v rest ih =>
    have hv := hfiles v List.mem_cons_self
    have hrest : ∀ w ∈ rest, IsFileBelow fs₀ root w := fun w hw =>
      hfiles w (List.mem_cons_of_mem v hw)
    have hnew : v.relative ∉ done.map (·.relative) := FileSystem.notMem_done hdistinct
    unfold publishEach
    cases hcopy : fs.copyInto (v.path root) (destination.join v.name) with
    | mk result fs₁ =>
      cases result with
      | error fault =>
        have hno : ¬ CanReceive fs₀ destination v := by
          intro hcan
          obtain ⟨fs₂, hok⟩ := h.copy_of_canReceive hplaces hv hcan
          rw [hcopy] at hok
          cases hok
        refine .inr ⟨[], v, rest, fault, fs₁, rfl, hno, rfl, ?_⟩
        rw [List.append_nil]
        exact h.concat_failed hplaces hv hcopy
      | ok =>
        have hcan := h.canReceive_of_copy hplaces hv hcopy
        have hstep := h.concat_copied hplaces hv hnew hcopy
        rw [List.append_cons] at hdistinct
        rcases ih hstep hrest hdistinct with
          ⟨hall, fs', hrun, hfinal⟩ | ⟨front, w, later, fault, fs', rfl, hno, hrun, hfinal⟩
        · rw [← List.append_cons] at hfinal
          refine .inl ⟨List.forall_mem_cons.2 ⟨hcan, hall⟩, fs', ?_, hfinal⟩
          simp only [hrun, List.map_cons]
        · rw [← List.append_cons] at hfinal
          refine .inr ⟨v :: front, w, later, fault, fs', rfl, hno, ?_, hfinal⟩
          simp only [hrun]

/-- Where all files are published already, nothing is left to do. -/
theorem eq_of_republished {vs : List Visited} (h : Overlaid fs root destination vs vs fs')
    (hthere : ∀ v ∈ vs, fs.get? (fs.reading destination ++ v.relative) = some v.entry)
    (hfs : fs.WellFormed) (l : Location) : fs'.get? l = fs.get? l := by
  refine FileSystem.get?_ext ⟨?_, h.directories l⟩ ?_
  · intro hdir
    rcases h.new l hdir with hbefore | ⟨v, hv, hpre⟩
    · exact hbefore
    · have hne := (h.staged v hv).ne_root
      have habove : fs.isDirectoryAt (fs.reading destination ++ v.relative.dropLast) := by
        have hheld := hfs.isDirectoryAt_dropLast (by rw [hthere v hv]; rfl)
        rwa [List.dropLast_append_of_ne_nil hne] at hheld
      by_cases hself : l = fs.reading destination ++ v.relative.dropLast
      · rwa [hself]
      · exact hfs.isDirectoryAt_of_prefix (Option.isSome_of_any habove) hpre hself
  · by_cases hwritten : ∃ v ∈ vs, l = fs.reading destination ++ v.relative
    · obtain ⟨v, hv, rfl⟩ := hwritten
      unfold FileSystem.contentAt
      rw [h.written v hv, hthere v hv]
    · exact h.others l fun v hv heq => hwritten ⟨v, hv, heq⟩

end Overlaid

/-! ### Publications -/

theorem mem_publishedFiles_iff (hfs : fs.WellFormed) :
    v ∈ publishedFiles fs root ↔ IsFileBelow fs root v := by
  rw [mem_publishedFiles]
  constructor
  · rintro ⟨⟨hmem, hne⟩, hfile⟩
    exact ⟨hne, hfs.get?_of_mem hmem, hfile⟩
  · rintro ⟨hne, hget, hfile⟩
    exact ⟨⟨FileSystem.mem_entries_of_get? (by simp [hne]) hget, hne⟩, hfile⟩

/-- The second publication finds everything in its place. -/
theorem Overlaid.publish_again
    (h : Overlaid fs root destination (publishedFiles fs root) (publishedFiles fs root) fs')
    (hplaces : Publishable fs root destination)
    (hall : ∀ v ∈ publishedFiles fs root, CanReceive fs destination v) :
    ∃ written fs'', publish fs' root destination = (.ok written, fs'') ∧
      ∀ l, fs''.get? l = fs'.get? l := by
  have hroot : fs'.reading root = fs.reading root := FileSystem.reading_congr h.current root
  have hdestination : fs'.reading destination = fs.reading destination :=
    FileSystem.reading_congr h.current destination
  have hlocate : fs'.locate root = .ok (fs'.reading root) := by
    rw [hroot]
    exact h.locate_root hplaces
  have hplaces' : Publishable fs' root destination := {
    wellFormed := h.wellFormed
    located := hlocate
    directory := by rw [hroot]; exact h.directories _ hplaces.directory
    plain := hplaces.plain
    not_inside := by rw [hroot, hdestination]; exact hplaces.not_inside
    not_around := by rw [hroot, hdestination]; exact hplaces.not_around }
  have hstaged : ∀ v, v ∈ publishedFiles fs' root → v ∈ publishedFiles fs root := by
    intro v hv
    rw [mem_publishedFiles_iff h.wellFormed] at hv
    rw [mem_publishedFiles_iff hplaces.wellFormed]
    refine ⟨hv.ne_root, ?_, hv.isFile⟩
    rw [← h.get?_staging hplaces (List.prefix_append _ _), ← hroot]
    exact hv.get?
  have hthere : ∀ v ∈ publishedFiles fs' root,
      fs'.get? (fs'.reading destination ++ v.relative) = some v.entry := by
    intro v hv
    rw [hdestination]
    exact h.written v (hstaged v hv)
  have hagain : ∀ v ∈ publishedFiles fs' root, CanReceive fs' destination v := by
    intro v hv
    obtain ⟨content, hcontent⟩ := (h.staged v (hstaged v hv)).content
    have hfile := hthere v hv
    rw [hcontent] at hfile
    refine {
      named := (hall v (hstaged v hv)).named
      no_directory := FileSystem.not_isDirectoryAt_of_file hfile
      no_file := fun front hfront hne hblocked => ?_ }
    obtain ⟨bytes, hbytes⟩ := FileSystem.isFileAt_iff.1 hblocked
    exact FileSystem.not_isDirectoryAt_of_file hbytes
      (h.wellFormed.isDirectoryAt_of_prefix (by rw [hfile]; rfl) hfront hne)
  rw [publish_of_located destination hlocate]
  rcases (Overlaid.start h.wellFormed root destination).publishEach_cases hplaces'
      (fun v hv => (mem_publishedFiles_iff h.wellFormed).1 hv)
      (nodup_publishedFiles root h.wellFormed) with
    ⟨-, fs'', hrun, hfinal⟩ | ⟨front, v, rest, fault, fs'', hsplit, hno, -, -⟩
  · exact ⟨_, fs'', hrun, hfinal.eq_of_republished hthere h.wellFormed⟩
  · exact absurd (hagain v (by simp [hsplit])) hno

/-- A publication of a staging tree to a destination elsewhere whose path does not lead up.

It succeeds if and only if every file can be received. Then `Overlaid` says what the file system is
like, the targets are returned, and a second publication changes nothing. If a file cannot be
received, the publication stops there, after the files before it. In both cases the staging tree is
as it was. The order of the files is that in which the directories list them. Limits to the length
of whole paths are left aside: only names are limited. -/
theorem publish_overlays (fs : FileSystem) (root destination : Path) (hfs : fs.WellFormed)
    (hroot : fs.isDirectory root = true) (hup : ".." ∉ destination.steps)
    (hinside : ¬ fs.reading root <+: fs.reading destination)
    (haround : ¬ fs.reading destination <+: fs.reading root) :
    (∀ v, v ∈ publishedFiles fs root ↔ IsFileBelow fs root v) ∧
    ((publishedFiles fs root).map fun v => destination.join v.name).Nodup ∧
    ((∀ v ∈ publishedFiles fs root, CanReceive fs destination v) → ∃ fs',
      publish fs root destination =
        (.ok ((publishedFiles fs root).map fun v => destination.join v.name), fs') ∧
      Overlaid fs root destination (publishedFiles fs root) (publishedFiles fs root) fs' ∧
      (∀ l, fs.reading root <+: l → fs'.get? l = fs.get? l) ∧
      ∃ written fs'', publish fs' root destination = (.ok written, fs'') ∧
        ∀ l, fs''.get? l = fs'.get? l) ∧
    ((¬ ∀ v ∈ publishedFiles fs root, CanReceive fs destination v) →
      ∃ (front : List Visited) (v : Visited) (rest : List Visited) (fault : IoFault)
        (fs' : FileSystem), publishedFiles fs root = front ++ v :: rest ∧
      ¬ CanReceive fs destination v ∧
      publish fs root destination = (.error (.copy (v.path root) fault), fs') ∧
      Overlaid fs root destination (front ++ [v]) front fs' ∧
      ∀ l, fs.reading root <+: l → fs'.get? l = fs.get? l) := by
  obtain ⟨hlocate, hdir⟩ := FileSystem.isDirectory_iff.1 hroot
  have hplaces : Publishable fs root destination := ⟨hfs, hlocate, hdir, hup, hinside, haround⟩
  have hmem : ∀ v, v ∈ publishedFiles fs root ↔ IsFileBelow fs root v := fun _ =>
    mem_publishedFiles_iff hfs
  refine ⟨hmem, ?_, ?_⟩
  · have hpaths : ∀ v ∈ publishedFiles fs root,
        Descends destination v.relative (destination.join v.name) := fun v hv =>
      FileSystem.descends_published destination (isName_of_publishedFiles root hfs v hv)
    exact FileSystem.nodup_paths hpaths (nodup_publishedFiles root hfs)
  · rw [publish_of_located destination hlocate]
    rcases (Overlaid.start hfs root destination).publishEach_cases hplaces
        (fun v hv => (hmem v).1 hv) (nodup_publishedFiles root hfs) with
      ⟨hall, fs', hrun, hfinal⟩ | ⟨front, v, rest, fault, fs', hsplit, hno, hrun, hfinal⟩
    · rw [List.nil_append] at hfinal
      exact ⟨fun _ => ⟨fs', hrun, hfinal, fun l hl => hfinal.get?_staging hplaces hl,
        hfinal.publish_again hplaces hall⟩, fun hno => absurd hall hno⟩
    · rw [List.nil_append] at hfinal
      have hv : v ∈ publishedFiles fs root := by simp [hsplit]
      exact ⟨fun hall => absurd (hall v hv) hno, fun _ => ⟨front, v, rest, fault, fs', hsplit, hno,
        hrun, hfinal, fun l hl => hfinal.get?_staging hplaces hl⟩⟩

/-- A staging tree with an empty directory, and a destination that has one of its files already and
another one. -/
def overlappingFiles : FileSystem :=
  { entries := [
      (["stage"], .directory), (["stage", "sub"], .directory),
      (["stage", "sub", "b.txt"], .file "b".toUTF8), (["stage", "empty"], .directory),
      (["stage", "a.txt"], .file "new".toUTF8), (["out"], .directory),
      (["out", "a.txt"], .file "old".toUTF8), (["out", "c.txt"], .file "c".toUTF8)] }

theorem publish_overlays_of_overlappingFiles : ∃ fs',
    publish overlappingFiles ⟨"/stage"⟩ ⟨"out"⟩ =
      (.ok ((publishedFiles overlappingFiles ⟨"/stage"⟩).map fun v => Path.join ⟨"out"⟩ v.name),
        fs') ∧
    Overlaid overlappingFiles ⟨"/stage"⟩ ⟨"out"⟩ (publishedFiles overlappingFiles ⟨"/stage"⟩)
      (publishedFiles overlappingFiles ⟨"/stage"⟩) fs' ∧
    (∀ l, overlappingFiles.reading ⟨"/stage"⟩ <+: l → fs'.get? l = overlappingFiles.get? l) ∧
    ∃ written fs'', publish fs' ⟨"/stage"⟩ ⟨"out"⟩ = (.ok written, fs'') ∧
      ∀ l, fs''.get? l = fs'.get? l := by
  obtain ⟨-, -, hsucceeds, -⟩ := publish_overlays overlappingFiles ⟨"/stage"⟩ ⟨"out"⟩
    (by decide +kernel) (by decide +kernel) (by decide +kernel) (by decide +kernel)
    (by decide +kernel)
  have hall : ∀ v ∈ overlappingFiles.below (overlappingFiles.reading ⟨"/stage"⟩),
      v.entry.isFile → CanReceive overlappingFiles ⟨"out"⟩ v := by decide +kernel
  apply hsucceeds
  intro v hv
  obtain ⟨hwalk, hfile⟩ := List.mem_filter.1 hv
  exact hall v (FileSystem.mem_collectAsListed.1 hwalk) hfile

/-! ### Names that are too long -/

/-- Nothing is published where the destination cannot have its name. -/
theorem publish_refused {name : String} (hplaces : Publishable fs root destination)
    (hv : IsFileBelow fs root v) (hname : name ∈ destination.steps) (hno : ¬ IsName name) :
    (publish fs root destination).1.isOk = false := by
  have hfs := hplaces.wellFormed
  rw [publish_of_located destination hplaces.located]
  rcases (Overlaid.start hfs root destination).publishEach_cases hplaces
      (fun w hw => (mem_publishedFiles_iff hfs).1 hw) (nodup_publishedFiles root hfs) with
    ⟨hall, -⟩ | ⟨front, w, rest, fault, fs', -, -, hrun, -⟩
  · exact absurd ((hall v ((mem_publishedFiles_iff hfs).2 hv)).named name hname) hno
  · rw [hrun]
    rfl

/-- A staging tree with one file. -/
def stagedFile : FileSystem :=
  { entries := [(["stage"], .directory), (["stage", "a.txt"], .file "A".toUTF8)] }

/-- A name with a byte more than names can have. -/
def longName : String := String.ofList (List.replicate 256 'x')

theorem longName_ne {name : String} (h : name.length ≠ 256) : longName ≠ name := by
  rintro rfl
  apply h
  unfold longName
  rw [String.length_ofList, List.length_replicate]

theorem steps_longName : Path.steps ⟨longName⟩ = [longName] := by
  apply Path.steps_singleton
  · intro hmem
    unfold longName at hmem
    rw [String.toList_ofList] at hmem
    exact absurd (List.mem_replicate.1 hmem).2 (by decide)
  · rintro (hempty | hdot)
    · exact longName_ne (by decide) hempty
    · exact longName_ne (by decide) hdot

/-- Nothing is in the way of the file, neither a directory at its place nor a file above, and yet it
cannot be published. -/
theorem long_destination_refused :
    stagedFile.WellFormed ∧ stagedFile.isDirectory ⟨"/stage"⟩ = true ∧
    ".." ∉ Path.steps ⟨longName⟩ ∧
    ¬ stagedFile.reading ⟨"/stage"⟩ <+: stagedFile.reading ⟨longName⟩ ∧
    ¬ stagedFile.reading ⟨longName⟩ <+: stagedFile.reading ⟨"/stage"⟩ ∧
    (∀ v ∈ publishedFiles stagedFile ⟨"/stage"⟩,
      ¬ stagedFile.isDirectoryAt (stagedFile.reading ⟨longName⟩ ++ v.relative) ∧
      ∀ front, front <+: stagedFile.reading ⟨longName⟩ ++ v.relative →
        front ≠ stagedFile.reading ⟨longName⟩ ++ v.relative → ¬ stagedFile.isFileAt front) ∧
    (publish stagedFile ⟨"/stage"⟩ ⟨longName⟩).1.isOk = false := by
  have hfs : stagedFile.WellFormed := by decide +kernel
  have hroot : stagedFile.isDirectory ⟨"/stage"⟩ = true := by decide +kernel
  obtain ⟨hlocate, hdir⟩ := FileSystem.isDirectory_iff.1 hroot
  have hstage : stagedFile.reading ⟨"/stage"⟩ = ["stage"] := by decide +kernel
  have hother : longName ≠ "stage" := longName_ne (by decide)
  have hup : ".." ∉ Path.steps ⟨longName⟩ := by
    rw [steps_longName, List.mem_singleton]
    exact (longName_ne (by decide)).symm
  have hreading : stagedFile.reading ⟨longName⟩ = [longName] := by
    rw [FileSystem.reading_of_plain hup, steps_longName]
    unfold FileSystem.origin
    split <;> rfl
  have hinside : ¬ stagedFile.reading ⟨"/stage"⟩ <+: stagedFile.reading ⟨longName⟩ := by
    rw [hstage, hreading]
    simpa using Ne.symm hother
  have haround : ¬ stagedFile.reading ⟨longName⟩ <+: stagedFile.reading ⟨"/stage"⟩ := by
    rw [hstage, hreading]
    simpa using hother
  -- Nothing at all is at the destination or below.
  have hfree : ∀ rest, stagedFile.get? (longName :: rest) = none := by
    intro rest
    apply List.lookup_eq_none_iff.2
    intro e he
    simp only [stagedFile, List.mem_cons, List.not_mem_nil, or_false] at he
    rcases he with rfl | rfl <;> simp [hother]
  have hlong : ¬ IsName longName := fun hname => by
    have hshort := hname.short
    revert hshort
    decide +kernel
  refine ⟨hfs, hroot, hup, hinside, haround, fun v hv => ⟨?_, fun front hfront hne hfile => ?_⟩, ?_⟩
  · rw [hreading, isDirectoryAt_iff]
    show stagedFile.get? (longName :: v.relative) ≠ _
    rw [hfree]
    exact nofun
  · obtain ⟨content, hcontent⟩ := FileSystem.isFileAt_iff.1 hfile
    cases front with
    | nil => cases hcontent
    | cons first rest =>
      rw [hreading] at hfront
      obtain ⟨rfl, -⟩ := List.cons_prefix_cons.1 hfront
      rw [hfree] at hcontent
      cases hcontent
  · have hfile : IsFileBelow stagedFile ⟨"/stage"⟩ ⟨["a.txt"], .file "A".toUTF8⟩ := by
      refine ⟨by simp, ?_, rfl⟩
      rw [hstage]
      decide +kernel
    exact publish_refused ⟨hfs, hlocate, hdir, hup, hinside, haround⟩ hfile
      (by rw [steps_longName]; exact List.mem_singleton_self _) hlong

end Staging

end Scaffold
