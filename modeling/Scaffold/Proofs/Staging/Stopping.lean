import Scaffold.Proofs.FileSystem.Making
import Scaffold.Proofs.Staging.Processing

/-! # Where processing templates stops

  Templates are processed one after the other, in a tree that holds the outcomes
  of those before them. The first one that fails ends this. It leaves nothing
  behind: the tree is the one that the templates before it have made, and this
  template and all later ones are as they were found.

  - `StopsFor`: why a template fails.
  - `processOne_spec`: a template is processed, or fails and changes nothing.
  - `ProcessedInTurn`: some templates after each other.
  - `Halted`: what is where when processing has stopped.
  - `processTemplates_halts`: what a run that fails comes to.
-/

namespace Scaffold.Staging

open Scaffold.Path (IsPlain)
open FileSystem (Descends IsReadable Visited readNames turn)

variable {fs fs₁ fs' : FileSystem} {root : Path} {env : Environment} {v w : Visited}
  {done rest todo : List Visited} {before : Location} {stem : String}

/-! ### The place of an outcome -/

/-- A text without slashes is its own only name. -/
theorem names_of_slash_notMem (hslash : '/' ∉ stem.toList) : Path.names ⟨stem⟩ = [stem] := by
  have hnames := Path.names_joinTexts (List.cons_ne_nil stem []) (by simpa using hslash)
  rwa [Path.joinTexts_singleton] at hnames

/-- A directory that one name leads to is reached by its steps, also if the name leads nowhere or
up. -/
theorem follow_stem {l : Location} (hslash : '/' ∉ stem.toList)
    (hname : IsPlain stem → IsName stem) (hl : fs.isDirectoryAt l)
    (hthere : fs.isDirectoryAt (turn l stem)) :
    fs.follow l (Path.steps ⟨stem⟩) = .ok (turn l stem) := by
  have hstep : fs.step l stem = .ok (turn l stem) := by
    refine FileSystem.step_eq_ok.2 ⟨rfl, fun hplain => ⟨(hname hplain).short, ?_⟩⟩
    rw [FileSystem.turn_plain hplain] at hthere
    exact Option.isSome_of_any hthere
  have hone : fs.follow l [stem] = .ok (turn l stem) := by
    rw [FileSystem.follow_cons, if_pos hl, hstep]
    rfl
  rw [Path.steps, names_of_slash_notMem hslash]
  exact FileSystem.follow_steps hone

/-- A directory at the stripped path of a template is found there, also if the stem leads nowhere or
up. -/
theorem locate_strip (hfs : fs.WellFormed) (hroot : fs.locate root = .ok (fs.reading root))
    (hnames : ∀ name ∈ v.relative, IsName name) (hrelative : v.relative = before ++ [marked stem])
    (hdir : fs.isDirectoryAt (fs.reading root ++ before))
    (hthere : fs.isDirectoryAt (fs.reading (strip (v.path root)))) :
    fs.locate (strip (v.path root)) = .ok (fs.reading (strip (v.path root))) := by
  have htext := FileSystem.locate_text_ne_empty hroot
  have hmarked : IsName (marked stem) := hnames _ (by simp [hrelative])
  have hsub : ∀ {c : Char}, c ∈ stem.toList → c ∈ (marked stem).toList := by
    intro c hc
    rw [marked_toList]
    exact List.mem_append_left _ hc
  have hslash : '/' ∉ stem.toList := fun hc => hmarked.no_slash (hsub hc)
  have hrel := isAbsolute_of_slash_notMem hslash
  have hbefore : ∀ name ∈ before, IsName name :=
    fun name hname => hnames name (by simp [hrelative, hname])
  obtain ⟨hstrip, hreading⟩ := reading_strip fs htext hnames hrelative
  obtain ⟨hsteps, habs, hne⟩ := Path.steps_foldl_join htext hbefore
  have hall : (strip (v.path root)).steps = root.steps ++ before ++ Path.steps ⟨stem⟩ := by
    rw [hstrip, Path.steps_join hne hrel, hsteps]
  have habs' : (strip (v.path root)).isAbsolute = root.isAbsolute := by
    rw [hstrip, Path.isAbsolute_join hne hrel, habs]
  have hread : IsReadable (strip (v.path root)) := by
    refine FileSystem.isReadable_of_steps ?_ fun n hn => ?_
    · rw [hstrip]
      exact Path.join_text_ne_empty hne
    · rw [hall, List.append_assoc, List.mem_append, List.mem_append] at hn
      rcases hn with hn | hn | hn
      · exact (FileSystem.locate_eq_ok.1 hroot).1.zero_notMem hn
      · exact (hbefore n hn).no_zero
      · rw [Path.steps, names_of_slash_notMem hslash] at hn
        obtain rfl := List.mem_singleton.1 (List.mem_filter.1 hn).1
        exact fun hc => hmarked.no_zero (hsub hc)
  -- From the directory of the template, the stem is one step.
  have hturn : fs.reading (strip (v.path root)) = turn (fs.reading root ++ before) stem := by
    rw [hreading, Path.steps, names_of_slash_notMem hslash, FileSystem.readNames_filter]
    rfl
  rw [hturn] at hthere ⊢
  refine FileSystem.locate_of_steps hread ?_ hthere
  rw [hall, FileSystem.follow_append, FileSystem.follow_append, FileSystem.origin_eq rfl habs',
    FileSystem.follow_steps_of_locate hroot]
  show (fs.follow (fs.reading root) before).bind _ = _
  rw [hfs.follow_down (Option.isSome_of_any hdir)]
  exact follow_stem hslash (fun hplain => isName_stem hmarked hplain) hdir hthere

/-! ### One template -/

/-- Why a template fails in a tree. -/
inductive StopsFor (fs : FileSystem) (root : Path) (env : Environment) (v : Visited) :
    Error → Prop where
  /-- Its bytes are no text. -/
  | notText {bytes : ByteArray} (hentry : v.entry = .file bytes)
    (hbytes : String.fromUTF8? bytes = none) : StopsFor fs root env v (.io .notText)
  /-- Its text cannot be rendered. -/
  | unrendered {source : String} {failure : Template.Failure}
    (hentry : v.entry = .file source.toUTF8)
    (hrender : Template.renderNamed (loadBelow fs root) env v.name source = .error failure) :
    StopsFor fs root env v (.template failure)
  /-- A directory is where its outcome should go. -/
  | occupied {source text : String} (hentry : v.entry = .file source.toUTF8)
    (hrender : Template.renderNamed (loadBelow fs root) env v.name source = .ok text)
    (hdir : fs.isDirectoryAt (fs.reading (strip (v.path root)))) :
    StopsFor fs root env v (.io .isADirectory)

/-- A template as it is found in a tree. -/
structure IsFound (fs : FileSystem) (root : Path) (v : Visited) : Prop where
  /-- It is a file with a marked name. -/
  template : isTemplateEntry v = true
  /-- It has names that lead down. -/
  named : ∀ name ∈ v.relative, IsName name
  /-- It is there. -/
  there : fs.get? (fs.reading root ++ v.relative) = some v.entry

theorem IsFound.isFile (h : IsFound fs root v) : ∃ bytes, v.entry = .file bytes := by
  have hfile : v.entry.isFile = true := ((Bool.and_eq_true _ _).mp h.template).1
  cases hentry : v.entry with
  | directory =>
    rw [hentry] at hfile
    cases hfile
  | file bytes => exact ⟨bytes, rfl⟩

/-- A template that is found is read. -/
theorem IsFound.readBytes {bytes : ByteArray} (h : IsFound fs root v) (hfs : fs.WellFormed)
    (hroot : fs.locate root = .ok (fs.reading root)) (hentry : v.entry = .file bytes) :
    fs.readBytes (root.join v.name) = .ok bytes := by
  have htext := FileSystem.locate_text_ne_empty hroot
  obtain ⟨-, before, stem, -, hrelative⟩ := (isTemplateEntry_iff h.named).1 h.template
  have hdown := Descends.join_name htext h.named
  have hends := (FileSystem.endsInStep_entry htext (by simp [hrelative]) h.named).2
  have hthere := h.there
  rw [hentry, hrelative] at hthere
  rw [hrelative] at hdown
  exact FileSystem.readBytes_entry hfs hroot hdown hends (Path.join_text_ne_empty htext) hthere

/-- A template that is found can be removed. -/
theorem IsFound.removeFile (h : IsFound fs root v) (hfs : fs.WellFormed)
    (hroot : fs.locate root = .ok (fs.reading root)) :
    ∃ fs', fs.removeFile (v.path root) = .ok fs' := by
  have htext := FileSystem.locate_text_ne_empty hroot
  obtain ⟨-, before, stem, -, hrelative⟩ := (isTemplateEntry_iff h.named).1 h.template
  obtain ⟨bytes, hentry⟩ := h.isFile
  have hdown := Descends.path htext h.named
  have hends := (FileSystem.endsInStep_entry htext (by simp [hrelative]) h.named).1
  have hthere := h.there
  rw [hentry, hrelative] at hthere
  rw [hrelative] at hdown
  have hne : (v.path root).text ≠ "" := (Path.steps_foldl_join htext h.named).2.2
  have hlocate := FileSystem.locate_entry hfs hroot hdown hends hne (by rw [hthere]; rfl)
  have hnotdir : ¬ fs.isDirectoryAt (fs.reading root ++ (before ++ [marked stem])) :=
    FileSystem.not_isDirectoryAt_of_file hthere
  refine ⟨fs.eraseTree (fs.reading root ++ (before ++ [marked stem])), ?_⟩
  unfold FileSystem.removeFile
  rw [hlocate]
  exact if_neg hnotdir

/-- A written outcome leaves the template as it is found. -/
theorem IsFound.setFile {content : ByteArray} (h : IsFound fs root v)
    (hrelative : v.relative = before ++ [marked stem]) :
    IsFound (fs.setFile (fs.reading root ++ (before ++ [stem])) content) root v where
  template := h.template
  named := h.named
  there := by
    have hne : fs.reading root ++ v.relative ≠ fs.reading root ++ (before ++ [stem]) := by
      intro heq
      have hstem : marked stem = stem := by simpa [hrelative] using heq
      exact String.lt_irrefl stem (by simpa [hstem] using lt_marked stem)
    show FileSystem.get? _ (fs.reading root ++ v.relative) = _
    rw [FileSystem.get?_setFile (by simp), if_neg hne]
    exact h.there

/-- What holds a template is a directory, and so is the root. -/
theorem IsFound.isDirectoryAt (h : IsFound fs root v) (hfs : fs.WellFormed)
    (hrelative : v.relative = before ++ [marked stem]) :
    fs.isDirectoryAt (fs.reading root ++ before) ∧ fs.isDirectoryAt (fs.reading root) := by
  have hsome : (fs.get? (fs.reading root ++ v.relative)).isSome := by
    rw [h.there]
    rfl
  constructor
  · have habove := hfs.isDirectoryAt_dropLast hsome
    rwa [hrelative, ← List.append_assoc, List.dropLast_concat] at habove
  · exact hfs.isDirectoryAt_of_prefix hsome (List.prefix_append _ _) (by simp [hrelative])

/-- A root that is a directory is found as long as the directories stay. -/
theorem locate_root_of_directories (hcurrent : fs.current = fs'.current)
    (hdirs : ∀ k, fs.isDirectoryAt k → fs'.isDirectoryAt k)
    (hroot : fs.locate root = .ok (fs.reading root)) (hdir : fs.isDirectoryAt (fs.reading root)) :
    fs'.locate root = .ok (fs'.reading root) := by
  have hthere := FileSystem.isDirectory_iff.2 ⟨hroot, hdir⟩
  exact (FileSystem.isDirectory_iff.1
    (FileSystem.isDirectory_of_directories hcurrent hdirs hthere)).1

/-- If no directory is at the stripped path of a template, its outcome can be written next to it. -/
theorem IsFound.writeBytes (h : IsFound fs root v) (hfs : fs.WellFormed)
    (hroot : fs.locate root = .ok (fs.reading root)) (content : ByteArray)
    (hfree : ¬ fs.isDirectoryAt (fs.reading (strip (v.path root)))) :
    ∃ before stem, v.relative = before ++ [marked stem] ∧
      fs.writeBytes (strip (v.path root)) content =
        .ok (fs.setFile (fs.reading root ++ (before ++ [stem])) content) := by
  have htext := FileSystem.locate_text_ne_empty hroot
  obtain ⟨-, before, stem, hstem, hrelative⟩ := (isTemplateEntry_iff h.named).1 h.template
  obtain ⟨hdir, -⟩ := h.isDirectoryAt hfs hrelative
  obtain ⟨hname, hreading⟩ :=
    isName_of_free hfs.sound htext h.named hrelative hstem hdir hfree
  refine ⟨before, stem, hrelative, ?_⟩
  -- The stripped path is that of an entry that may be missing.
  let w : Visited := ⟨before ++ [stem], v.entry⟩
  have hw : ∀ name ∈ w.relative, IsName name := by
    intro name hmem
    rcases List.mem_append.1 hmem with hmem | hmem
    · exact h.named name (by simp [hrelative, hmem])
    · rwa [List.mem_singleton.1 hmem]
  have hpath : strip (v.path root) = w.path root := strip_eq_path htext h.named hrelative rfl
  have hdown : Descends root (before ++ [stem]) (w.path root) := Descends.path htext hw
  have hends := (FileSystem.endsInStep_entry htext (by simp [w]) hw).1
  have hne : (w.path root).text ≠ "" := (Path.steps_foldl_join htext hw).2.2
  have hplace := FileSystem.place_of_descends hfs hroot hdown hends hne hw hdir
  rw [hreading, ← List.append_assoc] at hfree
  rw [hpath, FileSystem.writeBytes_ok hplace hfree, List.append_assoc]

/-- When the outcome of a template is written, the template is still there to be removed. -/
theorem IsFound.exists_written (h : IsFound fs root v) (hfs : fs.WellFormed)
    (hroot : fs.locate root = .ok (fs.reading root)) (content : ByteArray)
    (hfree : ¬ fs.isDirectoryAt (fs.reading (strip (v.path root)))) :
    ∃ written final, fs.writeBytes (strip (v.path root)) content = .ok written ∧
      written.removeFile (v.path root) = .ok final := by
  obtain ⟨before, stem, hrelative, hwrite⟩ := h.writeBytes hfs hroot content hfree
  have hfound : IsFound (fs.setFile (fs.reading root ++ (before ++ [stem])) content) root v :=
    h.setFile hrelative
  generalize fs.setFile (fs.reading root ++ (before ++ [stem])) content = written at hwrite hfound
  obtain ⟨hslot, hfree, hset⟩ := FileSystem.writeBytes_eq_ok hwrite
  have hcurrent : fs.current = written.current := by
    rw [hset]
    rfl
  have hdirs : ∀ k, fs.isDirectoryAt k → written.isDirectoryAt k := by
    intro k hk
    rw [hset]
    exact FileSystem.isDirectoryAt_setFile hslot hfree hk
  have hwell : written.WellFormed := by
    rw [hset]
    exact hfs.setFile hslot hfree
  have hlocate :=
    locate_root_of_directories hcurrent hdirs hroot (h.isDirectoryAt hfs hrelative).2
  obtain ⟨final, hremove⟩ := hfound.removeFile hwell hlocate
  exact ⟨written, final, hwrite, hremove⟩

/-- A template that is found is rendered from its text, unless it is no text or cannot be
rendered. -/
theorem IsFound.renderFile (h : IsFound fs root v) (hfs : fs.WellFormed)
    (hroot : fs.locate root = .ok (fs.reading root)) (env : Environment) :
    (∃ e, renderFile fs root v.name env = .error e ∧ StopsFor fs root env v e) ∨
    ∃ source text, v.entry = .file source.toUTF8 ∧
      fs.readText (root.join v.name) = .ok source ∧
      Template.renderNamed (loadBelow fs root) env v.name source = .ok text ∧
      renderFile fs root v.name env = .ok text := by
  obtain ⟨bytes, hentry⟩ := h.isFile
  have hbytes := h.readBytes hfs hroot hentry
  unfold Scaffold.renderFile
  cases hsource : String.fromUTF8? bytes with
  | none =>
    refine .inl ⟨_, ?_, .notText hentry hsource⟩
    unfold FileSystem.readText
    rw [hbytes]
    simp only [bind, Except.bind, hsource]
  | some source =>
    have hread : fs.readText (root.join v.name) = .ok source := by
      unfold FileSystem.readText
      rw [hbytes]
      simp only [bind, Except.bind, hsource]
    have hsame : v.entry = .file source.toUTF8 := by
      have hread' := FileSystem.readText_eq_ok hread
      rw [hbytes] at hread'
      rw [hentry, Except.ok.inj hread']
    rw [hread]
    dsimp only
    cases hrender : Template.renderNamed (loadBelow fs root) env v.name source with
    | error failure => exact .inl ⟨_, rfl, .unrendered hsame hrender⟩
    | ok text => exact .inr ⟨source, text, hsame, rfl, hrender, rfl⟩

/-- A template that is found is processed, or it fails and everything is as before. -/
theorem processOne_spec (h : IsFound fs root v) (hfs : fs.WellFormed)
    (hroot : fs.locate root = .ok (fs.reading root)) (env : Environment) :
    (∃ e, processOne fs root env v = (.error e, fs) ∧ StopsFor fs root env v e) ∨
    ∃ fs' before stem source text, processOne fs root env v = (.ok (), fs') ∧
      v.entry = .file source.toUTF8 ∧ Processed fs root env v fs' before stem source text := by
  have htext := FileSystem.locate_text_ne_empty hroot
  rcases h.renderFile hfs hroot env with
    ⟨e, hfails, hstops⟩ | ⟨source, text, hsame, hread, hrender, hrendered⟩
  · refine .inl ⟨e, ?_, hstops⟩
    unfold processOne
    rw [hfails]
  · by_cases hdir : fs.isDirectoryAt (fs.reading (strip (v.path root)))
    · -- Whatever the stem is, its path leads to the directory.
      obtain ⟨-, before, stem, -, hrelative⟩ := (isTemplateEntry_iff h.named).1 h.template
      have hlocate :=
        locate_strip hfs hroot h.named hrelative (h.isDirectoryAt hfs hrelative).1 hdir
      refine .inl ⟨_, ?_, .occupied hsame hrender hdir⟩
      unfold processOne
      rw [hrendered]
      dsimp only
      rw [FileSystem.writeBytes_directory hlocate hdir]
    · obtain ⟨written, final, hwrite, hremove⟩ := h.exists_written hfs hroot text.toUTF8 hdir
      have hone : processOne fs root env v = (.ok (), final) := by
        unfold processOne
        rw [hrendered]
        dsimp only
        rw [hwrite]
        dsimp only
        rw [hremove]
      obtain ⟨before, stem, source', text', hprocessed⟩ :=
        processOne_eq_ok hfs.sound htext h.named h.template hone
      obtain rfl : source' = source := Except.ok.inj (hprocessed.read.symm.trans hread)
      exact .inr ⟨final, before, stem, source', text', hone, hsame, hprocessed⟩

/-! ### Templates after each other -/

/-- Templates are processed one after the other, each from the text it was found with, and in the
tree that those before it have made. -/
inductive ProcessedInTurn (root : Path) (env : Environment) :
    List Visited → FileSystem → FileSystem → Prop where
  /-- No template is processed. -/
  | nil (fs : FileSystem) : ProcessedInTurn root env [] fs fs
  /-- One template is processed, then the others. -/
  | cons {v : Visited} {rest : List Visited} {fs fs₁ fs' : FileSystem} {before : Location}
    {stem source text : String} (hentry : v.entry = .file source.toUTF8)
    (hone : Processed fs root env v fs₁ before stem source text)
    (hrest : ProcessedInTurn root env rest fs₁ fs') : ProcessedInTurn root env (v :: rest) fs fs'

/-- Templates that are to be processed in a tree. -/
structure Ready (fs : FileSystem) (root : Path) (todo : List Visited) : Prop where
  /-- The file system is well-formed. -/
  wellFormed : fs.WellFormed
  /-- The root is found. -/
  located : fs.locate root = .ok (fs.reading root)
  /-- All templates are found. -/
  found : ∀ v ∈ todo, IsFound fs root v
  /-- They come in turn. -/
  turn : todo.Pairwise InTurn

section

variable {source text : String}

/-- What is where after a template has been processed, told by the paths. -/
theorem Processed.get?_eq (hone : Processed fs root env v fs' before stem source text)
    (hfs : fs.WellFormed) (htext : root.text ≠ "") (hnames : ∀ name ∈ v.relative, IsName name)
    (l : Location) :
    fs'.get? l = if l = fs.reading (strip (v.path root)) then some (.file text.toUTF8)
      else if l = fs.reading (v.path root) then none else fs.get? l := by
  rw [reading_strip_of_isName htext hnames hone.relative hone.named fs,
    FileSystem.reading_path htext hnames]
  exact hone.get?_final hfs (hone.get?_template htext hnames) l

theorem Processed.current (hone : Processed fs root env v fs' before stem source text) :
    fs'.current = fs.current := by
  rw [hone.final]
  rfl

/-- A directory is neither a template nor an outcome, so it stays. -/
theorem Processed.isDirectoryAt (hone : Processed fs root env v fs' before stem source text)
    (hfs : fs.WellFormed) (htext : root.text ≠ "") (hnames : ∀ name ∈ v.relative, IsName name)
    {l : Location} (hl : fs.isDirectoryAt l) :
    l ≠ fs.reading (strip (v.path root)) ∧ fs'.isDirectoryAt l := by
  have hfile := hone.get?_template htext hnames
  have houtcome : l ≠ fs.reading (strip (v.path root)) := by
    rw [reading_strip_of_isName htext hnames hone.relative hone.named fs]
    rintro rfl
    exact hone.free hl
  have hplace : l ≠ fs.reading (v.path root) := by
    rw [FileSystem.reading_path htext hnames]
    rintro rfl
    exact FileSystem.not_isDirectoryAt_of_file hfile hl
  refine ⟨houtcome, ?_⟩
  rw [FileSystem.isDirectoryAt_iff, hone.get?_eq hfs htext hnames, if_neg houtcome, if_neg hplace]
  exact FileSystem.isDirectoryAt_iff.1 hl

/-- Two templates in turn: the outcome of the first one comes to no place of the second one, and the
second one is elsewhere. -/
theorem Processed.apart (hone : Processed fs root env v fs' before stem source text)
    (htext : root.text ≠ "") (hv : ∀ name ∈ v.relative, IsName name)
    (hw : ∀ name ∈ w.relative, IsName name) (hturn : InTurn v w) :
    fs.reading (w.path root) ≠ fs.reading (strip (v.path root)) ∧
      fs.reading (w.path root) ≠ fs.reading (v.path root) := by
  rw [reading_strip_of_isName htext hv hone.relative hone.named fs,
    FileSystem.reading_path htext hv, FileSystem.reading_path htext hw]
  constructor
  · intro heq
    exact hturn.2 before stem hone.relative (List.append_cancel_left heq)
  · intro heq
    exact hturn.1 (List.append_cancel_left heq).symm

/-- When the first template has been processed, the others are still to be. -/
theorem Ready.step (h : Ready fs root (v :: rest))
    (hone : Processed fs root env v fs' before stem source text) : Ready fs' root rest := by
  have htext := FileSystem.locate_text_ne_empty h.located
  have hfound := h.found v List.mem_cons_self
  have hdirs : ∀ k, fs.isDirectoryAt k → fs'.isDirectoryAt k := fun k hk =>
    (hone.isDirectoryAt h.wellFormed htext hfound.named hk).2
  obtain ⟨hfirst, hrest⟩ := List.pairwise_cons.1 h.turn
  refine ⟨?_, ?_, ?_, hrest⟩
  · exact hone.wellFormed h.wellFormed (hone.get?_template htext hfound.named)
  · exact locate_root_of_directories hone.current.symm hdirs h.located
      (hfound.isDirectoryAt h.wellFormed hone.relative).2
  · intro w hw
    have hwfound := h.found w (List.mem_cons_of_mem v hw)
    obtain ⟨houtcome, hplace⟩ :=
      hone.apart htext hfound.named hwfound.named (hfirst w hw)
    refine ⟨hwfound.template, hwfound.named, ?_⟩
    rw [FileSystem.reading_congr hone.current, ← FileSystem.reading_path htext hwfound.named,
      hone.get?_eq h.wellFormed htext hfound.named, if_neg houtcome, if_neg hplace,
      FileSystem.reading_path htext hwfound.named]
    exact hwfound.there

end

/-- Processing that fails stops at the first template that cannot be processed, in the tree that
those before it have made. -/
theorem processEach_halts {e : Error} (h : Ready fs root todo)
    (hrun : processEach root env todo fs = (.error e, fs')) :
    ∃ done v rest, todo = done ++ v :: rest ∧ ProcessedInTurn root env done fs fs' ∧
      processEach root env done fs = (.ok (done.map fun w => strip (w.path root)), fs') ∧
      StopsFor fs' root env v e := by
  induction todo generalizing fs with
  | nil => cases hrun
  | cons v rest ih =>
    unfold processEach at hrun
    rcases processOne_spec (h.found v List.mem_cons_self) h.wellFormed h.located env with
      ⟨e', hone, hstops⟩ | ⟨fs₁, before, stem, source, text, hone, hentry, hprocessed⟩
    · rw [hone] at hrun
      cases hrun
      exact ⟨[], v, rest, rfl, .nil _, rfl, hstops⟩
    · rw [hone] at hrun
      dsimp only at hrun
      cases hrest : processEach root env rest fs₁ with
      | mk result final =>
        rw [hrest] at hrun
        cases result with
        | ok paths => cases hrun
        | error e' =>
          cases hrun
          obtain ⟨done, w, later, rfl, hdone, heach, hstops⟩ := ih (h.step hprocessed) hrest
          refine ⟨v :: done, w, later, rfl, .cons hentry hprocessed hdone, ?_, hstops⟩
          unfold processEach
          rw [hone]
          dsimp only
          rw [heach]
          rfl

/-! ### What is where -/

theorem ProcessedInTurn.current (h : ProcessedInTurn root env done fs fs') :
    fs'.current = fs.current := by
  induction h with
  | nil => rfl
  | cons hentry hone hrest ih => exact ih.trans hone.current

/-- When some templates have been processed, those behind them are still to be. -/
theorem ProcessedInTurn.ready (h : ProcessedInTurn root env done fs fs')
    (hready : Ready fs root (done ++ todo)) : Ready fs' root todo := by
  induction h with
  | nil => exact hready
  | cons hentry hone hrest ih => exact ih (hready.step hone)

/-- Templates are processed one part after the other. -/
theorem ProcessedInTurn.split {front back : List Visited}
    (h : ProcessedInTurn root env (front ++ back) fs fs') :
    ∃ mid, ProcessedInTurn root env front fs mid ∧ ProcessedInTurn root env back mid fs' := by
  induction front generalizing fs with
  | nil => exact ⟨fs, .nil fs, h⟩
  | cons v front ih =>
    cases h with
    | cons hentry hone hrest =>
      obtain ⟨mid, hfront, hback⟩ := ih hrest
      exact ⟨mid, .cons hentry hone hfront, hback⟩

theorem ProcessedInTurn.named (h : ProcessedInTurn root env done fs fs') (hw : w ∈ done) :
    ∃ before stem, IsName stem ∧ w.relative = before ++ [marked stem] := by
  induction h with
  | nil => cases hw
  | cons hentry hone hrest ih =>
    rcases List.mem_cons.1 hw with rfl | hw
    · exact ⟨_, _, hone.named, hone.relative⟩
    · exact ih hw

/-- What is at the place of neither a template nor an outcome stays. -/
theorem ProcessedInTurn.kept (h : ProcessedInTurn root env done fs fs')
    (hready : Ready fs root (done ++ todo)) {l : Location}
    (hl : ∀ w ∈ done, l ≠ fs.reading (w.path root) ∧ l ≠ fs.reading (strip (w.path root))) :
    fs'.get? l = fs.get? l := by
  induction h with
  | nil => rfl
  | @cons v rest fs fs₁ fs' before stem source text hentry hone hrest ih =>
    have htext := FileSystem.locate_text_ne_empty hready.located
    have hnames := (hready.found v List.mem_cons_self).named
    obtain ⟨hplace, houtcome⟩ := hl v List.mem_cons_self
    rw [ih (hready.step hone) fun w hw => ?_]
    · rw [hone.get?_eq hready.wellFormed htext hnames, if_neg houtcome, if_neg hplace]
    · rw [FileSystem.reading_congr hone.current, FileSystem.reading_congr hone.current]
      exact hl w (List.mem_cons_of_mem v hw)

/-- No outcome comes to the place of a directory. -/
theorem ProcessedInTurn.ne_of_directory (h : ProcessedInTurn root env done fs fs')
    (hready : Ready fs root (done ++ todo)) {l : Location} (hl : fs.isDirectoryAt l) :
    ∀ w ∈ done, l ≠ fs.reading (strip (w.path root)) := by
  induction h with
  | nil => exact nofun
  | @cons v rest fs fs₁ fs' before stem source text hentry hone hrest ih =>
    have htext := FileSystem.locate_text_ne_empty hready.located
    have hnames := (hready.found v List.mem_cons_self).named
    obtain ⟨hne, hdir⟩ := hone.isDirectoryAt hready.wellFormed htext hnames hl
    refine List.forall_mem_cons.2 ⟨hne, fun w hw => ?_⟩
    rw [← FileSystem.reading_congr hone.current]
    exact ih (hready.step hone) hdir w hw

/-- Where no outcome comes, a processed template is gone. -/
theorem ProcessedInTurn.gone (h : ProcessedInTurn root env done fs fs')
    (hready : Ready fs root (done ++ todo)) {l : Location}
    (hl : ∀ w ∈ done, l ≠ fs.reading (strip (w.path root)))
    (hplace : ∃ w ∈ done, l = fs.reading (w.path root)) : fs'.get? l = none := by
  induction h with
  | nil =>
    obtain ⟨w, hw, -⟩ := hplace
    cases hw
  | @cons v rest fs fs₁ fs' before stem source text hentry hone hrest ih =>
    have htext := FileSystem.locate_text_ne_empty hready.located
    have hnames := (hready.found v List.mem_cons_self).named
    have hreading : ∀ p, fs₁.reading p = fs.reading p := FileSystem.reading_congr hone.current
    have hlater : ∀ w ∈ rest, l ≠ fs₁.reading (strip (w.path root)) := by
      intro w hw
      rw [hreading]
      exact hl w (List.mem_cons_of_mem v hw)
    by_cases hrestplace : ∃ w ∈ rest, l = fs₁.reading (w.path root)
    · exact ih (hready.step hone) hlater hrestplace
    · -- No later template is here, so it is the first one, and nothing comes to its place.
      have haway : ∀ w ∈ rest, l ≠ fs₁.reading (w.path root) ∧
          l ≠ fs₁.reading (strip (w.path root)) :=
        fun w hw => ⟨fun heq => hrestplace ⟨w, hw, heq⟩, hlater w hw⟩
      obtain ⟨w, hw, heq⟩ := hplace
      have hfirst : w = v := by
        rcases List.mem_cons.1 hw with hfirst | hw
        · exact hfirst
        · exact absurd (heq.trans (hreading _).symm) (haway w hw).1
      rw [hfirst] at heq
      rw [hrest.kept (hready.step hone) haway, hone.get?_eq hready.wellFormed htext hnames,
        if_neg (hl v List.mem_cons_self), if_pos heq]

/-- Outcomes of templates in turn have different places. -/
theorem strip_apart (htext : root.text ≠ "") (hv : ∀ name ∈ v.relative, IsName name)
    (hw : ∀ name ∈ w.relative, IsName name)
    (hvstem : ∃ before stem, IsName stem ∧ v.relative = before ++ [marked stem])
    (hwstem : ∃ before stem, IsName stem ∧ w.relative = before ++ [marked stem])
    (hturn : InTurn v w) (fs : FileSystem) :
    fs.reading (strip (v.path root)) ≠ fs.reading (strip (w.path root)) := by
  obtain ⟨before, stem, hstem, hrelative⟩ := hvstem
  obtain ⟨before', stem', hstem', hrelative'⟩ := hwstem
  rw [reading_strip_of_isName htext hv hrelative hstem fs,
    reading_strip_of_isName htext hw hrelative' hstem' fs]
  intro heq
  obtain ⟨rfl, hlast⟩ := List.append_inj' (List.append_cancel_left heq) rfl
  obtain rfl := List.singleton_inj.1 hlast
  exact hturn.1 (hrelative.trans hrelative'.symm)

/-- The outcome of a template stays where it is while the others are processed. -/
theorem ProcessedInTurn.outcome {front back : List Visited}
    (h : ProcessedInTurn root env (front ++ w :: back) fs fs')
    (hready : Ready fs root (front ++ w :: back ++ todo)) :
    ∃ (mid : FileSystem) (source text : String), ProcessedInTurn root env front fs mid ∧
      w.entry = .file source.toUTF8 ∧
      Template.renderNamed (loadBelow mid root) env w.name source = .ok text ∧
      fs'.get? (fs.reading (strip (w.path root))) = some (.file text.toUTF8) := by
  obtain ⟨mid, hfront, hback⟩ := h.split
  have hmid : Ready mid root (w :: back ++ todo) := by
    rw [List.append_assoc] at hready
    exact hfront.ready hready
  cases hback with
  | @cons _ _ _ fs₁ _ before stem source text hentry hone hrest =>
    refine ⟨mid, source, text, hfront, hentry, hone.rendered, ?_⟩
    have htext := FileSystem.locate_text_ne_empty hmid.located
    have hnames := (hmid.found w List.mem_cons_self).named
    have hreading : ∀ p, fs₁.reading p = fs.reading p :=
      FileSystem.reading_congr (hone.current.trans hfront.current)
    obtain ⟨hturn, -⟩ := List.pairwise_cons.1 hmid.turn
    have haway : ∀ w' ∈ back, fs.reading (strip (w.path root)) ≠ fs₁.reading (w'.path root) ∧
        fs.reading (strip (w.path root)) ≠ fs₁.reading (strip (w'.path root)) := by
      intro w' hw'
      have hmem : w' ∈ back ++ todo := List.mem_append_left todo hw'
      have hnames' := (hmid.found w' (List.mem_cons_of_mem w hmem)).named
      rw [← hreading (strip (w.path root))]
      refine ⟨fun heq => ?_, ?_⟩
      · refine (hone.apart htext hnames hnames' (hturn w' hmem)).1 ?_
        rw [← FileSystem.reading_congr hone.current, ← FileSystem.reading_congr hone.current]
        exact heq.symm
      · exact strip_apart htext hnames hnames' ⟨before, stem, hone.named, hone.relative⟩
          (hrest.named hw') (hturn w' hmem) fs₁
    rw [hrest.kept (hmid.step hone) haway, hone.get?_eq hmid.wellFormed htext hnames,
      FileSystem.reading_congr hfront.current, if_pos rfl]

/-- At the stripped path of a template that is still to be processed, nothing is written. -/
theorem ProcessedInTurn.unwritten (h : ProcessedInTurn root env done fs fs')
    (hready : Ready fs root (done ++ v :: rest)) :
    fs'.get? (fs.reading (strip (v.path root))) = fs.get? (fs.reading (strip (v.path root))) ∨
      (∃ w ∈ done, fs.reading (strip (v.path root)) = fs.reading (w.path root)) ∧
        fs'.get? (fs.reading (strip (v.path root))) = none := by
  have htext := FileSystem.locate_text_ne_empty hready.located
  have hfound := hready.found v (by simp)
  obtain ⟨-, before, stem, hstem, hrelative⟩ := (isTemplateEntry_iff hfound.named).1 hfound.template
  have hfree : ∀ w ∈ done, fs.reading (strip (v.path root)) ≠ fs.reading (strip (w.path root)) := by
    by_cases hdir : fs.isDirectoryAt (fs.reading (strip (v.path root)))
    · exact h.ne_of_directory hready hdir
    · obtain ⟨hname, -⟩ := isName_of_free hready.wellFormed.sound htext hfound.named hrelative
        hstem (hfound.isDirectoryAt hready.wellFormed hrelative).1 hdir
      intro w hw
      have hturn : InTurn w v := (List.pairwise_append.1 hready.turn).2.2 w hw v List.mem_cons_self
      have hwnames := (hready.found w (List.mem_append_left _ hw)).named
      exact (strip_apart htext hwnames hfound.named (h.named hw) ⟨before, stem, hname, hrelative⟩
        hturn fs).symm
  by_cases hplace : ∃ w ∈ done, fs.reading (strip (v.path root)) = fs.reading (w.path root)
  · exact .inr ⟨hplace, h.gone hready hfree hplace⟩
  · exact .inl (h.kept hready fun w hw => ⟨fun heq => hplace ⟨w, hw, heq⟩, hfree w hw⟩)

/-- From `fs` to `fs'`, the templates `done` were processed, and the template `v` and those behind
it were not. -/
structure Halted (fs : FileSystem) (root : Path) (env : Environment) (done : List Visited)
    (v : Visited) (rest : List Visited) (fs' : FileSystem) : Prop where
  /-- At the stripped path of a processed template is what its text was rendered to in the tree that
  the templates before it have made. -/
  outcomes : ∀ front w back, done = front ++ w :: back →
    ∃ (mid : FileSystem) (source text : String), ProcessedInTurn root env front fs mid ∧
      w.entry = .file source.toUTF8 ∧
      Template.renderNamed (loadBelow mid root) env w.name source = .ok text ∧
      fs'.get? (fs.reading (strip (w.path root))) = some (.file text.toUTF8)
  /-- A processed template is gone, unless an outcome has its path. -/
  gone : ∀ w ∈ done, (∀ u ∈ done, w.path root ≠ strip (u.path root)) →
    fs'.get? (fs.reading (w.path root)) = none
  /-- The other templates are as they were found. -/
  waiting : ∀ w ∈ v :: rest, fs.get? (fs.reading (w.path root)) = some w.entry ∧
    fs'.get? (fs.reading (w.path root)) = some w.entry
  /-- There is no outcome of the template that failed: at its stripped path is what was there
  before, or nothing if this was the place of a processed template. -/
  unwritten : fs'.get? (fs.reading (strip (v.path root))) =
      fs.get? (fs.reading (strip (v.path root))) ∨
    (∃ w ∈ done, fs.reading (strip (v.path root)) = fs.reading (w.path root)) ∧
      fs'.get? (fs.reading (strip (v.path root))) = none
  /-- Everything else is as before. -/
  kept : ∀ l, (∀ w ∈ done, l ≠ fs.reading (w.path root) ∧ l ≠ fs.reading (strip (w.path root))) →
    fs'.get? l = fs.get? l

theorem ProcessedInTurn.halted (h : ProcessedInTurn root env done fs fs')
    (hready : Ready fs root (done ++ v :: rest)) : Halted fs root env done v rest fs' where
  outcomes := by
    rintro front w back rfl
    exact h.outcome hready
  gone := by
    intro w hw hpath
    have htext := FileSystem.locate_text_ne_empty hready.located
    have hnames : ∀ u ∈ done, ∀ name ∈ u.relative, IsName name :=
      fun u hu => (hready.found u (List.mem_append_left _ hu)).named
    refine h.gone hready (fun u hu heq => hpath u hu ?_) ⟨w, hw, rfl⟩
    obtain ⟨before, stem, hstem, hrelative⟩ := h.named hu
    rw [FileSystem.reading_path htext (hnames w hw),
      reading_strip_of_isName htext (hnames u hu) hrelative hstem fs] at heq
    exact (strip_eq_path htext (hnames u hu) hrelative (List.append_cancel_left heq)).symm
  waiting := by
    intro w hw
    have htext := FileSystem.locate_text_ne_empty hready.located
    have hbefore := hready.found w (List.mem_append_right done hw)
    have hafter := (h.ready hready).found w hw
    rw [FileSystem.reading_path htext hbefore.named]
    refine ⟨hbefore.there, ?_⟩
    rw [← FileSystem.reading_congr h.current]
    exact hafter.there
  unwritten := h.unwritten hready
  kept := fun _ hl => h.kept hready hl

/-! ### All templates -/

/-- If processing the templates fails, either the root cannot be walked and nothing happens, or the
templates up to some one of them, in the order in which they are collected, are processed one after
the other, the next one fails, and that is all: the tree is the one that processing the templates
before it gives. The template that fails is no text, cannot be rendered, or has a directory at its
stripped path, which may also be the one that it lies in or the one above. -/
theorem processTemplates_halts {e : Error} (hfs : fs.WellFormed)
    (hrun : processTemplates fs root env = (.error e, fs')) :
    (∃ fault, fs.locate root = .error fault ∧ e = .walk root fault ∧ fs' = fs) ∨
    ∃ done v rest, templates fs root = .ok (done ++ v :: rest) ∧
      (∀ w, w ∈ done ++ v :: rest ↔ w ∈ fs.below (fs.reading root) ∧ isTemplateEntry w = true) ∧
      ProcessedInTurn root env done fs fs' ∧
      processEach root env done fs = (.ok (done.map fun w => strip (w.path root)), fs') ∧
      StopsFor fs' root env v e ∧ Halted fs root env done v rest fs' := by
  unfold processTemplates at hrun
  cases hfound : templates fs root with
  | error e' =>
    rw [hfound] at hrun
    obtain ⟨herror, rfl⟩ := Prod.mk.inj hrun
    obtain rfl := Except.error.inj herror
    unfold templates collect entries FileSystem.walkRoot at hfound
    cases hlocate : fs.locate root with
    | ok l =>
      rw [hlocate] at hfound
      cases hfound
    | error fault =>
      rw [hlocate] at hfound
      exact .inl ⟨fault, rfl, (Except.error.inj hfound).symm, rfl⟩
  | ok found =>
    rw [hfound] at hrun
    obtain ⟨hlocate, hmem, hturn⟩ := templates_eq_ok hfs hfound
    have hready : Ready fs root found := by
      refine ⟨hfs, hlocate, fun w hw => ?_, hturn⟩
      obtain ⟨hbelow, htemplate⟩ := (hmem w).1 hw
      exact ⟨htemplate, fun name => hfs.isName_relative hbelow,
        hfs.get?_of_mem (FileSystem.mem_below.1 hbelow).1⟩
    obtain ⟨done, v, rest, rfl, hdone, heach, hstops⟩ := processEach_halts hready hrun
    exact .inr ⟨done, v, rest, rfl, hmem, hdone, heach, hstops, hdone.halted hready⟩

/-- A directory with a file that is marked twice, and with a directory where an outcome should
go. -/
def blocked : FileSystem where
  entries := [
    (["t"], .directory),
    (["t", "b"], .directory),
    (["t", "a.ftl"], .file "one".toUTF8),
    (["t", "a.ftl.ftl"], .file "two".toUTF8),
    (["t", "b.ftl"], .file "three".toUTF8),
    (["t", "c.ftl"], .file "four".toUTF8)]

/-- The directory when processing has stopped. -/
def halfway : FileSystem where
  entries := [
    (["t"], .directory),
    (["t", "b"], .directory),
    (["t", "b.ftl"], .file "three".toUTF8),
    (["t", "c.ftl"], .file "four".toUTF8),
    (["t", "a"], .file "one".toUTF8),
    (["t", "a.ftl"], .file "two".toUTF8)]

theorem templates_blocked : templates blocked ⟨"t"⟩ =
    .ok [⟨["a.ftl"], .file "one".toUTF8⟩, ⟨["a.ftl.ftl"], .file "two".toUTF8⟩,
      ⟨["b.ftl"], .file "three".toUTF8⟩, ⟨["c.ftl"], .file "four".toUTF8⟩] := by
  have hroot : blocked.walkRoot ⟨"t"⟩ = .ok ["t"] := by decide +kernel
  have hfound : blocked.collectContentsFirst ["t"] = blocked.below ["t"] :=
    List.mergeSort_of_pairwise (by decide +kernel)
  have hmarked : (blocked.below ["t"]).filter isTemplateEntry =
      [⟨["a.ftl"], .file "one".toUTF8⟩, ⟨["a.ftl.ftl"], .file "two".toUTF8⟩,
        ⟨["b.ftl"], .file "three".toUTF8⟩, ⟨["c.ftl"], .file "four".toUTF8⟩] := by decide +kernel
  unfold templates collect entries
  simp only [hroot, hfound, Except.map, hmarked]

theorem processTemplates_blocked :
    processTemplates blocked ⟨"t"⟩ {} = (.error (.io .isADirectory), halfway) := by
  unfold processTemplates
  simp only [templates_blocked]
  decide +kernel

/-- Two templates are processed, and the third one and the one behind it are left. -/
theorem processTemplates_halts_halfway :
    blocked.WellFormed ∧
    processTemplates blocked ⟨"t"⟩ {} = (.error (.io .isADirectory), halfway) ∧
    ∃ done v rest, templates blocked ⟨"t"⟩ = .ok (done ++ v :: rest) ∧
      ProcessedInTurn ⟨"t"⟩ {} done blocked halfway ∧
      StopsFor halfway ⟨"t"⟩ {} v (.io .isADirectory) ∧
      Halted blocked ⟨"t"⟩ {} done v rest halfway := by
  have hfs : blocked.WellFormed := by decide +kernel
  refine ⟨hfs, processTemplates_blocked, ?_⟩
  rcases processTemplates_halts hfs processTemplates_blocked with
    ⟨fault, -, herror, -⟩ | ⟨done, v, rest, htemplates, -, hdone, -, hstops, hhalted⟩
  · cases herror
  · exact ⟨done, v, rest, htemplates, hdone, hstops, hhalted⟩

end Scaffold.Staging
