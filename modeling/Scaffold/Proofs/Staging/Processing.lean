import Scaffold.Proofs.FileSystem.Order
import Scaffold.Proofs.FileSystem.Preservation
import Scaffold.Proofs.Staging.Templates
import Scaffold.Proofs.Template.Evaluation

/-! # Every template is rendered once

  Outcomes are written into the tree that the templates are read from, and the
  outcome of one template can have the path of another. Still every template is
  rendered from the text it began with: in each directory the walk visits a stem
  before the marked stem, so a path is read and cleared before an outcome comes
  to it.

  - `InTurn`: what the order of the templates gives.
  - `RenderedOnce`: what holds when some templates have been processed.
  - `processTemplates_rendersOnce`: what holds when all have been.
-/

namespace Scaffold.Staging

open FileSystem (Visited)

variable {fs₀ fs fs' : FileSystem} {root : Path} {env : Environment} {v w : Visited}
  {before : Location} {stem : String} {done found : List Visited}

/-! ### The order of templates -/

theorem lt_marked (stem : String) : stem < marked stem := by
  rw [String.lt_iff, marked_toList]
  induction stem.toList with
  | nil => exact List.nil_lt_cons _ _
  | cons c rest ih => exact List.cons_lt_cons_self.2 ih

/-- A template in turn before another one: it is not the other one, and its outcome does not
come to the other one's place. -/
def InTurn (v w : Visited) : Prop :=
  v.relative ≠ w.relative ∧
    ∀ before stem, v.relative = before ++ [marked stem] → w.relative ≠ before ++ [stem]

/-- Files are visited in turn. -/
theorem pairwise_inTurn (hfs : fs.WellFormed) (l : Location) {keep : Visited → Bool}
    (hkeep : ∀ v, keep v = true → v.entry.isFile) :
    ((fs.collectContentsFirst l).filter keep).Pairwise InTurn := by
  have hnodup : (fs.collectContentsFirst l).Pairwise fun v w => v.relative ≠ w.relative := by
    have hmap := ((FileSystem.collectContentsFirst_perm fs l).map (·.relative)).nodup_iff.2
      (hfs.nodup_below l)
    exact List.pairwise_map.1 hmap
  have hboth := (hnodup.and (FileSystem.collectContentsFirst_pairwise fs l)).filter keep
  refine hboth.imp_of_mem fun {v w} hv hw h => ⟨h.1, fun before stem hrelative hsame => ?_⟩
  have hvfile := hkeep v (List.mem_filter.1 hv).2
  have hwfile := hkeep w (List.mem_filter.1 hw).2
  -- The walk would visit the marked stem before the stem.
  have hle := FileSystem.name_le_of_stepsLe hrelative hsame hvfile hwfile h.2
  exact String.not_lt.2 hle (lt_marked stem)

/-! ### Places -/

theorem reading_strip_of_isName (hroot : root.text ≠ "") (hnames : ∀ name ∈ v.relative, IsName name)
    (hv : v.relative = before ++ [marked stem]) (hstem : IsName stem) (fs : FileSystem) :
    fs.reading (strip (v.path root)) = fs.reading root ++ (before ++ [stem]) := by
  rw [(reading_strip fs hroot hnames hv).2, (Path.steps_of_name hstem).1,
    FileSystem.readNames_plain (by simpa using hstem.isPlain), List.append_assoc]

/-- A path that is the place of an outcome is the path of the outcome. -/
theorem strip_eq_path (hroot : root.text ≠ "") (hnames : ∀ name ∈ v.relative, IsName name)
    (hv : v.relative = before ++ [marked stem]) (hw : w.relative = before ++ [stem]) :
    strip (v.path root) = w.path root := by
  rw [(reading_strip ⟨[], []⟩ hroot hnames hv).1, Visited.path, hw, List.foldl_append]
  rfl

/-! ### What holds after some templates -/

/-- Whether a template uses no other one, if it holds a text that can be read as a template. -/
def standsAlone (v : Visited) : Bool :=
  (v.entry.content?.bind String.fromUTF8?).all fun text =>
    (Template.Source.parse v.name text).toOption.all (·.isSelfContained)

theorem isSelfContained_of_standsAlone {text : String} {source : Template.Source}
    (h : standsAlone v = true) (hentry : v.entry = .file text.toUTF8)
    (hparse : Template.Source.parse v.name text = .ok source) : source.isSelfContained = true := by
  have htext : String.fromUTF8? text.toUTF8 = some text := by
    unfold String.fromUTF8?
    exact dif_pos text.isValidUTF8
  unfold standsAlone at h
  rw [hentry] at h
  simpa only [Entry.content?, Option.bind_some, htext, Option.all_some, hparse, Except.toOption]
    using h

/-- What a template comes to: its text, as it was found, renders to this text, whatever other
templates there are. -/
def RendersTo (env : Environment) (v : Visited) (text : String) : Prop :=
  ∃ source : String, v.entry = .file source.toUTF8 ∧
    ∀ load, Template.renderNamed load env v.name source = .ok text

/-- From `fs` to `fs'` every found template was rendered once, from the text it began with. -/
structure RenderedOnce (fs : FileSystem) (root : Path) (env : Environment) (found : List Visited)
    (paths : List Path) (fs' : FileSystem) : Prop where
  /-- The paths are those of the templates without the marker, in the order of the templates. -/
  in_order : paths = found.map fun v => strip (v.path root)
  /-- No path comes twice. -/
  distinct : paths.Nodup
  /-- At each path is what its template comes to. -/
  outcomes : ∀ v ∈ found, ∃ text, RendersTo env v text ∧
    fs'.get? (fs.reading (strip (v.path root))) = some (.file text.toUTF8)
  /-- A template is gone, unless an outcome has its path. -/
  gone : ∀ v ∈ found, v.path root ∉ paths → fs'.get? (fs.reading (v.path root)) = none
  /-- Everything else is as before. -/
  kept : ∀ l, (∀ v ∈ found, l ≠ fs.reading (v.path root) ∧ l ≠ fs.reading (strip (v.path root))) →
    fs'.get? l = fs.get? l

/-- Templates that have been processed, in a state from which others can be. -/
structure Progress (fs₀ : FileSystem) (root : Path) (env : Environment) (done : List Visited)
    (fs : FileSystem) : Prop where
  /-- They have been rendered. -/
  rendered : RenderedOnce fs₀ root env done (done.map fun v => strip (v.path root)) fs
  /-- Their stems are names. -/
  named : ∀ v ∈ done, ∃ before stem, IsName stem ∧ v.relative = before ++ [marked stem]
  /-- The file system stays well-formed. -/
  wellFormed : fs.WellFormed
  /-- The current directory is the same. -/
  current : fs.current = fs₀.current

theorem Progress.start (hfs : fs₀.WellFormed) : Progress fs₀ root env [] fs₀ where
  rendered := ⟨rfl, List.nodup_nil, nofun, nofun, fun _ _ => rfl⟩
  named := nofun
  wellFormed := hfs
  current := rfl

/-! ### One template -/

section

variable {source text : String}

/-- A template that is processed is a file with the text that is rendered. -/
theorem Processed.get?_template (h : Processed fs root env v fs' before stem source text)
    (hroot : root.text ≠ "") (hnames : ∀ name ∈ v.relative, IsName name) :
    fs.get? (fs.reading root ++ v.relative) = some (.file source.toUTF8) := by
  obtain ⟨-, hget⟩ := FileSystem.readBytes_eq_ok (FileSystem.readText_eq_ok h.read)
  rwa [FileSystem.reading_join_name hroot hnames] at hget

/-- What is where after a template has been processed. -/
theorem Processed.get?_final (h : Processed fs root env v fs' before stem source text)
    (hfs : fs.WellFormed)
    (hfile : fs.get? (fs.reading root ++ v.relative) = some (.file source.toUTF8)) (l : Location) :
    fs'.get? l = if l = fs.reading root ++ (before ++ [stem]) then some (.file text.toUTF8)
      else if l = fs.reading root ++ v.relative then none else fs.get? l := by
  have htemplate : fs.reading root ++ v.relative ≠ [] := by simp [h.relative]
  rw [h.final, FileSystem.get?_eraseTree htemplate, FileSystem.get?_setFile h.slot.below_root]
  by_cases hl : l = fs.reading root ++ (before ++ [stem])
  · have hapart : ¬ fs.reading root ++ v.relative <+: l := by
      intro hpre
      -- Both places are equally deep, and a stem differs from the marked stem.
      have heq := hpre.eq_of_length (by simp [hl, h.relative])
      rw [hl, h.relative] at heq
      have hstem : marked stem = stem := by simpa using heq
      exact String.lt_irrefl stem (by simpa [hstem] using lt_marked stem)
    rw [if_neg hapart, if_pos hl, if_pos hl]
  · rw [if_neg hl, if_neg hl]
    by_cases hsame : l = fs.reading root ++ v.relative
    · rw [if_pos hsame, hsame, if_pos (List.prefix_refl _)]
    · rw [if_neg hsame]
      split
      · next hpre =>
        refine (hfs.get?_below ?_ hpre (Ne.symm hsame)).symm
        simp [FileSystem.isDirectoryAt_iff, hfile]
      · rfl

theorem Processed.wellFormed (h : Processed fs root env v fs' before stem source text)
    (hfs : fs.WellFormed)
    (hfile : fs.get? (fs.reading root ++ v.relative) = some (.file source.toUTF8)) :
    fs'.WellFormed := by
  have hnotdir : ¬ fs.isDirectoryAt (fs.reading root ++ v.relative) := by
    simp [FileSystem.isDirectoryAt_iff, hfile]
  rw [h.final]
  refine (hfs.setFile h.slot h.free).eraseTree (by simp [h.relative]) fun hpre => ?_
  -- The current directory is neither the template nor below it.
  have hpre : fs.reading root ++ v.relative <+: fs.current := hpre
  have hcurrent := FileSystem.isDirectoryAt_iff.1 hfs.current_directory
  by_cases hsame : fs.reading root ++ v.relative = fs.current
  · rw [hsame] at hnotdir
    exact hnotdir hfs.current_directory
  · rw [hfs.get?_below hnotdir hpre hsame] at hcurrent
    cases hcurrent

/-! ### One template after others -/

/-- The place of an outcome, told by the stem. -/
theorem Progress.reading_strip (h : Progress fs₀ root env done fs) (hroot : root.text ≠ "")
    (hw : w ∈ done) (hnames : ∀ name ∈ w.relative, IsName name) :
    ∃ before stem, w.relative = before ++ [marked stem] ∧ ∀ fs : FileSystem,
      fs.reading (strip (w.path root)) = fs.reading root ++ (before ++ [stem]) := by
  obtain ⟨before, stem, hstem, hrelative⟩ := h.named w hw
  exact ⟨before, stem, hrelative, reading_strip_of_isName hroot hnames hrelative hstem⟩

/-- A template that comes in turn after those that are done is still as it was found. -/
theorem Progress.get?_template (h : Progress fs₀ root env done fs) (hroot : root.text ≠ "")
    (hnames : ∀ w ∈ done, ∀ name ∈ w.relative, IsName name) (hturn : ∀ w ∈ done, InTurn w v) :
    fs.get? (fs₀.reading root ++ v.relative) = fs₀.get? (fs₀.reading root ++ v.relative) := by
  refine h.rendered.kept _ fun w hw => ⟨?_, ?_⟩
  · rw [FileSystem.reading_path hroot (hnames w hw)]
    intro heq
    exact (hturn w hw).1 (List.append_cancel_left heq).symm
  · obtain ⟨before, stem, hrelative, hplace⟩ := h.reading_strip hroot hw (hnames w hw)
    rw [hplace]
    intro heq
    exact (hturn w hw).2 before stem hrelative (List.append_cancel_left heq)

/-- One more template is rendered, whose outcome comes to no other outcome's place and whose place
no outcome has. -/
theorem RenderedOnce.concat
    (h : RenderedOnce fs₀ root env done (done.map fun v => strip (v.path root)) fs)
    (hrenders : RendersTo env v text)
    (hfinal : ∀ l, fs'.get? l =
      if l = fs₀.reading (strip (v.path root)) then some (.file text.toUTF8)
      else if l = fs₀.reading (v.path root) then none else fs.get? l)
    (hapart : ∀ w ∈ done, fs₀.reading (strip (w.path root)) ≠ fs₀.reading (strip (v.path root)) ∧
      fs₀.reading (strip (w.path root)) ≠ fs₀.reading (v.path root))
    (hpath : ∀ w ∈ done ++ [v], fs₀.reading (w.path root) = fs₀.reading (strip (v.path root)) →
      w.path root = strip (v.path root)) :
    RenderedOnce fs₀ root env (done ++ [v])
      ((done ++ [v]).map fun v => strip (v.path root)) fs' where
  in_order := rfl
  distinct := by
    rw [List.map_append, List.map_singleton, List.nodup_append]
    refine ⟨h.distinct, List.nodup_singleton _, fun p hp q hq heq => ?_⟩
    obtain ⟨w, hw, rfl⟩ := List.mem_map.1 hp
    rw [List.mem_singleton.1 hq] at heq
    exact (hapart w hw).1 (congrArg fs₀.reading heq)
  outcomes := by
    intro w hw
    rcases List.mem_append.1 hw with hw | hw
    · obtain ⟨old, hold, hget⟩ := h.outcomes w hw
      refine ⟨old, hold, ?_⟩
      rw [hfinal, if_neg (hapart w hw).1, if_neg (hapart w hw).2]
      exact hget
    · obtain rfl := List.mem_singleton.1 hw
      exact ⟨text, hrenders, by rw [hfinal, if_pos rfl]⟩
  gone := by
    intro w hw hnot
    rw [List.map_append, List.mem_append, not_or, List.map_singleton, List.mem_singleton] at hnot
    rw [hfinal, if_neg fun heq => hnot.2 (hpath w hw heq)]
    rcases List.mem_append.1 hw with hw | hw
    · split
      · rfl
      · exact h.gone w hw hnot.1
    · obtain rfl := List.mem_singleton.1 hw
      rw [if_pos rfl]
  kept := by
    intro l hl
    obtain ⟨hplace, houtcome⟩ := hl v (List.mem_append_right _ (List.mem_singleton_self v))
    rw [hfinal, if_neg houtcome, if_neg hplace]
    exact h.kept l fun w hw => hl w (List.mem_append_left _ hw)

/-- The next template is processed: what the others came to is not touched. -/
theorem Progress.step (h : Progress fs₀ root env done fs) (hroot : root.text ≠ "")
    (hnames : ∀ w ∈ done ++ [v], ∀ name ∈ w.relative, IsName name)
    (hfound : fs₀.get? (fs₀.reading root ++ v.relative) = some v.entry)
    (hturn : ∀ w ∈ done, InTurn w v) (halone : standsAlone v = true)
    (hone : Processed fs root env v fs' before stem source text) :
    Progress fs₀ root env (done ++ [v]) fs' := by
  have hvnames : ∀ name ∈ v.relative, IsName name := hnames v (by simp)
  have hwnames : ∀ w ∈ done, ∀ name ∈ w.relative, IsName name :=
    fun w hw => hnames w (List.mem_append_left _ hw)
  have hreading : ∀ p, fs.reading p = fs₀.reading p := FileSystem.reading_congr h.current
  have hfile := hone.get?_template hroot hvnames
  -- What is read is what was found: no outcome has come to this place.
  have hentry : v.entry = .file source.toUTF8 := by
    rw [hreading, h.get?_template hroot hwnames hturn, hfound] at hfile
    exact Option.some.inj hfile
  have hrenders : RendersTo env v text := by
    refine ⟨source, hentry, fun load => ?_⟩
    -- The template was rendered among the outcomes of others, but uses none of them.
    have halike := Template.renderNamed_congr
      (fun parsed => isSelfContained_of_standsAlone halone hentry) load (loadBelow fs root) env
    rw [halike]
    exact hone.rendered
  have hfinal := hone.get?_final h.wellFormed hfile
  rw [hreading] at hfinal
  have hplace : fs₀.reading (v.path root) = fs₀.reading root ++ v.relative :=
    FileSystem.reading_path hroot hvnames
  have houtcome := reading_strip_of_isName hroot hvnames hone.relative hone.named fs₀
  rw [← hplace, ← houtcome] at hfinal
  refine {
    rendered := h.rendered.concat hrenders hfinal (fun w hw => ?_) fun w hw heq => ?_
    named := fun w hw => ?_
    wellFormed := hone.wellFormed h.wellFormed hfile
    current := by rw [hone.final]; exact h.current }
  · obtain ⟨above, stem', hrelative, hstrip⟩ := h.reading_strip hroot hw (hwnames w hw)
    obtain ⟨hne, hapart⟩ := hturn w hw
    rw [hstrip, houtcome, hplace]
    constructor
    · intro heq
      obtain ⟨rfl, hstem⟩ := List.append_inj' (List.append_cancel_left heq) rfl
      rw [List.singleton_inj] at hstem
      exact hne (by rw [hrelative, hone.relative, hstem])
    · intro heq
      exact hapart above stem' hrelative (List.append_cancel_left heq).symm
  · rw [FileSystem.reading_path hroot (hnames w hw), houtcome] at heq
    exact (strip_eq_path hroot hvnames hone.relative (List.append_cancel_left heq)).symm
  · rcases List.mem_append.1 hw with hw | hw
    · exact h.named w hw
    · obtain rfl := List.mem_singleton.1 hw
      exact ⟨before, stem, hone.named, hone.relative⟩

end

/-! ### All templates -/

theorem processEach_rendersOnce (hroot : root.text ≠ "") {todo : List Visited} {paths : List Path}
    (h : Progress fs₀ root env done fs)
    (hfound : ∀ v ∈ done ++ todo, (∀ name ∈ v.relative, IsName name) ∧ isTemplateEntry v = true ∧
      fs₀.get? (fs₀.reading root ++ v.relative) = some v.entry ∧ standsAlone v = true)
    (hturn : (done ++ todo).Pairwise InTurn)
    (hrun : processEach root env todo fs = (.ok paths, fs')) :
    paths = todo.map (fun v => strip (v.path root)) ∧ Progress fs₀ root env (done ++ todo) fs' := by
  induction todo generalizing done fs paths with
  | nil =>
    obtain ⟨hpaths, rfl⟩ := Prod.mk.inj hrun
    obtain rfl := Except.ok.inj hpaths
    rw [List.append_nil]
    exact ⟨rfl, h⟩
  | cons v rest ih =>
    unfold processEach at hrun
    split at hrun
    · cases hrun
    · next fs'' hone =>
      obtain ⟨hnames, htemplate, hget, halone⟩ := hfound v (by simp)
      obtain ⟨before, stem, source, text, hprocessed⟩ :=
        processOne_eq_ok h.wellFormed.sound hroot hnames htemplate hone
      -- All that is done comes in turn before the template at hand.
      have hbefore : ∀ w ∈ done, InTurn w v := fun w hw =>
        (List.pairwise_append.1 hturn).2.2 w hw v List.mem_cons_self
      have hstep : Progress fs₀ root env (done ++ [v]) fs'' := by
        refine h.step hroot (fun w hw => ?_) hget hbefore halone hprocessed
        exact (hfound w (by rw [List.append_cons]; exact List.mem_append_left rest hw)).1
      split at hrun
      · cases hrun
      · next paths' final hrest =>
        obtain ⟨hpaths, rfl⟩ := Prod.mk.inj hrun
        obtain rfl := Except.ok.inj hpaths
        rw [List.append_cons] at hfound hturn
        obtain ⟨rfl, hall⟩ := ih hstep hfound hturn hrest
        rw [List.append_cons]
        exact ⟨rfl, hall⟩

/-- The templates of a tree are the marked files below the root, in turn. -/
theorem templates_eq_ok (hfs : fs.WellFormed) {found : List Visited}
    (h : templates fs root = .ok found) :
    fs.locate root = .ok (fs.reading root) ∧
      (∀ v, v ∈ found ↔ v ∈ fs.below (fs.reading root) ∧ isTemplateEntry v = true) ∧
      found.Pairwise InTurn := by
  unfold templates collect entries FileSystem.walkRoot at h
  cases hlocate : fs.locate root with
  | error fault =>
    rw [hlocate] at h
    cases h
  | ok l =>
    obtain rfl := FileSystem.locate_eq_reading hlocate
    rw [hlocate] at h
    obtain rfl := Except.ok.inj h
    have hisFile : ∀ v, isTemplateEntry v = true → v.entry.isFile = true := by
      intro v hv
      exact ((Bool.and_eq_true _ _).mp hv).1
    refine ⟨rfl, fun v => ?_, pairwise_inTurn hfs (fs.reading root) hisFile⟩
    rw [List.mem_filter, FileSystem.mem_collectContentsFirst]

/-- Whatever the tree and the variables: if no template uses another one and the templates can be
processed, then every template is rendered exactly once, from the text it began with. -/
theorem processTemplates_rendersOnce {paths : List Path} (hfs : fs.WellFormed)
    (halone : ∀ v ∈ fs.below (fs.reading root), isTemplateEntry v = true → standsAlone v = true)
    (hrun : processTemplates fs root env = (.ok paths, fs')) :
    ∃ found, templates fs root = .ok found ∧
      (∀ v, v ∈ found ↔ v ∈ fs.below (fs.reading root) ∧ isTemplateEntry v = true) ∧
      RenderedOnce fs root env found paths fs' := by
  unfold processTemplates at hrun
  split at hrun
  · cases hrun
  · next found hfound =>
    obtain ⟨hlocate, hmem, hturn⟩ := templates_eq_ok hfs hfound
    have hall : ∀ v ∈ found, (∀ name ∈ v.relative, IsName name) ∧ isTemplateEntry v = true ∧
        fs.get? (fs.reading root ++ v.relative) = some v.entry ∧ standsAlone v = true := by
      intro v hv
      obtain ⟨hbelow, htemplate⟩ := (hmem v).1 hv
      exact ⟨fun name => hfs.isName_relative hbelow, htemplate,
        hfs.get?_of_mem (FileSystem.mem_below.1 hbelow).1, halone v hbelow htemplate⟩
    obtain ⟨rfl, hprogress⟩ := processEach_rendersOnce
      (FileSystem.locate_text_ne_empty hlocate) (.start hfs) hall hturn hrun
    exact ⟨found, hfound, hmem, hprogress.rendered⟩

/-! ### A file that is marked twice -/

/-- A directory with a file that is marked once, a file that is marked twice, and a file where an
outcome goes. -/
def twiceMarked : FileSystem where
  entries := [
    (["t"], .directory),
    (["t", "a.ftl"], .file "one".toUTF8),
    (["t", "a.ftl.ftl"], .file "two".toUTF8),
    (["t", "b"], .file "old".toUTF8),
    (["t", "b.ftl"], .file "three".toUTF8)]

/-- The directory when the templates have been processed. -/
def onceMarked : FileSystem where
  entries := [
    (["t"], .directory),
    (["t", "b"], .file "three".toUTF8),
    (["t", "a"], .file "one".toUTF8),
    (["t", "a.ftl"], .file "two".toUTF8)]

theorem templates_twiceMarked : templates twiceMarked ⟨"t"⟩ =
    .ok [⟨["a.ftl"], .file "one".toUTF8⟩, ⟨["a.ftl.ftl"], .file "two".toUTF8⟩,
      ⟨["b.ftl"], .file "three".toUTF8⟩] := by
  have hroot : twiceMarked.walkRoot ⟨"t"⟩ = .ok ["t"] := by decide +kernel
  have hfound : twiceMarked.collectContentsFirst ["t"] = twiceMarked.below ["t"] :=
    List.mergeSort_of_pairwise (by decide +kernel)
  have hmarked : (twiceMarked.below ["t"]).filter isTemplateEntry =
      [⟨["a.ftl"], .file "one".toUTF8⟩, ⟨["a.ftl.ftl"], .file "two".toUTF8⟩,
        ⟨["b.ftl"], .file "three".toUTF8⟩] := by decide +kernel
  unfold templates collect entries
  simp only [hroot, hfound, Except.map, hmarked]

theorem processTemplates_twiceMarked : processTemplates twiceMarked ⟨"t"⟩ {} =
    (.ok [⟨"t/a"⟩, ⟨"t/a.ftl"⟩, ⟨"t/b"⟩], onceMarked) := by
  unfold processTemplates
  rw [templates_twiceMarked]
  dsimp only
  decide +kernel

/-- The file that is marked twice has lost one marker, and the file that was there is replaced. -/
theorem twiceMarked_rendersOnce :
    twiceMarked.WellFormed ∧
    (∀ v ∈ twiceMarked.below (twiceMarked.reading ⟨"t"⟩), isTemplateEntry v = true →
      standsAlone v = true) ∧
    processTemplates twiceMarked ⟨"t"⟩ {} =
      (.ok [⟨"t/a"⟩, ⟨"t/a.ftl"⟩, ⟨"t/b"⟩], onceMarked) ∧
    ∃ found, templates twiceMarked ⟨"t"⟩ = .ok found ∧
      (∀ v, v ∈ found ↔
        v ∈ twiceMarked.below (twiceMarked.reading ⟨"t"⟩) ∧ isTemplateEntry v = true) ∧
      RenderedOnce twiceMarked ⟨"t"⟩ {} found [⟨"t/a"⟩, ⟨"t/a.ftl"⟩, ⟨"t/b"⟩] onceMarked := by
  have hfs : twiceMarked.WellFormed := by decide +kernel
  have halone : ∀ v ∈ twiceMarked.below (twiceMarked.reading ⟨"t"⟩), isTemplateEntry v = true →
      standsAlone v = true := by decide +kernel
  exact ⟨hfs, halone, processTemplates_twiceMarked,
    processTemplates_rendersOnce hfs halone processTemplates_twiceMarked⟩

end Scaffold.Staging
