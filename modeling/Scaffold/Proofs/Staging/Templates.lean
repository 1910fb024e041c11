import Scaffold.Proofs.FileSystem.Effects
import Scaffold.Proofs.FileSystem.Visiting
import Scaffold.Staging.Process

/-! # Templates and their outcomes

  A template is a file whose name is a stem and the marker. Stripping its path
  leaves the path of the stem in the same directory, and there the rendered text
  goes.

  - `isTemplateEntry_iff`: the names of templates.
  - `reading_strip`: where the stripped path of a template leads.
  - `processOne_eq_ok`: what processing one template comes to.
-/

namespace Scaffold

open Scaffold.Path (IsPlain)

namespace Path

/-! ### Extensions -/

/-- A name with an extension is a stem, a dot, and the extension. -/
theorem exists_stem {name extension : String} (h : extensionOf name = some extension) :
    ∃ stem : String, stem ≠ "" ∧ name.toList = stem.toList ++ '.' :: extension.toList := by
  unfold extensionOf at h
  split at h
  · next last before rest hrev =>
    split at h
    · cases h
    · next hlone =>
      obtain rfl := Option.some.inj h
      have hsegments : Text.segments '.' name.toList = (before :: rest).reverse ++ [last] := by
        rw [← List.reverse_reverse (Text.segments '.' name.toList), hrev]
        simp
      have hfront : (before :: rest).reverse ≠ [] := by simp
      refine ⟨String.ofList (Text.joinWith '.' (before :: rest).reverse), ?_, ?_⟩
      · -- An empty stem is one empty segment.
        intro hempty
        have hnil : Text.joinWith '.' (before :: rest).reverse = [] := by
          rw [← String.toList_inj, String.toList_ofList] at hempty
          exact hempty
        have hparts := Text.segments_joinWith hfront fun part hpart =>
          Text.sep_notMem_of_mem_segments (hsegments ▸ List.mem_append_left [last] hpart)
        rw [hnil] at hparts
        have hback : before :: rest = [[]] := by
          rw [← List.reverse_reverse (before :: rest), ← hparts]
          rfl
        exact hlone ⟨(List.cons.inj hback).2, (List.cons.inj hback).1⟩
      · rw [String.toList_ofList, String.toList_ofList, ← Text.joinWith_segments '.' name.toList,
          hsegments, Text.joinWith_append '.' hfront (by simp)]
        rfl
  · cases h

/-- A stem, a dot, and an extension make a name with the extension. -/
theorem extensionOf_of_stem {name stem extension : String} (hdot : '.' ∉ extension.toList)
    (hstem : stem ≠ "") (hname : name.toList = stem.toList ++ '.' :: extension.toList) :
    extensionOf name = some extension := by
  have hrev : (Text.segments '.' name.toList).reverse =
      extension.toList :: (Text.segments '.' stem.toList).reverse := by
    rw [hname, Text.segments_append_sep, Text.segments_of_sep_notMem hdot, List.reverse_append]
    rfl
  unfold extensionOf
  rw [hrev]
  cases hs : (Text.segments '.' stem.toList).reverse with
  | nil => exact absurd (List.reverse_eq_nil_iff.1 hs) (Text.segments_ne_nil '.' _)
  | cons before rest =>
    have hlone : ¬ (rest = [] ∧ before = []) := by
      rintro ⟨rfl, rfl⟩
      have hjoin := Text.joinWith_segments '.' stem.toList
      rw [← List.reverse_reverse (Text.segments '.' stem.toList), hs] at hjoin
      exact hstem (String.toList_inj.1 hjoin.symm)
    simp only [if_neg hlone, String.ofList_toList]

end Path

namespace Staging

open FileSystem (Visited readNames readNames_plain)

variable {fs fs' : FileSystem} {v : Visited} {root base : Path} {stem : String}

/-! ### Marked names -/

/-- A stem with the template marker. -/
def marked (stem : String) : String := stem ++ "." ++ templateExtension

theorem marked_toList (stem : String) :
    (marked stem).toList = stem.toList ++ '.' :: templateExtension.toList := by
  unfold marked
  rw [String.toList_append, String.toList_append, List.append_assoc]
  rfl

/-- The stem of a name is a name too, unless it leads nowhere or up. -/
theorem isName_stem (h : IsName (marked stem)) (hplain : IsPlain stem) : IsName stem where
  nonempty := fun e => hplain.1 (.inl e)
  not_current := fun e => hplain.1 (.inr e)
  not_parent := hplain.2
  no_slash := fun hc => h.no_slash (by rw [marked_toList]; exact List.mem_append_left _ hc)
  no_zero := fun hc => h.no_zero (by rw [marked_toList]; exact List.mem_append_left _ hc)
  short := by
    have hshort := h.short
    unfold marked at hshort
    rw [String.utf8ByteSize_append, String.utf8ByteSize_append] at hshort
    omega

/-- The visited templates are the files with a marked name. -/
theorem isTemplateEntry_iff (h : ∀ name ∈ v.relative, IsName name) :
    isTemplateEntry v = true ↔
      v.entry.isFile ∧ ∃ before stem, stem ≠ "" ∧ v.relative = before ++ [marked stem] := by
  have hname : (v.path ⟨""⟩).fileName? = v.relative.getLast? := by
    rw [Path.fileName?_eq, Visited.path, Path.steps_foldl_join_empty h]
    cases hlast : v.relative.getLast? with
    | none => rfl
    | some name =>
      have hmem : name ∈ v.relative := List.mem_of_getLast? hlast
      simp [(h name hmem).not_parent]
  unfold isTemplateEntry isTemplate Path.extension?
  rw [Bool.and_eq_true, hname, beq_iff_eq, Option.bind_eq_some_iff]
  refine and_congr_right fun _ => ⟨?_, ?_⟩
  · rintro ⟨name, hlast, hext⟩
    obtain ⟨stem, hstem, hlist⟩ := Path.exists_stem hext
    obtain ⟨before, hbefore⟩ := List.getLast?_eq_some_iff.1 hlast
    refine ⟨before, stem, hstem, ?_⟩
    rw [hbefore, ← String.toList_inj.1 (hlist.trans (marked_toList stem).symm)]
  · rintro ⟨before, stem, hstem, hrelative⟩
    refine ⟨marked stem, by rw [hrelative, List.getLast?_concat], ?_⟩
    exact Path.extensionOf_of_stem (by decide) hstem (marked_toList stem)

/-! ### Stripped paths -/

theorem isAbsolute_of_slash_notMem {name : String} (h : '/' ∉ name.toList) :
    Path.isAbsolute ⟨name⟩ = false := by
  cases hname : name.toList with
  | nil => simp [Path.isAbsolute, hname]
  | cons c rest =>
    have hc : c ≠ '/' := fun e => h (by simp [hname, e])
    simp [Path.isAbsolute, hname, hc]

/-- Stripping a joined path strips the name that was joined. -/
theorem strip_join (hname : IsName (marked stem)) :
    strip (base.join (marked stem)) = base.join stem := by
  have hstem : '/' ∉ stem.toList := fun hc =>
    hname.no_slash (by rw [marked_toList]; exact List.mem_append_left _ hc)
  have hmarked := Path.join_text base (isAbsolute_of_slash_notMem hname.no_slash)
  have hplain := Path.join_text base (isAbsolute_of_slash_notMem hstem)
  have hlist : (base.join (marked stem)).text.toList =
      (base.join stem).text.toList ++ '.' :: templateExtension.toList := by
    simp only [hmarked, hplain, String.toList_append, marked_toList, List.append_assoc]
  have hlength : (base.join (marked stem)).text.length - (templateExtension.length + 1) =
      (base.join stem).text.toList.length := by
    rw [← String.length_toList, hlist, ← String.length_toList, List.length_append, List.length_cons]
    omega
  unfold strip
  rw [hlength, hlist, List.take_left, String.ofList_toList]

/-- The stripped path of a template leads where its stem leads from the same directory. -/
theorem reading_strip (fs : FileSystem) {before : Location} (hroot : root.text ≠ "")
    (h : ∀ name ∈ v.relative, IsName name) (hv : v.relative = before ++ [marked stem]) :
    strip (v.path root) = (before.foldl Path.join root).join stem ∧
      fs.reading (strip (v.path root)) =
        readNames (fs.reading root ++ before) (Path.steps ⟨stem⟩) := by
  have hmarked : IsName (marked stem) := h _ (by simp [hv])
  have hbefore : ∀ name ∈ before, IsName name := fun name hname => h name (by simp [hv, hname])
  have hstem : '/' ∉ stem.toList := fun hc =>
    hmarked.no_slash (by rw [marked_toList]; exact List.mem_append_left _ hc)
  obtain ⟨hsteps, habs, hne⟩ := Path.steps_foldl_join hroot hbefore
  have hstrip : strip (v.path root) = (before.foldl Path.join root).join stem := by
    rw [Visited.path, hv, List.foldl_append]
    exact strip_join hmarked
  refine ⟨hstrip, ?_⟩
  rw [hstrip, FileSystem.reading_join hne (isAbsolute_of_slash_notMem hstem),
    FileSystem.reading_of_steps habs hsteps fun name hname => (hbefore name hname).isPlain]

/-- If no directory is at the stripped path of a template, its stem is a name, and the path leads
next to the template. -/
theorem isName_of_free {before : Location} (hfs : fs.Sound) (hroot : root.text ≠ "")
    (h : ∀ name ∈ v.relative, IsName name) (hv : v.relative = before ++ [marked stem])
    (hstem : stem ≠ "") (hdir : fs.isDirectoryAt (fs.reading root ++ before))
    (hfree : ¬ fs.isDirectoryAt (fs.reading (strip (v.path root)))) :
    IsName stem ∧ fs.reading (strip (v.path root)) = fs.reading root ++ (before ++ [stem]) := by
  obtain ⟨-, hreading⟩ := reading_strip fs hroot h hv
  have hmarked : IsName (marked stem) := h _ (by simp [hv])
  rw [hreading] at hfree
  -- A stem that leads nowhere or up would name a directory.
  have hplain : IsPlain stem := by
    refine ⟨fun hidle => hfree ?_, fun hup => hfree ?_⟩
    · rw [hidle.resolve_left hstem]
      exact hdir
    · rw [hup]
      refine hfs.isDirectoryAt_dropLast ?_
      rw [FileSystem.isDirectoryAt_iff.1 hdir]
      rfl
  have hname := isName_stem hmarked hplain
  refine ⟨hname, ?_⟩
  rw [hreading, (Path.steps_of_name hname).1, readNames_plain (by simpa using hplain),
    List.append_assoc]

/-! ### Processing one template -/

theorem renderFile_eq_ok {relative text : String} {env : Environment}
    (h : renderFile fs root relative env = .ok text) :
    ∃ source, fs.readText (root.join relative) = .ok source ∧
      Template.renderNamed (loadBelow fs root) env relative source = .ok text := by
  unfold renderFile at h
  split at h
  · cases h
  · next source hread =>
    split at h
    · next result hrender =>
      obtain rfl := Except.ok.inj h
      exact ⟨source, hread, hrender⟩
    · cases h

/-- What processing a template comes to: the rendered text at the stem, and the template gone. -/
structure Processed (fs : FileSystem) (root : Path) (env : Environment) (v : Visited)
    (fs' : FileSystem) (before : Location) (stem source text : String) : Prop where
  /-- The template is called after its stem. -/
  relative : v.relative = before ++ [marked stem]
  /-- The stem is a name. -/
  named : IsName stem
  /-- The template was read where it was found. -/
  read : fs.readText (root.join v.name) = .ok source
  /-- Its text was rendered. -/
  rendered : Template.renderNamed (loadBelow fs root) env v.name source = .ok text
  /-- The outcome has a place. -/
  slot : fs.IsSlot (fs.reading root ++ (before ++ [stem]))
  /-- No directory is there. -/
  free : ¬ fs.isDirectoryAt (fs.reading root ++ (before ++ [stem]))
  /-- The outcome is written and the template is removed. -/
  final : fs' = (fs.setFile (fs.reading root ++ (before ++ [stem])) text.toUTF8).eraseTree
    (fs.reading root ++ v.relative)

/-- Processing a template writes nothing and fails, or it writes the outcome, and then removes the
template or fails there. -/
theorem processOne_cases (fs : FileSystem) (root : Path) (env : Environment) (v : Visited) :
    (∃ e, processOne fs root env v = (.error e, fs)) ∨
    ∃ text written, renderFile fs root v.name env = .ok text ∧
      fs.writeBytes (strip (v.path root)) text.toUTF8 = .ok written ∧
      ((∃ fault, written.removeFile (v.path root) = .error fault ∧
          processOne fs root env v = (.error (.io fault), written)) ∨
        ∃ final, written.removeFile (v.path root) = .ok final ∧
          processOne fs root env v = (.ok (), final)) := by
  unfold processOne
  cases renderFile fs root v.name env with
  | error e => exact .inl ⟨e, rfl⟩
  | ok text =>
    dsimp only
    cases hwrite : fs.writeBytes (strip (v.path root)) text.toUTF8 with
    | error fault => exact .inl ⟨.io fault, rfl⟩
    | ok written =>
      refine .inr ⟨text, written, rfl, hwrite, ?_⟩
      dsimp only
      cases written.removeFile (v.path root) with
      | error fault => exact .inl ⟨fault, rfl, rfl⟩
      | ok final => exact .inr ⟨final, rfl, rfl⟩

/-- A rendered text can only be written next to its template. -/
theorem writeBytes_outcome {env : Environment} {text : String} (hfs : fs.Sound)
    (hroot : root.text ≠ "") (hnames : ∀ name ∈ v.relative, IsName name)
    (hv : isTemplateEntry v = true) (hrender : renderFile fs root v.name env = .ok text)
    (hwrite : fs.writeBytes (strip (v.path root)) text.toUTF8 = .ok fs') :
    ∃ before stem source, v.relative = before ++ [marked stem] ∧ IsName stem ∧
      fs.readText (root.join v.name) = .ok source ∧
      Template.renderNamed (loadBelow fs root) env v.name source = .ok text ∧
      fs.IsSlot (fs.reading root ++ (before ++ [stem])) ∧
      ¬ fs.isDirectoryAt (fs.reading root ++ (before ++ [stem])) ∧
      fs' = fs.setFile (fs.reading root ++ (before ++ [stem])) text.toUTF8 := by
  obtain ⟨-, before, stem, hstem, hrelative⟩ := (isTemplateEntry_iff hnames).1 hv
  obtain ⟨source, hread, hrendered⟩ := renderFile_eq_ok hrender
  obtain ⟨-, hget⟩ := FileSystem.readBytes_eq_ok (FileSystem.readText_eq_ok hread)
  rw [FileSystem.reading_join_name hroot hnames] at hget
  -- The template was read, so what holds it is a directory.
  have hdir : fs.isDirectoryAt (fs.reading root ++ before) := by
    have habove := hfs.isDirectoryAt_dropLast (Option.isSome_iff_exists.2 ⟨_, hget⟩)
    rwa [hrelative, ← List.append_assoc, List.dropLast_concat] at habove
  obtain ⟨hslot, hfree, rfl⟩ := FileSystem.writeBytes_eq_ok hwrite
  obtain ⟨hname, hreading⟩ := isName_of_free hfs hroot hnames hrelative hstem hdir hfree
  rw [hreading] at hslot hfree ⊢
  exact ⟨before, stem, source, hrelative, hname, hread, hrendered, hslot, hfree, rfl⟩

theorem processOne_eq_ok {env : Environment} (hfs : fs.Sound) (hroot : root.text ≠ "")
    (hnames : ∀ name ∈ v.relative, IsName name) (hv : isTemplateEntry v = true)
    (h : processOne fs root env v = (.ok (), fs')) :
    ∃ before stem source text, Processed fs root env v fs' before stem source text := by
  rcases processOne_cases fs root env v with
    ⟨e, herror⟩ | ⟨text, written, hrender, hwrite, ⟨fault, -, herror⟩ | ⟨final, hremove, hok⟩⟩
  · rw [herror] at h
    cases h
  · rw [herror] at h
    cases h
  · rw [hok] at h
    obtain rfl : final = fs' := (Prod.mk.inj h).2
    obtain ⟨before, stem, source, hrelative, hname, hread, hrendered, hslot, hfree, rfl⟩ :=
      writeBytes_outcome hfs hroot hnames hv hrender hwrite
    obtain ⟨-, -, rfl⟩ := FileSystem.removeFile_eq_ok hremove
    refine ⟨before, stem, source, text, hrelative, hname, hread, hrendered, hslot, hfree, ?_⟩
    rw [FileSystem.reading_congr rfl, FileSystem.reading_path hroot hnames]
    rfl

end Staging

end Scaffold
