import Scaffold.Proofs.FileSystem.Effects
import Scaffold.Proofs.FileSystem.Sharing
import Scaffold.Renderer

/-! # What the rendering of a file can see

  A template loads other templates by names that come out of the template, and
  the loader refuses those that are absolute or hold `..`. So a rendering sees
  the files at and below the root, by any other name, and nothing else.

  - `staysBelow_iff`: the names that the loader does not refuse.
  - `loadBelow_eq_found`: what a name has to be for a template to be found.
  - `rendering_sees_only_root`: renderings on two file systems.
-/

namespace Scaffold

open Scaffold.FileSystem (SharesBelow readText_join_congr)
open Scaffold.Path (IsIdle IsPlain)

variable {fs fs' : FileSystem} {root : Path} {name text : String}

/-! ### Names of templates -/

/-- A name that the loader does not refuse is relative and leads nowhere up, not even on its way. -/
theorem staysBelow_iff : (Path.mk name).components.all staysBelow = true ↔
    Path.isAbsolute ⟨name⟩ = false ∧ ".." ∉ Path.names ⟨name⟩ := by
  have hhead : (Path.mk name).parts.head.all staysBelow = true ↔
      Path.isAbsolute ⟨name⟩ = false := by
    rw [Path.head_eq]
    cases Path.isAbsolute ⟨name⟩ with
    | true => simp [staysBelow]
    | false =>
      rw [if_neg (by decide)]
      split <;> simp [staysBelow]
  have hsteps : ((Path.steps ⟨name⟩).map Path.stepComponent).all staysBelow = true ↔
      ".." ∉ Path.names ⟨name⟩ := by
    rw [List.all_map, List.all_eq_true]
    refine ⟨fun h hup => ?_, fun h step hstep => ?_⟩
    · have hmem : ".." ∈ Path.steps ⟨name⟩ := List.mem_filter.2 ⟨hup, by decide⟩
      exact absurd (h ".." hmem) (by decide)
    · have hne : step ≠ ".." := fun e => h (e ▸ (List.mem_filter.1 hstep).1)
      simp [Path.stepComponent, hne, staysBelow]
  rw [Path.components_eq, List.all_append, Bool.and_eq_true, hhead, hsteps]

/-- A name that is absolute or holds `..` yields no template, wherever it leads. -/
theorem loadBelow_outside (fs : FileSystem) (root : Path)
    (h : Path.isAbsolute ⟨name⟩ = true ∨ ".." ∈ Path.names ⟨name⟩) :
    loadBelow fs root name = .missing := by
  refine if_neg fun hbelow => ?_
  obtain ⟨hrel, hup⟩ := staysBelow_iff.1 hbelow
  rcases h with habs | hmem
  · rw [hrel] at habs
    cases habs
  · exact hup hmem

/-- Where the tree at the root is shared, the same templates are loaded. -/
theorem loadBelow_congr (h : SharesBelow root fs fs') (name : String) :
    loadBelow fs root name = loadBelow fs' root name := by
  unfold loadBelow
  by_cases hbelow : (Path.mk name).components.all staysBelow = true
  · obtain ⟨hrel, hup⟩ := staysBelow_iff.1 hbelow
    rw [if_pos hbelow, if_pos hbelow, readText_join_congr h hrel hup]
  · rw [if_neg hbelow, if_neg hbelow]

/-! ### Templates that are found -/

/-- The text of a file is read by a path that leads there. -/
theorem loadBelow_found_iff_readText : loadBelow fs root name = .found text ↔
    (Path.isAbsolute ⟨name⟩ = false ∧ ".." ∉ Path.names ⟨name⟩) ∧
      fs.readText (root.join name) = .ok text := by
  unfold loadBelow
  by_cases hbelow : (Path.mk name).components.all staysBelow = true
  · rw [if_pos hbelow]
    simp only [staysBelow_iff.1 hbelow, not_false_eq_true, and_self, true_and]
    split
    · next result hresult => simp [hresult]
    · next hresult => simp [hresult]
    · next hresult => simp [hresult]
  · rw [if_neg hbelow]
    exact ⟨nofun, fun h => absurd (staysBelow_iff.2 h.1) hbelow⟩

/-- A name that leads to a file ends with the name of the file. -/
theorem last_of_follow {l m : Location} {names : List String} (hne : names ≠ [])
    (h : fs.follow l names = .ok m) (hfile : fs.isDirectoryAt m = false) :
    ∃ front last, names = front ++ [last] ∧ ¬ IsIdle last := by
  refine ⟨names.dropLast, names.getLast hne, (List.dropLast_concat_getLast hne).symm,
    fun hidle => ?_⟩
  rw [← List.dropLast_concat_getLast hne, FileSystem.follow_append] at h
  cases hfront : fs.follow l names.dropLast with
  | error fault => rw [hfront] at h; cases h
  | ok k =>
    rw [hfront] at h
    -- What leads nowhere would ask for a directory.
    obtain ⟨k', hdir, hstep, hlast⟩ := FileSystem.follow_cons_ok h
    obtain rfl := Except.ok.inj hlast
    rw [(FileSystem.step_eq_ok.1 hstep).1, FileSystem.turn, if_pos hidle, hdir] at hfile
    cases hfile

/-- The steps of a name that leads nowhere up are plain. -/
theorem isPlain_of_mem_steps (hup : ".." ∉ Path.names ⟨name⟩) :
    ∀ step ∈ Path.steps ⟨name⟩, IsPlain step := fun _ hstep =>
  ⟨FileSystem.not_isIdle_of_mem_steps hstep, fun e => hup (e ▸ (List.mem_filter.1 hstep).1)⟩

/-- A name finds a template exactly if it is relative, holds no `..`, ends with a name, and leads
down to a file with this text. It can pass `.`, empty names and hidden directories on its way. -/
theorem loadBelow_eq_found (hfs : fs.WellFormed) (hroot : fs.isDirectory root = true) :
    loadBelow fs root name = .found text ↔
      (Path.isAbsolute ⟨name⟩ = false ∧ ".." ∉ Path.names ⟨name⟩) ∧
      (∃ front last, Path.names ⟨name⟩ = front ++ [last] ∧ ¬ IsIdle last) ∧
      fs.get? (fs.reading root ++ Path.steps ⟨name⟩) = some (.file text.toUTF8) := by
  obtain ⟨hlocate, -⟩ := FileSystem.isDirectory_iff.1 hroot
  have htext := FileSystem.locate_text_ne_empty hlocate
  rw [loadBelow_found_iff_readText]
  refine and_congr_right fun ⟨hrel, hup⟩ => ?_
  have hdown : FileSystem.Descends root (Path.steps ⟨name⟩) (root.join name) :=
    ⟨Path.isAbsolute_join htext hrel, Path.steps_join htext hrel, isPlain_of_mem_steps hup⟩
  obtain ⟨first, hnames, -, -⟩ := Path.names_join htext hrel
  constructor
  · intro hread
    obtain ⟨hplace, hget⟩ := FileSystem.readBytes_eq_ok (FileSystem.readText_eq_ok hread)
    rw [hdown.reading] at hplace hget
    refine ⟨?_, hget⟩
    have hfile : fs.isDirectoryAt (fs.reading root ++ Path.steps ⟨name⟩) = false := by
      unfold FileSystem.isDirectoryAt
      rw [hget]
      rfl
    have hfollow := (FileSystem.locate_eq_ok.1 hplace).2
    rw [FileSystem.follow_join fs root hrel, (FileSystem.locate_eq_ok.1 hlocate).2] at hfollow
    exact last_of_follow (FileSystem.names_ne_nil ⟨name⟩) hfollow hfile
  · rintro ⟨⟨front, last, hlast, hidle⟩, hget⟩
    have hsteps : Path.steps ⟨name⟩ = (front.filter fun n => ¬ IsIdle n) ++ [last] := by
      unfold Path.steps
      rw [hlast, List.filter_append, List.filter_cons_of_pos (by simpa using hidle)]
      rfl
    have hends : (root.join name).EndsInStep := fun _ =>
      ⟨first ++ front, last, by rw [hnames, hlast, List.append_assoc], hidle⟩
    rw [hsteps] at hdown hget
    have hbytes := FileSystem.readBytes_entry hfs hlocate hdown hends
      (Path.join_text_ne_empty htext) hget
    have hdecode : String.fromUTF8? text.toUTF8 = some text := dif_pos text.isValidUTF8
    unfold FileSystem.readText
    rw [hbytes]
    simp only [bind, Except.bind, hdecode]

/-! ### Renderings -/

/-- The rendering of a file comes to the same, be it a text or an error, on any two file systems
that share the tree at the root. A name that is absolute or holds `..` yields no template, even if
it leads back into the root. Every other name yields exactly the file below the root that it leads
to, also if the file is hidden or the name passes `.`. -/
theorem rendering_sees_only_root (root : Path) :
    (∀ fs fs' relative env, SharesBelow root fs fs' → Path.isAbsolute ⟨relative⟩ = false →
      ".." ∉ Path.names ⟨relative⟩ →
        renderFile fs root relative env = renderFile fs' root relative env) ∧
    (∀ fs name, Path.isAbsolute ⟨name⟩ = true ∨ ".." ∈ Path.names ⟨name⟩ →
      loadBelow fs root name = .missing) ∧
    ∀ fs name text, fs.WellFormed → fs.isDirectory root = true →
      (loadBelow fs root name = .found text ↔
        (Path.isAbsolute ⟨name⟩ = false ∧ ".." ∉ Path.names ⟨name⟩) ∧
        (∃ front last, Path.names ⟨name⟩ = front ++ [last] ∧ ¬ IsIdle last) ∧
        fs.get? (fs.reading root ++ Path.steps ⟨name⟩) = some (.file text.toUTF8)) := by
  refine ⟨fun fs fs' relative env hshared hrel hup => ?_, fun fs name => loadBelow_outside fs root,
    fun fs name text => loadBelow_eq_found⟩
  have hload : loadBelow fs root = loadBelow fs' root := funext (loadBelow_congr hshared)
  unfold renderFile
  rw [readText_join_congr hshared hrel hup, hload]

/-! ### One tree in two file systems -/

/-- A staging tree whose template includes a hidden file. -/
def includingTree : FileSystem :=
  { entries := [(["stage"], .directory),
      (["stage", "a.ftl"], .file "\x7b% include './.b' %\x7d".toUTF8),
      (["stage", ".b"], .file "x".toUTF8)] }

/-- The same tree with a file beside it. -/
def besideSecret : FileSystem :=
  { entries := includingTree.entries ++ [(["secret"], .file "s".toUTF8)] }

/-- The root of the tree. -/
def includingRoot : Path := ⟨"/stage"⟩

theorem sharesBelow_besideSecret : SharesBelow includingRoot includingTree besideSecret where
  way := by decide +kernel
  entries := by
    intro l m hl hm
    obtain rfl : ["stage"] = l := Except.ok.inj (by rw [← hl]; decide +kernel)
    obtain ⟨rest, rfl⟩ := hm
    have hne : (["stage"] ++ rest : Location) ≠ [] := List.cons_ne_nil _ _
    have hsecret : (["stage"] ++ rest : Location) ≠ ["secret"] := fun e =>
      absurd (List.cons.inj e).1 (by decide)
    rw [FileSystem.get?_of_ne_root hne, FileSystem.get?_of_ne_root hne]
    unfold besideSecret
    rw [List.lookup_append, lookup_cons_of_ne hsecret, List.lookup_nil, Option.or_none]

theorem rendering_sees_only_root_of_included :
    renderFile includingTree includingRoot "a.ftl" ⟨[("name", .text "x")]⟩ =
      renderFile besideSecret includingRoot "a.ftl" ⟨[("name", .text "x")]⟩ ∧
    loadBelow besideSecret includingRoot "../secret" = .missing ∧
    loadBelow besideSecret includingRoot "a/../.b" = .missing ∧
    loadBelow besideSecret includingRoot "./.b" = .found "x" := by
  obtain ⟨hsame, houtside, hfound⟩ := rendering_sees_only_root includingRoot
  refine ⟨hsame _ _ _ _ sharesBelow_besideSecret (by decide +kernel) (by decide +kernel),
    houtside _ _ (.inr (by decide +kernel)), houtside _ _ (.inr (by decide +kernel)), ?_⟩
  refine (hfound besideSecret "./.b" "x" (by decide +kernel) (by decide +kernel)).2
    ⟨⟨by decide +kernel, by decide +kernel⟩, ⟨["."], ".b", by decide +kernel, by decide⟩, ?_⟩
  decide +kernel

end Scaffold
