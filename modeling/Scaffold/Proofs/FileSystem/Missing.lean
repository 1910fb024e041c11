import Scaffold.Proofs.FileSystem.Preservation

/-! # Directories that a path misses

  A path can lead to a directory and yet be found to lead nowhere: a name on its
  way is not there, and a later `..` leads back from it. Once the name is there,
  the path leads to the directory.

  - `Misses`: nothing is found at a path that reads to a directory.
  - `Misses.has_parent`: only paths with `..` miss directories.
-/

namespace Scaffold.FileSystem

open Scaffold.Path (IsIdle IsPlain)

variable {fs : FileSystem} {l m : Location} {p : Path} {name : String}

/-- Nothing is found at the path, although it reads to a directory. -/
def Misses (fs : FileSystem) (p : Path) : Prop :=
  fs.isPresent p = false ∧ fs.isDirectoryAt (fs.reading p) = true

instance (fs : FileSystem) (p : Path) : Decidable (fs.Misses p) :=
  inferInstanceAs (Decidable (_ ∧ _))

/-! ### Paths that lead down -/

/-- From a location names lead down unless one of them leads up. -/
theorem prefix_readNames {names : List String} (h : ".." ∉ names) (l : Location) :
    l <+: readNames l names := by
  induction names generalizing l with
  | nil => exact List.prefix_refl l
  | cons name rest ih =>
    rw [List.mem_cons, not_or] at h
    have hturn : l <+: turn l name := by
      unfold turn
      rw [if_neg (Ne.symm h.1)]
      split
      · exact List.prefix_refl l
      · exact List.prefix_append l [name]
    exact hturn.trans (ih h.2 (turn l name))

theorem WellFormed.isDirectoryAt_above (hfs : fs.WellFormed) (hm : fs.isDirectoryAt m)
    (hpre : l <+: m) : fs.isDirectoryAt l := by
  by_cases hl : l = m
  · rw [hl]
    exact hm
  · exact hfs.isDirectoryAt_of_prefix (Option.isSome_of_any hm) hpre hl

/-- Names that lead down to a directory can be followed. -/
theorem follow_to_directory {names : List String} (hfs : fs.WellFormed) (h : ".." ∉ names)
    (hdir : fs.isDirectoryAt (readNames l names)) :
    fs.follow l names = .ok (readNames l names) := by
  induction names generalizing l with
  | nil => rfl
  | cons name rest ih =>
    have hl : fs.isDirectoryAt l := hfs.isDirectoryAt_above hdir (prefix_readNames h l)
    rw [List.mem_cons, not_or] at h
    have hrest : fs.isDirectoryAt (readNames (turn l name) rest) := hdir
    have hnext := hfs.isDirectoryAt_above hrest (prefix_readNames h.2 (turn l name))
    have hstep : fs.step l name = .ok (turn l name) := by
      refine step_eq_ok.2 ⟨rfl, fun hplain => ?_⟩
      rw [turn_plain hplain] at hnext
      have hsome := Option.isSome_of_any hnext
      exact ⟨(hfs.isName_of_mem hsome (by simp)).short, hsome⟩
    rw [follow_cons, if_pos hl, hstep]
    exact ih h.2 hrest

/-- The plain names of a path without `..` are names of the location where it leads. -/
theorem mem_readNames {names : List String} (h : ".." ∉ names) (hmem : name ∈ names)
    (hplain : IsPlain name) (l : Location) : name ∈ readNames l names := by
  induction names generalizing l with
  | nil => cases hmem
  | cons first rest ih =>
    rw [List.mem_cons, not_or] at h
    rcases List.mem_cons.1 hmem with rfl | hrest
    · have hlast : name ∈ turn l name := by
        rw [turn_plain hplain]
        simp
      exact (prefix_readNames h.2 (turn l name)).subset hlast
    · exact ih h.2 hrest (turn l first)

/-- Only a path with `..` can miss a directory. -/
theorem Misses.has_parent (hfs : fs.WellFormed) (hp : p.text ≠ "") (h : fs.Misses p) :
    ".." ∈ p.names := by
  by_contra hup
  obtain ⟨habsent, hdir⟩ := h
  have hzero : '\x00' ∉ p.text.toList := by
    intro hc
    obtain ⟨name, hname, hmem⟩ := Path.exists_mem_names hc (by decide)
    have hplain : IsPlain name := by
      refine ⟨?_, fun e => hup (e ▸ hname)⟩
      rintro (rfl | rfl) <;> revert hmem <;> decide
    have hisName := hfs.isName_of_mem (Option.isSome_of_any hdir) (mem_readNames hup hname hplain _)
    exact hisName.no_zero hmem
  have hlocate : fs.locate p = .ok (fs.reading p) :=
    locate_eq_ok.2 ⟨⟨hp, hzero⟩, follow_to_directory hfs hup hdir⟩
  rw [isPresent_iff.2 hlocate] at habsent
  cases habsent

end Scaffold.FileSystem
