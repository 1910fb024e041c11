import Scaffold.Proofs.FileSystem.Following

/-! # Ways that stay open

  A path leads where it led as long as everything on its way is as it was,
  whatever has changed elsewhere.

  - `follow_of_passed`, `locate_of_passed`: only what is passed counts.
  - `ComesFromAbove`: a path that passes nothing below the place where it leads.
  - `Enclosed.isDirectory_root`: such a path while work is done below.
  - `locate_below_of_passed`: entries below such a path while others go away.
-/

namespace Scaffold

open Scaffold.Path (IsIdle IsPlain)

namespace FileSystem

variable {fs fs' : FileSystem} {l m : Location} {root p : Path}

/-! ### What is passed -/

/-- Names can be followed where all that they pass is as before, their end included. -/
theorem follow_of_passed {names : List String}
    (hkept : ∀ front, front <+: names →
      fs'.get? (readNames l front) = fs.get? (readNames l front))
    (h : fs.follow l names = .ok m) : fs'.follow l names = .ok m := by
  induction names generalizing l with
  | nil => exact h
  | cons name rest ih =>
    obtain ⟨k, hdir, hstep, hrest⟩ := follow_cons_ok h
    obtain ⟨rfl, hplain⟩ := step_eq_ok.1 hstep
    have hdir' : fs'.isDirectoryAt l := by
      have hhere : fs'.get? l = fs.get? l := hkept [] List.nil_prefix
      rw [isDirectoryAt_iff] at hdir ⊢
      rw [hhere, hdir]
    have hstep' : fs'.step l name = .ok (turn l name) := by
      refine step_eq_ok.2 ⟨rfl, fun hname => ⟨(hplain hname).1, ?_⟩⟩
      have hnext : fs'.get? (turn l name) = fs.get? (turn l name) :=
        hkept [name] (List.prefix_append [name] rest)
      rw [turn_plain hname] at hnext
      rw [hnext]
      exact (hplain hname).2
    rw [follow_cons, if_pos hdir', hstep']
    apply ih _ hrest
    intro front hfront
    exact hkept (name :: front) (List.cons_prefix_cons.2 ⟨rfl, hfront⟩)

/-- A path leads where it led if all that its steps pass is as before. -/
theorem locate_of_passed (hcurrent : fs'.current = fs.current)
    (hkept : ∀ front, front <+: p.steps →
      fs'.get? (readNames (fs.origin p) front) = fs.get? (readNames (fs.origin p) front))
    (h : fs.locate p = .ok l) : fs'.locate p = .ok l := by
  obtain ⟨hread, hfollow⟩ := locate_eq_ok.1 h
  refine locate_eq_ok.2 ⟨hread, ?_⟩
  rw [origin_eq hcurrent rfl]
  apply follow_of_passed _ hfollow
  intro front hfront
  -- Names that lead nowhere pass nothing new.
  rw [← readNames_filter]
  exact hkept _ (hfront.filter _)

/-! ### Paths from above -/

/-- On its way to the place where it leads, the path passes nothing below that place. -/
def ComesFromAbove (fs : FileSystem) (p : Path) : Prop :=
  ∀ front ∈ p.steps.inits, isBelow (fs.reading p) (readNames (fs.origin p) front) = false

instance (fs : FileSystem) (p : Path) : Decidable (fs.ComesFromAbove p) :=
  inferInstanceAs (Decidable (∀ front ∈ p.steps.inits, _))

/-- The path of a root that comes from above begins above the root, or apart from it. -/
theorem ComesFromAbove.apart (h : fs.ComesFromAbove p) :
    isBelow (fs.reading p) (fs.origin p) = false :=
  h [] ((List.mem_inits [] p.steps).2 List.nil_prefix)

/-- The path of a root that comes from above leads there behind all work below the root. -/
theorem Enclosed.isDirectory_root (h : Enclosed fs root fs') (hway : fs.ComesFromAbove root)
    (hroot : fs.isDirectory root = true) : fs'.isDirectory root = true := by
  obtain ⟨hlocate, -⟩ := isDirectory_iff.1 hroot
  obtain ⟨hread, hfollow⟩ := locate_eq_ok.1 hlocate
  rw [isDirectory_iff, h.reading_root]
  refine ⟨locate_eq_ok.2 ⟨hread, ?_⟩, h.directory⟩
  rw [h.origin_root]
  refine follow_of_passed (fun front hfront => h.get?_outside ?_) hfollow
  rw [← readNames_filter]
  exact hway _ ((List.mem_inits _ root.steps).2 (hfront.filter _))

/-- An entry below a root is found at its path while other entries go away: the way to the root is
not touched, and neither is the way down from it. -/
theorem locate_below_of_passed {rest : List String} (hway : fs.ComesFromAbove root)
    (hp : Descends root rest p) (hcurrent : fs'.current = fs.current)
    (habove : ∀ k, isBelow (fs.reading root) k = false → fs'.get? k = fs.get? k)
    (hdown : ∀ front, front <+: rest →
      fs'.get? (fs.reading root ++ front) = fs.get? (fs.reading root ++ front))
    (h : fs.locate p = .ok l) : fs'.locate p = .ok l := by
  apply locate_of_passed hcurrent _ h
  intro front hfront
  rw [hp.steps] at hfront
  rcases List.prefix_or_prefix_of_prefix hfront (List.prefix_append root.steps rest) with
    hpre | ⟨more, rfl⟩
  · rw [origin_eq rfl hp.isAbsolute]
    exact habove _ (hway front ((List.mem_inits front root.steps).2 hpre))
  · rw [List.prefix_append_right_inj] at hfront
    have hplain : ∀ name ∈ more, IsPlain name := fun name hname =>
      hp.plain name (hfront.subset hname)
    rw [readNames_append, origin_eq rfl hp.isAbsolute, ← reading_eq_steps, readNames_plain hplain]
    exact hdown more hfront

end FileSystem

end Scaffold
