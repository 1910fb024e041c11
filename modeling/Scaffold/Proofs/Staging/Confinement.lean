import Scaffold.Proofs.FileSystem.Confinement
import Scaffold.Proofs.Staging.Enclosure
import Scaffold.Proofs.Staging.Walking

/-! # Making the staging tree changes nothing else

  What goes wrong while the tree is made leaves a part of it behind, and nothing
  besides it.

  - `stageEach_confined`: staged entries land below the root.
  - `create_confined`: making the staging tree, unless it cannot even be begun.
-/

namespace Scaffold.Staging

open FileSystem (Confined Descends Visited)

variable {fs₀ fs : FileSystem} {stage : Path} {v : Visited}

theorem stageOne_confined (template : Path) (h : Confined fs₀ stage fs)
    (hne : v.relative ≠ []) (hnames : ∀ name ∈ v.relative, IsName name) :
    Confined fs₀ stage (stageOne fs template stage v).2 := by
  have hdown := Descends.join_name h.text_ne_empty hnames
  unfold stageOne
  split
  · exact h.of_enclosed
      (h.enclosed.createDirectories h.locate_stage hdown.toInside.isOnWay).1
  · exact h.of_enclosed (h.enclosed.copyInto h.locate_stage hdown hne)

theorem stageEach_confined (h : Confined fs₀ stage fs) {template : Path} {vs : List Visited}
    (hvs : ∀ v ∈ vs, v.relative ≠ [] ∧ ∀ name ∈ v.relative, IsName name) :
    Confined fs₀ stage (stageEach template stage vs fs).2 := by
  induction vs generalizing fs with
  | nil => exact h
  | cons v rest ih =>
    obtain ⟨hne, hnames⟩ := hvs v List.mem_cons_self
    have hone := stageOne_confined template h hne hnames
    unfold stageEach
    split
    · next hr => rw [hr] at hone; exact hone
    · next hr =>
      rw [hr] at hone
      exact ih hone fun w hw => hvs w (List.mem_cons_of_mem v hw)

/-- Whatever becomes of the staging tree, making it changes nothing else. -/
theorem create_confined (stage template : Path) (rules : IgnoreRules) (hfs : fs.WellFormed) :
    (∃ e, create fs template stage rules = (.error e, fs)) ∨
      Confined fs stage (create fs template stage rules).2 := by
  unfold create
  split
  · next fault _ => exact .inl ⟨.io fault, rfl⟩
  · next fs' hr =>
    have h : Confined fs stage fs' := .of_createDirectory hfs hr
    refine .inr ?_
    split
    · exact h
    · next location hroot =>
      refine stageEach_confined h fun v hv => ?_
      rw [chosen_collectAsListed h.wellFormed] at hv
      have hbelow := FileSystem.mem_collectAsListed.1 (List.mem_filter.1 hv).1
      exact ⟨(FileSystem.mem_below.1 hbelow).2, fun _ => h.wellFormed.isName_relative hbelow⟩

end Scaffold.Staging
