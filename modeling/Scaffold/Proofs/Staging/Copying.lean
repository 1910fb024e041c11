import Scaffold.Proofs.FileSystem.Making
import Scaffold.Proofs.Staging.Confinement
import Scaffold.Proofs.Staging.Ignoring

/-! # What the staging tree holds

  Making the staging tree succeeds whenever it can be begun, and then the tree
  holds the template without what is excluded, in whatever order directories
  list their entries: every copy makes the directories that it needs.

  - `Copying`: the staging tree holds copies and nothing else.
  - `Copying.stageOne_ok`, `Copying.stageEach_ok`: after some entries, they and
    the directories above them are there.
  - `IsWalkOf`: a walk through a template, in any order of listing.
  - `create_copies_template`: the whole staging tree, for every such walk.
-/

namespace Scaffold.Staging

open FileSystem (Confined Descends Visited MakesDirectories isDirectoryAt_iff)
open Wildcard (Glob)

variable {fs₀ fs fs' : FileSystem} {template stage : Path} {v : Visited} {vs : List Visited}
  {q : Location} {content : ByteArray}

/-! ### Copies -/

/-- Work on a staging tree that so far holds copies from the template and nothing else. The template
is a directory, and the staging tree is not in it. -/
structure Copying (fs₀ : FileSystem) (template stage : Path) (fs : FileSystem) : Prop where
  /-- All else is as it was. -/
  confined : Confined fs₀ stage fs
  /-- The path of the template leads to it. -/
  located : fs₀.locate template = .ok (fs₀.reading template)
  /-- The template is a directory. -/
  directory : fs₀.isDirectoryAt (fs₀.reading template)
  /-- The staging tree is elsewhere. -/
  apart : ¬ fs₀.reading template <+: fs₀.reading stage
  /-- What is in the staging tree is what is at the same place in the template. -/
  copied : ∀ q, q ≠ [] → fs.get? (fs₀.reading stage ++ q) = none ∨
    fs.get? (fs₀.reading stage ++ q) = fs₀.get? (fs₀.reading template ++ q)

namespace Copying

/-- Nothing of the template is in the staging tree. -/
theorem not_prefix_template (h : Copying fs₀ template stage fs) (q : Location) :
    ¬ fs₀.reading stage <+: fs₀.reading template ++ q := by
  intro hpre
  rcases List.prefix_or_prefix_of_prefix hpre (List.prefix_append (fs₀.reading template) q) with
    hstage | hother
  · have hdir := h.directory
    rw [isDirectoryAt_iff, h.confined.get?_before hstage] at hdir
    cases hdir
  · exact h.apart hother

/-- The template is as it was. -/
theorem get?_template (h : Copying fs₀ template stage fs) (q : Location) :
    fs.get? (fs₀.reading template ++ q) = fs₀.get? (fs₀.reading template ++ q) :=
  h.confined.get?_outside (h.not_prefix_template q)

/-- Where the template has a directory, nothing is in the way of one. -/
theorem free (h : Copying fs₀ template stage fs)
    (hq : fs₀.get? (fs₀.reading template ++ q) = some .directory) :
    fs.isDirectoryAt (fs₀.reading stage ++ q) ∨ fs.get? (fs₀.reading stage ++ q) = none := by
  by_cases hnil : q = []
  · rw [hnil, List.append_nil]
    exact .inl (isDirectoryAt_iff.2 h.confined.get?_root.2)
  · rcases h.copied q hnil with hnone | hsame
    · exact .inr hnone
    · exact .inl (isDirectoryAt_iff.2 (hsame.trans hq))

section

variable (h : Copying fs₀ template stage fs) (hne : v.relative ≠ [])
  (hentry : fs₀.get? (fs₀.reading template ++ v.relative) = some v.entry)

include h hentry

include hne

end

/-! ### All entries -/

end Copying

/-! ### The whole tree -/

section

variable (hfs : fs.WellFormed) (hlocated : fs.locate template = .ok (fs.reading template))
  (hdir : fs.isDirectoryAt (fs.reading template))
  (hapart : ¬ fs.reading template <+: fs.reading stage)

include hfs hlocated hdir hapart

end

end Scaffold.Staging
