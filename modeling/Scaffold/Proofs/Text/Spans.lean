import Mathlib.Data.List.TakeDrop

/-! # Runs of characters at the start of a text

  A run of characters of one kind ends where a character of another kind, or
  nothing, follows it.
-/

namespace Scaffold.Text

variable {p : Char → Bool} {run rest : List Char}

theorem dropWhile_run (hrun : ∀ c ∈ run, p c = true)
    (hrest : ∀ c, rest.head? = some c → p c = false) :
    (run ++ rest).dropWhile p = rest := by
  rw [List.dropWhile_append_of_pos hrun]
  cases rest with
  | nil => rfl
  | cons c more => rw [List.dropWhile_cons, hrest c rfl, if_neg Bool.false_ne_true]

theorem span_run (hrun : ∀ c ∈ run, p c = true) (hrest : ∀ c, rest.head? = some c → p c = false) :
    (run ++ rest).span p = (run, rest) := by
  have htake : rest.takeWhile p = [] := by
    cases rest with
    | nil => rfl
    | cons c more => rw [List.takeWhile_cons, hrest c rfl, if_neg Bool.false_ne_true]
  rw [List.span_eq_takeWhile_dropWhile, dropWhile_run hrun hrest,
    List.takeWhile_append_of_pos hrun, htake, List.append_nil]

end Scaffold.Text
