import Scaffold.Environment
import Scaffold.Proofs.FileSystem.Lookup

/-! # Environments after bindings

  Binding a name changes its value and that of no other name. A name that is
  bound already keeps its place, a new one comes last.

  - `get?_set`, `names_set`: one binding.
  - `get?_setTexts`, `names_setTexts`: many texts, one after the other.
-/

namespace Scaffold.Environment

variable {env : Environment} {name other : String} {value : Binding}

/-! ### One binding -/

theorem lookup_insertPair (name other : String) (value : Binding)
    (pairs : List (String × Binding)) : (insertPair name value pairs).lookup other =
      if other = name then some value else pairs.lookup other := by
  induction pairs with
  | nil =>
    by_cases h : other = name
    · rw [insertPair, if_pos h, h, List.lookup_cons_self]
    · rw [insertPair, if_neg h, lookup_cons_of_ne h]
  | cons pair rest ih =>
    obtain ⟨n, v⟩ := pair
    rw [insertPair]
    by_cases hn : n = name
    · subst hn
      rw [if_pos rfl]
      by_cases h : other = n
      · rw [if_pos h, h, List.lookup_cons_self]
      · rw [if_neg h, lookup_cons_of_ne h, lookup_cons_of_ne h]
    · rw [if_neg hn]
      by_cases h : other = n
      · subst h
        rw [if_neg hn, List.lookup_cons_self, List.lookup_cons_self]
      · rw [lookup_cons_of_ne h, lookup_cons_of_ne h, ih]

/-- Binding a name changes the value of this name only. -/
theorem get?_set (env : Environment) (name other : String) (value : Binding) :
    (env.set name value).get? other = if other = name then some value else env.get? other :=
  lookup_insertPair name other value env.bindings

theorem names_insertPair (name : String) (value : Binding) (pairs : List (String × Binding)) :
    (insertPair name value pairs).map (·.1) =
      if name ∈ pairs.map (·.1) then pairs.map (·.1) else pairs.map (·.1) ++ [name] := by
  induction pairs with
  | nil => rfl
  | cons pair rest ih =>
    obtain ⟨n, v⟩ := pair
    rw [insertPair]
    by_cases hn : n = name
    · simp [hn]
    · have hne : name ≠ n := fun e => hn e.symm
      rw [if_neg hn, List.map_cons, ih]
      by_cases h : name ∈ rest.map (·.1)
      · simp [h]
      · simp [h, hne]

/-- A bound name keeps its place, a new one comes last. -/
theorem names_set (env : Environment) (name : String) (value : Binding) :
    (env.set name value).names =
      if name ∈ env.names then env.names else env.names ++ [name] :=
  names_insertPair name value env.bindings

/-- No name occurs twice after a binding if none does before. -/
theorem nodup_names_set (h : env.names.Nodup) : (env.set name value).names.Nodup := by
  rw [names_set]
  split
  · exact h
  · next hnew =>
    refine List.nodup_append.2 ⟨h, List.nodup_singleton name, fun a ha b hb => ?_⟩
    rintro rfl
    exact hnew (List.mem_singleton.1 hb ▸ ha)

/-! ### Many texts -/

/-- Binds names to texts, one after the other. -/
def setTexts (env : Environment) (stored : List (String × String)) : Environment :=
  stored.foldl (fun env b => env.setText b.1 b.2) env

theorem setTexts_append (env : Environment) (a b : List (String × String)) :
    env.setTexts (a ++ b) = (env.setTexts a).setTexts b := List.foldl_append

/-- The text that was bound last counts. -/
theorem get?_setTexts (env : Environment) (stored : List (String × String)) (name : String) :
    (env.setTexts stored).get? name =
      ((stored.reverse.lookup name).map Binding.text).or (env.get? name) := by
  induction stored generalizing env with
  | nil => rfl
  | cons first rest ih =>
    obtain ⟨n, text⟩ := first
    show ((env.setText n text).setTexts rest).get? name = _
    rw [ih, List.reverse_cons, List.lookup_append]
    cases rest.reverse.lookup name with
    | some later => rfl
    | none =>
      rw [Option.none_or, Option.map_none, Option.none_or, setText, get?_set]
      by_cases h : name = n
      · subst h
        rw [if_pos rfl, List.lookup_cons_self]
        rfl
      · rw [if_neg h, lookup_cons_of_ne h]
        rfl

/-- The new names come behind the old ones, in the order in which they were bound first. -/
theorem names_setTexts (env : Environment) (stored : List (String × String)) :
    (env.setTexts stored).names =
      env.names ++ ((stored.map (·.1)).filter (· ∉ env.names)).eraseDups := by
  induction stored generalizing env with
  | nil => exact (List.append_nil _).symm
  | cons first rest ih =>
    obtain ⟨name, text⟩ := first
    show ((env.setText name text).setTexts rest).names = _
    rw [ih, setText, names_set]
    by_cases h : name ∈ env.names
    · rw [if_pos h, List.map_cons, List.filter_cons_of_neg (by simpa using h)]
    · -- Behind a new name, the old names are those before and the new one.
      rw [if_neg h, List.map_cons, List.filter_cons_of_pos (by simpa using h),
        List.eraseDups_cons, List.append_assoc, List.singleton_append, List.filter_filter]
      congr 4
      funext other
      by_cases hother : other = name <;> simp [hother]

theorem nodup_names_setTexts (h : env.names.Nodup) (stored : List (String × String)) :
    (env.setTexts stored).names.Nodup := by
  induction stored generalizing env with
  | nil => exact h
  | cons first rest ih => exact ih (nodup_names_set h)

end Scaffold.Environment
