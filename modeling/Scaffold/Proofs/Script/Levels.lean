import Scaffold.Proofs.Document.Depth
import Scaffold.Script.Decode

/-! # Levels of groups

  The reader of instructions counts the levels of groups. As long as the count
  is larger than the nesting of the values, it does not matter.

  - `instructionOfEntries_congr`, `childrenOfContent_congr`,
    `instructionOfContent_congr`: one level.
  - `instructionOfEntries_of_levels`: all of them.
-/

namespace Scaffold

variable {format : Format} {levels other : Nat}

/-! ### What is left of the entries -/

theorem takeKind_subset {entries rest : Entries} {kind : Kind}
    (h : takeKind format entries = .ok (kind, rest)) : ∀ e ∈ rest, e ∈ entries := by
  unfold takeKind at h
  split at h
  · cases h
  · obtain ⟨found, -, h⟩ := bind_eq_ok h
    split at h
    · cases h
      exact fun e he => (List.mem_filter.1 he).1
    · cases h

theorem splitContent_subset {entries others rest : Entries} {condition : Option (Option String)}
    {found : Option String}
    (h : splitContent format entries condition others = .ok (found, rest)) :
    ∀ e ∈ rest, e ∈ others ∨ e ∈ entries := by
  induction entries generalizing condition others with
  | nil =>
    cases h
    exact fun e => .inl
  | cons first more ih =>
    obtain ⟨key, value⟩ := first
    have hpassed : splitContent format more condition (others ++ [(key, value)]) =
        .ok (found, rest) → ∀ e ∈ rest, e ∈ others ∨ e ∈ (key, value) :: more := by
      intro h e he
      rcases ih h e he with hmem | hmem
      · refine (List.mem_append.1 hmem).imp_right fun hlast => ?_
        rw [List.mem_singleton.1 hlast]
        exact List.mem_cons_self
      · exact .inr (List.mem_cons_of_mem _ hmem)
    unfold splitContent at h
    split at h
    · split at h
      · split at h
        · cases h
        · obtain ⟨text, -, h⟩ := bind_eq_ok h
          exact fun e he => (ih h e he).imp_right (List.mem_cons_of_mem _)
      · exact hpassed h
    · split at h
      · cases h
      · exact hpassed h
    · cases h

/-! ### One level -/

/-- Readers that agree on the values collect the same fields. -/
theorem collectFields_congr {α : Type} {names : List String}
    {read read' : String → Content → Reading α} {entries : Entries}
    (h : ∀ e ∈ entries, ∀ name, read name e.2 = read' name e.2) (found : List (String × α)) :
    collectFields names read entries found = collectFields names read' entries found := by
  induction entries generalizing found with
  | nil => rfl
  | cons first rest ih =>
    obtain ⟨key, value⟩ := first
    obtain ⟨hfirst, hrest⟩ := List.forall_mem_cons.1 h
    rw [collectFields, collectFields]
    simp only [hfirst, ih hrest]

theorem instructionOfEntries_congr {entries : Entries} (condition : Option String)
    (h : ∀ e ∈ entries, childrenOfContent format levels e.2 = childrenOfContent format other e.2) :
    instructionOfEntries format (levels + 1) condition entries =
      instructionOfEntries format (other + 1) condition entries := by
  rw [instructionOfEntries, instructionOfEntries]
  cases hkind : takeKind format entries with
  | error fault => rfl
  | ok taken =>
    obtain ⟨kind, rest⟩ := taken
    cases kind with
    | group =>
      simp only [collectFields_congr fun e he _ => h e (takeKind_subset hkind e he)]
    | _ => rfl

theorem mapM_congr {α β : Type} {read read' : α → Reading β} {items : List α}
    (h : ∀ item ∈ items, read item = read' item) : items.mapM read = items.mapM read' := by
  induction items with
  | nil => rfl
  | cons first rest ih =>
    obtain ⟨hfirst, hrest⟩ := List.forall_mem_cons.1 h
    rw [List.mapM_cons, List.mapM_cons, hfirst, ih hrest]

theorem childrenOfContent_congr {c : Content}
    (h : ∀ item : Content, item.nesting < c.nesting →
      instructionOfContent format levels item = instructionOfContent format other item) :
    childrenOfContent format (levels + 1) c = childrenOfContent format (other + 1) c := by
  rw [childrenOfContent, childrenOfContent]
  cases c with
  | list items => exact mapM_congr fun item hitem => h item (Content.nesting_item_lt hitem)
  | _ => rfl

theorem instructionOfContent_congr {c : Content}
    (h : ∀ (condition : Option String) (entries : Entries),
      (∀ e ∈ entries, e.2.nesting < c.nesting) →
        instructionOfEntries format levels condition entries =
          instructionOfEntries format other condition entries) :
    instructionOfContent format (levels + 1) c = instructionOfContent format (other + 1) c := by
  unfold instructionOfContent
  cases c with
  | map entries =>
    cases hsplit : splitContent format entries none [] with
    | error fault => simp only [hsplit]
    | ok split =>
      obtain ⟨condition, rest⟩ := split
      simp only [hsplit]
      refine h condition rest fun e he => Content.nesting_value_lt ?_
      exact (splitContent_subset hsplit e he).resolve_left List.not_mem_nil
  | _ => rfl

/-! ### All levels -/

/-- Two counts that are large enough for the values give the same instruction. The induction is on
the nesting, for no value knows how many levels are left. -/
theorem instructionOfEntries_of_levels {n : Nat} (h : 3 * n + 1 ≤ levels)
    (hother : 3 * n + 1 ≤ other) (condition : Option String) {entries : Entries}
    (hentries : ∀ e ∈ entries, e.2.nesting < n) :
    instructionOfEntries format levels condition entries =
      instructionOfEntries format other condition entries := by
  induction n generalizing levels other condition entries with
  | zero =>
    obtain ⟨l, rfl⟩ := Nat.exists_eq_add_of_le' h
    obtain ⟨o, rfl⟩ := Nat.exists_eq_add_of_le' hother
    apply instructionOfEntries_congr
    intro e he
    exact absurd (hentries e he) (Nat.not_lt_zero _)
  | succ n ih =>
    -- From the entries of a group to those of its children three steps are counted.
    obtain ⟨l, rfl⟩ : ∃ l, levels = l + 3 := ⟨levels - 3, by omega⟩
    obtain ⟨o, rfl⟩ : ∃ o, other = o + 3 := ⟨other - 3, by omega⟩
    apply instructionOfEntries_congr
    intro e he
    apply childrenOfContent_congr
    intro item hitem
    apply instructionOfContent_congr
    intro condition entries hinner
    apply ih (by omega) (by omega)
    intro e' he'
    have houter : e.2.nesting < n + 1 := hentries e he
    have hvalue : e'.2.nesting < item.nesting := hinner e' he'
    omega

end Scaffold
