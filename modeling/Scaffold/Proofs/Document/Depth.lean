import Mathlib.Order.Lattice
import Mathlib.Order.MinMax
import Scaffold.Proofs.Document.Values

/-! # Depth

  The limit of nesting counts from the outermost list or map. As long as a node
  keeps it, its value is the same wherever the node stands.

  - `content_cases`: what a value can come from.
  - `content_eq_of_depth`: the value of a node at two depths.
  - `Content.nesting`, `nesting_content_le`: a value nests no deeper than its node.
-/

namespace Scaffold

namespace Node

variable {format : Format}

/-! ### Kinds of values -/

/-- A scalar has a scalar value, a list the values of its items, and a map those of its entries. -/
theorem content_cases {node : Node} {depth : Nat} {c : Content}
    (h : node.content format depth = .ok c) :
    (∃ value, c = .scalar value ∧ (node = .scalar value ∨ ∃ tag plain s,
      node = .written tag plain s ∧ tag ≠ .own ∧ settle format tag plain s = .ok value)) ∨
    (∃ tag nodes items, node = .list tag nodes ∧ c = .list items ∧ tag ≠ .own ∧
      depth < format.depthLimit ∧ itemContents format (depth + 1) nodes = .ok items) ∨
    (∃ tag pairs entries, node = .map tag pairs ∧ c = .map entries ∧ tag ≠ .own ∧
      depth < format.depthLimit ∧ entryContents format (depth + 1) pairs = .ok entries) := by
  cases node with
  | scalar value => cases value <;> cases h <;> exact .inl ⟨_, rfl, .inl rfl⟩
  | written tag plain s =>
    by_cases hown : tag = .own
    · subst hown
      cases h
    · rw [content] at h
      · obtain ⟨value, hvalue, h⟩ := bind_eq_ok h
        have hc : c = .scalar value := by cases value <;> cases h <;> rfl
        exact .inl ⟨value, hc, .inr ⟨tag, plain, s, rfl, hown, hvalue⟩⟩
      · exact hown
  | list tag nodes =>
    rw [content] at h
    split at h
    · cases h
    · next hlimit =>
      obtain ⟨items, hitems, h⟩ := bind_eq_ok h
      cases h
      rw [not_or, not_le] at hlimit
      exact .inr (.inl ⟨tag, nodes, items, rfl, rfl, hlimit.1, hlimit.2, hitems⟩)
  | map tag pairs =>
    rw [content] at h
    split at h
    · cases h
    · next hlimit =>
      obtain ⟨entries, hentries, h⟩ := bind_eq_ok h
      cases h
      rw [not_or, not_le] at hlimit
      exact .inr (.inr ⟨tag, pairs, entries, rfl, rfl, hlimit.1, hlimit.2, hentries⟩)
  | unreadable | broken => cases h

theorem content_map {tag : Tag} {pairs : List (Node × Node)} {depth : Nat}
    {entries : List (Content × Content)} (hown : tag ≠ .own) (hdepth : depth < format.depthLimit)
    (h : entryContents format (depth + 1) pairs = .ok entries) :
    (Node.map tag pairs).content format depth = .ok (.map entries) := by
  have hlimit : ¬ (tag = .own ∨ format.depthLimit ≤ depth) := by
    rintro (hmark | hmark)
    · exact hown hmark
    · omega
  rw [content, if_neg hlimit, h]
  rfl

/-! ### Two depths -/

mutual

/-- A node has one value at all depths at which it keeps the limit. -/
theorem content_eq_of_depth {depth other : Nat} : ∀ (node : Node),
    depth + node.nesting ≤ format.depthLimit → other + node.nesting ≤ format.depthLimit →
      node.content format depth = node.content format other
  | .scalar _, _, _ => rfl
  | .written tag _ _, _, _ => by cases tag <;> rfl
  | .list tag nodes, h, hother => by
    rw [nesting] at h hother
    have hlimit : ¬ format.depthLimit ≤ depth := by omega
    have hotherLimit : ¬ format.depthLimit ≤ other := by omega
    have hitems : itemContents format (depth + 1) nodes = itemContents format (other + 1) nodes :=
      itemContents_eq_of_depth nodes (by omega) (by omega)
    simp only [content, hlimit, hotherLimit, hitems]
  | .map tag pairs, h, hother => by
    rw [nesting] at h hother
    have hlimit : ¬ format.depthLimit ≤ depth := by omega
    have hotherLimit : ¬ format.depthLimit ≤ other := by omega
    have hpairs : entryContents format (depth + 1) pairs = entryContents format (other + 1) pairs :=
      entryContents_eq_of_depth pairs (by omega) (by omega)
    simp only [content, hlimit, hotherLimit, hpairs]
  | .unreadable, _, _ => rfl
  | .broken, _, _ => rfl

/-- The induction is on the items. -/
theorem itemContents_eq_of_depth {depth other : Nat} : ∀ (nodes : List Node),
    depth + itemsNesting nodes ≤ format.depthLimit →
      other + itemsNesting nodes ≤ format.depthLimit →
        itemContents format depth nodes = itemContents format other nodes
  | [], _, _ => rfl
  | node :: rest, h, hother => by
    rw [itemsNesting] at h hother
    have hfirst : node.content format depth = node.content format other :=
      content_eq_of_depth node (by omega) (by omega)
    have hrest : itemContents format depth rest = itemContents format other rest :=
      itemContents_eq_of_depth rest (by omega) (by omega)
    rw [itemContents, itemContents, hfirst, hrest]

/-- The induction is on the entries. -/
theorem entryContents_eq_of_depth {depth other : Nat} : ∀ (pairs : List (Node × Node)),
    depth + pairsNesting pairs ≤ format.depthLimit →
      other + pairsNesting pairs ≤ format.depthLimit →
        entryContents format depth pairs = entryContents format other pairs
  | [], _, _ => rfl
  | (key, value) :: rest, h, hother => by
    rw [pairsNesting] at h hother
    have hkey : key.content format depth = key.content format other :=
      content_eq_of_depth key (by omega) (by omega)
    have hvalue : value.content format depth = value.content format other :=
      content_eq_of_depth value (by omega) (by omega)
    have hrest : entryContents format depth rest = entryContents format other rest :=
      entryContents_eq_of_depth rest (by omega) (by omega)
    rw [entryContents, entryContents, hkey, hvalue, hrest]

end

end Node

/-! ### Nesting of values -/

namespace Content

mutual

/-- How many lists and maps enclose each other in a value. -/
def nesting : Content → Nat
  | .scalar _ => 0
  | .list items => itemsNesting items + 1
  | .map entries => entriesNesting entries + 1

/-- The deepest nesting of items. -/
def itemsNesting : List Content → Nat
  | [] => 0
  | c :: rest => max c.nesting (itemsNesting rest)

/-- The deepest nesting of keys and what they stand for. -/
def entriesNesting : List (Content × Content) → Nat
  | [] => 0
  | (key, value) :: rest => max (max key.nesting value.nesting) (entriesNesting rest)

end

theorem nesting_item_lt {c : Content} {items : List Content} (h : c ∈ items) :
    c.nesting < (Content.list items).nesting := by
  rw [nesting, Nat.lt_succ_iff]
  induction items with
  | nil => cases h
  | cons first rest ih =>
    rw [itemsNesting]
    rcases List.mem_cons.1 h with rfl | h
    · exact le_max_left _ _
    · exact (ih h).trans (le_max_right _ _)

theorem nesting_value_lt {e : Content × Content} {entries : List (Content × Content)}
    (h : e ∈ entries) : e.2.nesting < (Content.map entries).nesting := by
  rw [nesting, Nat.lt_succ_iff]
  induction entries with
  | nil => cases h
  | cons first rest ih =>
    obtain ⟨key, value⟩ := first
    rw [entriesNesting]
    rcases List.mem_cons.1 h with rfl | h
    · exact (le_max_right _ _).trans (le_max_left _ _)
    · exact (ih h).trans (le_max_right _ _)

end Content

namespace Node

variable {format : Format}

mutual

/-- A value nests no deeper than the node that has it. -/
theorem nesting_content_le {depth : Nat} : ∀ {node : Node} {c : Content},
    node.content format depth = .ok c → c.nesting ≤ node.nesting
  | .list tag nodes, c, h => by
    rw [content] at h
    split at h
    · cases h
    · obtain ⟨cs, hitems, h⟩ := bind_eq_ok h
      cases h
      exact Nat.succ_le_succ (nesting_itemContents_le hitems)
  | .map tag pairs, c, h => by
    rw [content] at h
    split at h
    · cases h
    · obtain ⟨cs, hpairs, h⟩ := bind_eq_ok h
      cases h
      exact Nat.succ_le_succ (nesting_entryContents_le hpairs)
  | .scalar _, c, h | .written .., c, h | .unreadable, c, h | .broken, c, h => by
    obtain ⟨value, rfl, -⟩ | ⟨_, _, _, hnode, -⟩ | ⟨_, _, _, hnode, -⟩ := content_cases h
    · exact le_rfl
    · cases hnode
    · cases hnode

/-- The induction is on the items. -/
theorem nesting_itemContents_le {depth : Nat} : ∀ {nodes : List Node} {cs : List Content},
    itemContents format depth nodes = .ok cs → Content.itemsNesting cs ≤ itemsNesting nodes
  | [], cs, h => by
    cases h
    exact le_rfl
  | node :: rest, cs, h => by
    rw [itemContents] at h
    obtain ⟨first, hfirst, h⟩ := bind_eq_ok h
    obtain ⟨others, hrest, h⟩ := bind_eq_ok h
    cases h
    exact max_le_max (nesting_content_le hfirst) (nesting_itemContents_le hrest)

/-- The induction is on the entries. -/
theorem nesting_entryContents_le {depth : Nat} : ∀ {pairs : List (Node × Node)}
    {cs : List (Content × Content)}, entryContents format depth pairs = .ok cs →
      Content.entriesNesting cs ≤ pairsNesting pairs
  | [], cs, h => by
    cases h
    exact le_rfl
  | (key, value) :: rest, cs, h => by
    rw [entryContents] at h
    obtain ⟨first, hkey, h⟩ := bind_eq_ok h
    obtain ⟨second, hvalue, h⟩ := bind_eq_ok h
    obtain ⟨others, hrest, h⟩ := bind_eq_ok h
    cases h
    exact max_le_max (max_le_max (nesting_content_le hkey) (nesting_content_le hvalue))
      (nesting_entryContents_le hrest)

end

end Node

end Scaffold
