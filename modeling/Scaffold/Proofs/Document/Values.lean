import Scaffold.Document.Node

/-! # The values of nodes

  A node whose scalars all show their kind has one value, and the reader gives
  it wherever the limit of nesting allows.

  - `Node.plain`, `Node.isReadable`: the value of a node, and whether it has one.
  - `Node.nesting`: how deep a node nests.
  - `content_eq_plain`, `plain_of_content`: the reader and the value.
-/

namespace Scaffold

/-- A reader that succeeds has succeeded in its first part, and then in the rest. -/
theorem bind_eq_ok {ε α β : Type} {x : Except ε α} {f : α → Except ε β} {b : β}
    (h : x >>= f = .ok b) : ∃ a, x = .ok a ∧ f a = .ok b := by
  cases x with
  | error e => cases h
  | ok a => exact ⟨a, rfl, h⟩

theorem bind_eq_ok_iff {ε α β : Type} {x : Except ε α} {f : α → Except ε β} {b : β} :
    x >>= f = .ok b ↔ ∃ a, x = .ok a ∧ f a = .ok b := by
  constructor
  · exact bind_eq_ok
  · rintro ⟨a, rfl, h⟩
    exact h

namespace Node

/-! ### Values -/

mutual

/-- The value of a node, as JSON has it; a node without value counts as null. -/
def plain : Node → Content
  | .scalar value => .scalar value
  | .written tag plain text =>
    match settle .json tag plain text with
    | .ok value => .scalar value
    | .error _ => .scalar .null
  | .list _ nodes => .list (plainItems nodes)
  | .map _ pairs => .map (plainPairs pairs)
  | .unreadable | .broken => .scalar .null

/-- The values of items. -/
def plainItems : List Node → List Content
  | [] => []
  | node :: rest => node.plain :: plainItems rest

/-- The values of keys and of what they stand for. -/
def plainPairs : List (Node × Node) → List (Content × Content)
  | [] => []
  | (key, value) :: rest => (key.plain, value.plain) :: plainPairs rest

end

mutual

/-- Whether a node of JSON has a value. A string with half of a pair alone has none, nor has a
number that is too large. -/
def isReadable : Node → Bool
  | .scalar (.wide _) => false
  | .scalar _ => true
  | .list .none nodes => allReadable nodes
  | .map .none pairs => allPairsReadable pairs
  | _ => false

/-- Whether items have values. -/
def allReadable : List Node → Bool
  | [] => true
  | node :: rest => node.isReadable && allReadable rest

/-- Whether keys and what they stand for have values. -/
def allPairsReadable : List (Node × Node) → Bool
  | [] => true
  | (key, value) :: rest => key.isReadable && value.isReadable && allPairsReadable rest

end

mutual

/-- How many lists and maps enclose each other in a node. -/
def nesting : Node → Nat
  | .list _ nodes => itemsNesting nodes + 1
  | .map _ pairs => pairsNesting pairs + 1
  | _ => 0

/-- The deepest nesting of items. -/
def itemsNesting : List Node → Nat
  | [] => 0
  | node :: rest => max node.nesting (itemsNesting rest)

/-- The deepest nesting of keys and what they stand for. -/
def pairsNesting : List (Node × Node) → Nat
  | [] => 0
  | (key, value) :: rest => max (max key.nesting value.nesting) (pairsNesting rest)

end

/-! ### Reading -/

mutual

/-- A readable node within the limit is read as its value. -/
theorem content_eq_plain {depth : Nat} : ∀ (node : Node), node.isReadable = true →
    depth + node.nesting ≤ Format.json.depthLimit → node.content .json depth = .ok node.plain
  | .scalar value, h, _ => by
    cases value with
    | wide i => cases h
    | _ => rfl
  | .list tag nodes, h, hdepth => by
    cases tag with
    | none =>
      rw [nesting] at hdepth
      have hlimit : ¬ (Tag.none = .own ∨ Format.json.depthLimit ≤ depth) := by
        rintro (hown | hlimit)
        · cases hown
        · omega
      rw [content, if_neg hlimit, itemContents_eq_plain nodes h (by omega)]
      rfl
    | _ => cases h
  | .map tag pairs, h, hdepth => by
    cases tag with
    | none =>
      rw [nesting] at hdepth
      have hlimit : ¬ (Tag.none = .own ∨ Format.json.depthLimit ≤ depth) := by
        rintro (hown | hlimit)
        · cases hown
        · omega
      rw [content, if_neg hlimit, entryContents_eq_plain pairs h (by omega)]
      rfl
    | _ => cases h

/-- The induction is on the items. -/
theorem itemContents_eq_plain {depth : Nat} : ∀ (nodes : List Node), allReadable nodes = true →
    depth + itemsNesting nodes ≤ Format.json.depthLimit →
      itemContents .json depth nodes = .ok (plainItems nodes)
  | [], _, _ => rfl
  | node :: rest, h, hdepth => by
    rw [allReadable, Bool.and_eq_true] at h
    rw [itemsNesting] at hdepth
    rw [itemContents, content_eq_plain node h.1 (by omega),
      itemContents_eq_plain rest h.2 (by omega)]
    rfl

/-- The induction is on the entries. -/
theorem entryContents_eq_plain {depth : Nat} : ∀ (pairs : List (Node × Node)),
    allPairsReadable pairs = true → depth + pairsNesting pairs ≤ Format.json.depthLimit →
      entryContents .json depth pairs = .ok (plainPairs pairs)
  | [], _, _ => rfl
  | (key, value) :: rest, h, hdepth => by
    simp only [allPairsReadable, Bool.and_eq_true] at h
    rw [pairsNesting] at hdepth
    rw [entryContents, content_eq_plain key h.1.1 (by omega),
      content_eq_plain value h.1.2 (by omega), entryContents_eq_plain rest h.2 (by omega)]
    rfl

end

mutual

/-- Whatever the reader gives is the value of the node. -/
theorem plain_of_content {depth : Nat} : ∀ {node : Node} {c : Content},
    node.content .json depth = .ok c → c = node.plain
  | .scalar value, c, h => by
    rw [content] at h
    cases value <;> cases h <;> rfl
  | .written tag isPlain text, c, h => by
    by_cases hown : tag = .own
    · subst hown
      cases h
    · rw [content] at h
      · obtain ⟨value, hvalue, h⟩ := bind_eq_ok h
        rw [plain, hvalue]
        cases value <;> cases h <;> rfl
      · exact hown
  | .list tag nodes, c, h => by
    rw [content] at h
    split at h
    · cases h
    · obtain ⟨cs, hitems, h⟩ := bind_eq_ok h
      cases h
      rw [plain, plainItems_of_contents hitems]
  | .map tag pairs, c, h => by
    rw [content] at h
    split at h
    · cases h
    · obtain ⟨cs, hpairs, h⟩ := bind_eq_ok h
      cases h
      rw [plain, plainPairs_of_contents hpairs]
  | .unreadable, c, h => by cases h
  | .broken, c, h => by cases h

/-- The induction is on the items. -/
theorem plainItems_of_contents {depth : Nat} : ∀ {nodes : List Node} {cs : List Content},
    itemContents .json depth nodes = .ok cs → cs = plainItems nodes
  | [], cs, h => by
    cases h
    rfl
  | node :: rest, cs, h => by
    rw [itemContents] at h
    obtain ⟨first, hfirst, h⟩ := bind_eq_ok h
    obtain ⟨others, hrest, h⟩ := bind_eq_ok h
    cases h
    rw [plainItems, ← plain_of_content hfirst, ← plainItems_of_contents hrest]

/-- The induction is on the entries. -/
theorem plainPairs_of_contents {depth : Nat} :
    ∀ {pairs : List (Node × Node)} {cs : List (Content × Content)},
      entryContents .json depth pairs = .ok cs → cs = plainPairs pairs
  | [], cs, h => by
    cases h
    rfl
  | (key, value) :: rest, cs, h => by
    rw [entryContents] at h
    obtain ⟨first, hkey, h⟩ := bind_eq_ok h
    obtain ⟨second, hvalue, h⟩ := bind_eq_ok h
    obtain ⟨others, hrest, h⟩ := bind_eq_ok h
    cases h
    rw [plainPairs, ← plain_of_content hkey, ← plain_of_content hvalue,
      ← plainPairs_of_contents hrest]

end

end Node

end Scaffold
