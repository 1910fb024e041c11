import Scaffold.Json.Parser

/-! # The nodes of JSON

  In JSON the kind of every scalar shows, nothing is marked, and a key is a
  string. So are the nodes of every text, well-formed or not.

  - `Node.isPure`: the nodes that JSON has.
  - `isPure_parse`: the document of a text.
-/

namespace Scaffold

namespace Node

/-! ### Pure nodes -/

/-- Whether a node is a string, or the place of one that has no value. -/
def isString : Node → Bool
  | .scalar (.text _) | .unreadable | .broken => true
  | _ => false

mutual

/-- Whether a node shows the kinds of its scalars, has no marks, and has strings as its keys. -/
def isPure : Node → Bool
  | .scalar _ | .unreadable | .broken => true
  | .written .. => false
  | .list tag nodes => tag == .none && allPure nodes
  | .map tag pairs => tag == .none && allPairsPure pairs

/-- Whether items are pure. -/
def allPure : List Node → Bool
  | [] => true
  | node :: rest => node.isPure && allPure rest

/-- Whether keys are strings and what they stand for is pure. -/
def allPairsPure : List (Node × Node) → Bool
  | [] => true
  | (key, value) :: rest => key.isString && value.isPure && allPairsPure rest

end

variable {key value node : Node}

theorem isPure_of_isString (h : node.isString = true) : node.isPure = true := by
  cases node with
  | written | list | map => cases h
  | _ => rfl

theorem allPure_cons {rest : List Node} (h : node.isPure = true) (hrest : allPure rest = true) :
    allPure (node :: rest) = true := by
  rw [allPure, h, hrest]
  rfl

theorem allPairsPure_cons {rest : List (Node × Node)} (hkey : key.isString = true)
    (hvalue : value.isPure = true) (hrest : allPairsPure rest = true) :
    allPairsPure ((key, value) :: rest) = true := by
  rw [allPairsPure, hkey, hvalue, hrest]
  rfl

theorem allPairsPure_iff {pairs : List (Node × Node)} : allPairsPure pairs = true ↔
    ∀ e ∈ pairs, e.1.isString = true ∧ e.2.isPure = true := by
  induction pairs with
  | nil => simp [allPairsPure]
  | cons e rest ih => simp [allPairsPure, ih]

end Node

/-! ### Reading -/

namespace Json

open Node

theorem isString_string (cs : List Char) : (string cs).1.isString = true := by
  unfold string
  split
  · rfl
  · split <;> rfl

theorem isPure_number (cs : List Char) : (number cs).1.isPure = true := by
  unfold number
  split
  · rfl
  · split <;> rfl

mutual

/-- The recursion is on the fuel, also in what follows. -/
theorem isPure_value : ∀ (fuel : Nat) (cs : List Char), (value fuel cs).1.isPure = true
  | 0, _ => rfl
  | fuel + 1, cs => by
    rw [value]
    split
    · rfl
    · rfl
    · rfl
    · exact isPure_of_isString (isString_string _)
    · split
      · rfl
      · exact allPure_items fuel _
    · split
      · rfl
      · exact allPairsPure_members fuel _
    · exact isPure_number _

theorem allPure_items : ∀ (fuel : Nat) (cs : List Char), allPure (items fuel cs).1 = true
  | 0, _ => rfl
  | fuel + 1, cs => by
    have hvalue := isPure_value fuel cs
    rw [items]
    split
    · next hnode =>
      rw [hnode] at hvalue
      exact allPure_cons hvalue rfl
    · next hnode =>
      rw [hnode] at hvalue
      split
      · exact allPure_cons hvalue (allPure_items fuel _)
      · exact allPure_cons hvalue rfl
      · exact allPure_cons hvalue rfl

theorem allPairsPure_members : ∀ (fuel : Nat) (cs : List Char),
    allPairsPure (members fuel cs).1 = true
  | 0, _ => rfl
  | fuel + 1, cs => by
    rw [members]
    split
    · next body _ =>
      have hkey := isString_string body
      split
      · next hstring =>
        rw [hstring] at hkey
        exact allPairsPure_cons hkey rfl rfl
      · next hstring =>
        rw [hstring] at hkey
        split
        · next after _ =>
          have hvalue := isPure_value fuel after
          split
          · next hnode =>
            rw [hnode] at hvalue
            exact allPairsPure_cons hkey hvalue rfl
          · next hnode =>
            rw [hnode] at hvalue
            split
            · exact allPairsPure_cons hkey hvalue (allPairsPure_members fuel _)
            · exact allPairsPure_cons hkey hvalue rfl
            · exact allPairsPure_cons hkey hvalue rfl
        · exact allPairsPure_cons hkey rfl rfl
    · rfl

end

/-- The document of a text has nothing but the nodes of JSON. -/
theorem isPure_parse (s : String) : (parse s).root.isPure = true := by
  have hvalue := isPure_value (2 * s.length + 2) s.toList
  unfold parse
  split
  · next h => rwa [h] at hvalue
  · next h => rwa [h] at hvalue

end Json

end Scaffold
