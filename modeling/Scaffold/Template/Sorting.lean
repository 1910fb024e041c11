import Scaffold.Decimal.Read
import Scaffold.Template.Failure
import Scaffold.Template.Value
import Scaffold.Text.Split

/-! # Sorting values

  The order in which filters sort, the members that they sort by, and a sort
  that keeps equal items in their order.

  - `pathOf`: the member that a dotted path leads to.
  - `sortOrder`: texts by their letters unless case counts.
  - `sortStable`: sorting by an order that need not be consistent.
-/

namespace Scaffold.Template

open Value (ofText)

/-! ### Paths -/

/-- The member that a subscript names, or an undefined value. -/
def subscriptOf (v key : Value) : Outcome Value :=
  match v.item? key with
  | some found => .ok found
  | none => if v.isUndefined then refuse .undefinedValue else .ok .missing

/-- The member that a dotted path leads to. -/
def pathOf (v : Value) (path : String) : Outcome Value :=
  (Text.segments '.' path.toList).foldlM (fun v part =>
    match Decimal.natural? part with
    | some n => subscriptOf v (.int n)
    | none => subscriptOf v (ofText (String.ofList part))) v

/-- The member that a path leads to, or the default if it is undefined or there is no such path. -/
def pathOr (v : Value) (path : String) (other : Value) : Value :=
  match pathOf v path with
  | .ok found => if found.isUndefined then other else found
  | .error _ => other

/-! ### Order -/

/-- The order of sorting: texts by their letters unless case counts. -/
def sortOrder (caseSensitive : Bool) (a b : Value) : Ordering :=
  match a, b with
  | .text s _, .text t _ =>
    if caseSensitive then compare s t else compare s.toLower t.toLower
  | _, _ => a.compare b

/-- The order of two lists of keys: the first difference decides. A missing key is equal to any
other. -/
def keysOrder (caseSensitive : Bool) : List (Option Value) → List (Option Value) → Ordering
  | some a :: as, some b :: bs =>
    match sortOrder caseSensitive a b with
    | .eq => keysOrder caseSensitive as bs
    | other => other
  | _ :: as, _ :: bs => keysOrder caseSensitive as bs
  | _, _ => .eq

/-! ### Sorting -/

/-- Puts an item into a list whose greatest item comes first, in front of the first item that is
not greater. -/
def insertDown {α : Type} (less : α → α → Bool) (x : α) : List α → List α
  | [] => [x]
  | y :: rest => if less x y then y :: insertDown less x rest else x :: y :: rest

/-- Sorts by putting one item after the other in its place. -/
def sortByInsertion {α : Type} (less : α → α → Bool) (items : List α) : List α :=
  (items.foldl (fun sorted x => insertDown less x sorted) []).reverse

/-- The most items that are sorted by insertion. -/
def insertionLimit : Nat := 20

/-- Sorts; equal items keep their order. -/
def sortStable {α : Type} (order : α → α → Ordering) (items : List α) : List α :=
  if items.length ≤ insertionLimit then sortByInsertion (fun a b => order a b == .lt) items
  else items.mergeSort fun a b => order b a != .lt

/-- Sorts by keys, possibly the greatest first; items with equal keys keep their order. -/
def sortByKeys {α : Type} (caseSensitive reverse : Bool) (keyed : List (α × List (Option Value))) :
    List α :=
  (sortStable (fun a b =>
    if reverse then keysOrder caseSensitive b.2 a.2 else keysOrder caseSensitive a.2 b.2)
    keyed).map (·.1)

end Scaffold.Template
