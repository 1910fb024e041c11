import Scaffold.Template.Failure
import Scaffold.Template.Value

/-! # Operators of the template language

  Arithmetic, containment, subscripts and slices. Whole numbers are exact as
  long as they fit 128 bits; beyond that an operation is refused.
-/

namespace Scaffold.Template

open Value (ofText)

/-! ### Arithmetic -/

/-- An operator between two operands. -/
inductive Operator where
  | add | sub | mul | div | floorDiv | rem | pow | concat
  deriving DecidableEq, Repr

/-- A whole number, unless it is out of range. -/
def checkedInt (i : Int) : Outcome Value :=
  if Value.intMin ≤ i ∧ i < Value.intEnd then .ok (.int i) else refuse .invalidOperation

/-- Quotient with a remainder that is never negative. -/
def floorDivInts (a b : Int) : Outcome Value :=
  if b = 0 then refuse .invalidOperation else checkedInt (a.ediv b)

/-- Remainder that is never negative. -/
def remInts (a b : Int) : Outcome Value :=
  if b = 0 then refuse .invalidOperation else checkedInt (a.emod b)

/-- The power by repeated multiplication that gives up out of range. -/
def checkedPow (a : Int) : Nat → Option Int
  | 0 => some 1
  | n + 1 =>
    match checkedPow a n with
    | some p => if Value.intMin ≤ p * a ∧ p * a < Value.intEnd then some (p * a) else none
    | none => none

/-- What every exponent stays below. -/
def exponentEnd : Int := 4294967296

/-- The power of whole numbers. -/
def powInts (a b : Int) : Outcome Value :=
  if b < 0 ∨ exponentEnd ≤ b then refuse .invalidOperation
  else if a = 0 ∨ a = 1 then .ok (.int (if b = 0 then 1 else a))
  else if a = -1 then .ok (.int (if b % 2 = 0 then 1 else -1))
  else if 128 ≤ b then refuse .invalidOperation
  else match checkedPow a b.toNat with
    | some p => .ok (.int p)
    | none => refuse .invalidOperation

/-- The integer part of a floating-point number. -/
def truncFloat (f : Float) : Float := if f < 0.0 then f.ceil else f.floor

/-- Remainder with the sign of the dividend. -/
def remFloats (a b : Float) : Float :=
  if b.isInf && !a.isInf && !a.isNaN then a
  else if b == 0.0 || a.isInf || a.isNaN || b.isNaN then 0.0 / 0.0
  else
    let x := Decimal.Binary.ofFloat a
    let y := Decimal.Binary.ofFloat b
    let e := min x.exponent y.exponent
    let m := x.significand * Nat.pow 2 (x.exponent - e).toNat
    let n := y.significand * Nat.pow 2 (y.exponent - e).toNat
    let r := Float.scaleB (Float.ofNat (m % n)) e
    if Decimal.isNegative a then -r else r

/-- Quotient of floating-point numbers with a remainder that is never negative. -/
def floorDivFloats (a b : Float) : Float :=
  let q := truncFloat (a / b)
  if remFloats a b < 0.0 then (if 0.0 < b then q - 1.0 else q + 1.0) else q

/-- A text a number of times. -/
def repeatText (s : String) (n : Nat) : String := n.repeat (· ++ s) ""

/-- What every count stays below. -/
def countLimit : Int := 18446744073709551616

/-- The greatest length that repetition can reach. -/
def repeatLimit : Nat := 100000000

/-- How often something of a length is repeated. -/
def times (length : Nat) (v : Value) : Outcome Nat :=
  match v.int? with
  | some i =>
    if 0 ≤ i ∧ i < countLimit ∧ length * i.toNat ≤ repeatLimit then .ok i.toNat
    else refuse .invalidOperation
  | none => refuse .invalidOperation

/-- How the items of two lists one behind the other come about. -/
def joinedForm (a b : Form) : Form :=
  if a = .failing ∨ b = .failing then .failing
  else if a.isCounted && b.isCounted then .counted
  else .uncounted

/-- The sum of two values: numbers, texts or lists. -/
def addValues (a b : Value) : Outcome Value :=
  match a, b with
  | .list xs form _, .list ys form' _ => .ok (.list (xs ++ ys) (joinedForm form form') 0)
  | _, _ =>
    match Value.pair? true a b with
    | some (.ints i j) => checkedInt (i + j)
    | some (.floats f g) => .ok (.float (f + g))
    | some (.texts s t) => .ok (ofText (s ++ t))
    | none => refuse .invalidOperation

/-- The product of two values: numbers, or a text or list and a count. -/
def mulValues (a b : Value) : Outcome Value :=
  match a, b with
  | .text _ _, .text _ _ => refuse .invalidOperation
  | .text s _, n | n, .text s _ => do return ofText (repeatText s (← times s.utf8ByteSize n))
  | .list xs form _, n | n, .list xs form _ =>
    if n.kind = .number && form.isCounted then do
      return .ofCounted (List.replicate (← times xs.length n) xs).flatten
    else refuse .invalidOperation
  | _, _ =>
    match Value.pair? true a b with
    | some (.ints i j) => checkedInt (i * j)
    | some (.floats f g) => .ok (.float (f * g))
    | _ => refuse .invalidOperation

/-- Applies an operation on numbers. -/
def onNumbers (ints : Int → Int → Outcome Value) (floats : Float → Float → Float)
    (a b : Value) : Outcome Value :=
  match Value.pair? true a b with
  | some (.ints i j) => ints i j
  | some (.floats f g) => .ok (.float (floats f g))
  | _ => refuse .invalidOperation

/-- Applies an operator. -/
def Operator.apply (op : Operator) (a b : Value) : Outcome Value :=
  match op with
  | .add => addValues a b
  | .sub => onNumbers (fun i j => checkedInt (i - j)) (· - ·) a b
  | .mul => mulValues a b
  | .div =>
    match a.float? true, b.float? true with
    | some f, some g => .ok (.float (f / g))
    | _, _ => refuse .invalidOperation
  | .floorDiv => onNumbers floorDivInts floorDivFloats a b
  | .rem => onNumbers remInts remFloats a b
  | .pow => onNumbers powInts Float.pow a b
  | .concat => .ok (ofText (a.render ++ b.render))

/-- The opposite of a number. -/
def negate (v : Value) : Outcome Value :=
  match v with
  | .float f => .ok (.float (-f))
  | .int i => checkedInt (-i)
  | .wide n =>
    if (n : Int) ≤ Value.intEnd then .ok (.int (-(n : Int))) else refuse .invalidOperation
  | _ => refuse .invalidOperation

/-! ### Comparisons -/

/-- A comparison between two operands. -/
inductive Comparison where
  | eq | ne | lt | le | gt | ge | isIn | notIn
  deriving DecidableEq, Repr

/-- Whether a text occurs in another one. -/
def occursIn (needle : List Char) : List Char → Bool
  | [] => needle.isEmpty
  | c :: rest => needle.isPrefixOf (c :: rest) || occursIn needle rest

/-- Whether a container holds a value. -/
def contains (container v : Value) : Outcome Bool :=
  match container with
  | .undefined _ => .ok false
  | .text s _ => .ok (occursIn v.render.toList s.toList)
  | .list items _ _ => .ok (items.any (·.same v))
  | .map _ _ _ => .ok (container.item? v).isSome
  | .function _ | .record _ | .loop _ => .ok false
  | _ => refuse .invalidOperation

/-- Applies a comparison. -/
def Comparison.apply (op : Comparison) (a b : Value) : Outcome Bool :=
  match op with
  | .eq => .ok (a.same b)
  | .ne => .ok (!a.same b)
  | .lt => .ok (a.compare b == .lt)
  | .le => .ok (a.compare b != .gt)
  | .gt => .ok (a.compare b == .gt)
  | .ge => .ok (a.compare b != .lt)
  | .isIn => contains b a
  | .notIn => do return !(← contains b a)

/-! ### Slices -/

/-- A bound of a slice. -/
def sliceBound (v : Value) : Outcome (Option Int) :=
  match v with
  | .none => .ok none
  | _ =>
    match v.word? with
    | some i => .ok (some i)
    | none => refuse .invalidOperation

/-- A position in a text or list: a negative one counts from the end, but not beyond the start. -/
def positionFrom (length : Nat) (i : Int) : Nat :=
  if i < 0 then (i + length).toNat else i.toNat

/-- The positions from `start` on, `step` apart. -/
def positionsForward (start step : Nat) : Nat → List Nat
  | 0 => []
  | count + 1 => start :: positionsForward (start + step) step count

/-- The positions from `start` down to `stop`, `step` apart. -/
def positionsBackward (start stop step : Nat) : Nat → List Nat
  | 0 => []
  | count + 1 =>
    if start < stop then []
    else start :: (if start < step then [] else positionsBackward (start - step) stop step count)

/-- The positions that a slice selects from `length` items. Forwards, the last position is the one
before `stop`; backwards, `stop` itself is left out, except for the first position. -/
def sliceIndices (length : Nat) (start stop : Option Int) (step : Int) : List Nat :=
  let width := step.natAbs
  if 0 < step then
    let first := (start.map (positionFrom length)).getD 0
    let last := min length ((stop.map (positionFrom length)).getD length)
    positionsForward first width ((last - first + (width - 1)) / width)
  else if length = 0 then []
  else
    let first := min (length - 1) ((start.map (positionFrom length)).getD (length - 1))
    let last := (stop.map (positionFrom length)).getD 0
    let count :=
      if last = 0 then (first + width) / width else (first - last + (width - 1)) / width
    positionsBackward first last width count

/-- The items at positions. -/
def itemsAt {α : Type} (items : List α) (positions : List Nat) : List α :=
  let stored := items.toArray
  positions.filterMap (stored[·]?)

/-- How the items of a part of a list come about. Backwards they have to be counted first. -/
def slicedForm (form : Form) (backwards : Bool) : Form :=
  match form with
  | .failing => .failing
  | .uncounted => if backwards then .counted else .uncounted
  | _ => .counted

/-- The part of a text or list between two positions. -/
def slice (v start stop step : Value) : Outcome Value := do
  if v.isUndefined then refuse .undefinedValue
  else
    let first ← sliceBound start
    let last ← sliceBound stop
    let width := (← sliceBound step).getD 1
    if width = 0 then refuse .invalidOperation
    else match v with
      | .none => return .ofList []
      | .text s _ =>
        let cs := s.toList
        return ofText (String.ofList (itemsAt cs (sliceIndices cs.length first last width)))
      | .list items form _ =>
        let part := itemsAt items (sliceIndices items.length first last width)
        return .list part (slicedForm form (width < 0)) 0
      | _ => refuse .invalidOperation

end Scaffold.Template
