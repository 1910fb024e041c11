import Scaffold.Decimal.Read
import Scaffold.Document.Format

/-! # Plain scalars

  A scalar that is written without quotes is a null, a truth value or a number
  if it looks like one, and a text otherwise.

  - `Scalar.ofPlain`: the value of a plain scalar.
-/

namespace Scaffold

/-! ### Words -/

/-- The spellings of null, beside the empty text. -/
def nullWords : List String := ["null", "Null", "NULL", "~"]

/-- The truth value of a word. -/
def boolWord? (s : String) : Option Bool :=
  if s ∈ ["true", "True", "TRUE"] then some true
  else if s ∈ ["false", "False", "FALSE"] then some false
  else none

/-! ### Whole numbers -/

/-- The digit that a character is in a base. -/
def digit? (base : Nat) (c : Char) : Option Nat :=
  let d :=
    if '0' ≤ c ∧ c ≤ '9' then c.toNat - 48
    else if 'a' ≤ c ∧ c ≤ 'z' then c.toNat - 87
    else if 'A' ≤ c ∧ c ≤ 'Z' then c.toNat - 55
    else base
  if d < base then some d else none

/-- The number of at least one digit in a base. -/
def inBase? (base : Nat) (cs : List Char) : Option Nat :=
  if cs.isEmpty then none
  else cs.foldl (fun acc c => do return (← acc) * base + (← digit? base c)) (some 0)

/-- Digits with a leading zero, which are a text and no number. -/
def isZeroPadded (cs : List Char) : Bool :=
  let digits := match cs with
    | '-' :: rest => rest
    | '+' :: rest => rest
    | _ => cs
  match digits with
  | '0' :: d :: rest => (d :: rest).all Char.isDigit
  | _ => false

/-- The size of a whole number, in decimal or behind the mark of another base. -/
def magnitude? (cs : List Char) : Option Nat :=
  let marked := match cs with
    | '0' :: 'x' :: rest => inBase? 16 rest
    | '0' :: 'o' :: rest => inBase? 8 rest
    | '0' :: 'b' :: rest => inBase? 2 rest
    | _ => none
  match marked with
  | some n => some n
  | none => if isZeroPadded cs then none else inBase? 10 cs

/-- The whole number that a plain scalar is. -/
def wholeNumber? (cs : List Char) : Option Int :=
  match cs with
  | '+' :: rest => if isZeroPadded rest then none else (magnitude? rest).map Int.ofNat
  | '-' :: rest => (magnitude? rest).map fun n => -(n : Int)
  | _ => (magnitude? cs).map Int.ofNat

/-- A whole number by the width that it needs. -/
def Scalar.ofInt? (i : Int) : Option Scalar :=
  if -(Nat.pow 2 63 : Int) ≤ i ∧ i < (Nat.pow 2 64 : Nat) then some (.int i)
  else if -(Nat.pow 2 127 : Int) ≤ i ∧ i < (Nat.pow 2 128 : Nat) then some (.wide i)
  else none

/-- The whole number that a plain scalar is, by its width. -/
def intScalar? (s : String) : Option Scalar := (wholeNumber? s.toList).bind Scalar.ofInt?

/-! ### Floating-point numbers -/

/-- The floating-point number that a plain scalar is. -/
def floatWord? (s : String) : Option Float :=
  let positive := match s.toList with
    | '+' :: rest => rest
    | cs => cs
  if s.toList ≠ positive ∧ (positive.head? = some '+' ∨ positive.head? = some '-') then none
  else if String.ofList positive ∈ [".inf", ".Inf", ".INF"] then some (1.0 / 0.0)
  else if s ∈ ["-.inf", "-.Inf", "-.INF"] then some (-1.0 / 0.0)
  else if s ∈ [".nan", ".NaN", ".NAN"] then some (0.0 / 0.0)
  else match Decimal.float? positive with
    | some f => if f.isInf || f.isNaN then none else some f
    | none => none

/-! ### Plain scalars -/

/-- The value of a plain scalar. -/
def Scalar.ofPlain (s : String) : Scalar :=
  if s = "" ∨ s ∈ nullWords then .null
  else match boolWord? s with
    | some b => .bool b
    | none =>
      match intScalar? s with
      | some scalar => scalar
      | none =>
        if isZeroPadded s.toList then .text s
        else match floatWord? s with
          | some f => .float f
          | none => .text s

end Scaffold
