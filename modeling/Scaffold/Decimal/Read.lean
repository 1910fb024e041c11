import Scaffold.Decimal.Layout

/-! # Reading numbers

  Whole and floating-point numbers from text.
-/

namespace Scaffold.Decimal

/-! ### Digits -/

/-- The number of a run of decimal digits, which may be empty. -/
def digitsToNat (cs : List Char) : Nat := cs.foldl (fun acc c => acc * 10 + (c.toNat - 48)) 0

/-- The number of at least one decimal digit. -/
def natural? (cs : List Char) : Option Nat :=
  if !cs.isEmpty && cs.all Char.isDigit then some (digitsToNat cs) else none

/-- Splits a sign off; tells whether it is a minus. -/
def splitSign : List Char → Bool × List Char
  | '-' :: cs => (true, cs)
  | '+' :: cs => (false, cs)
  | cs => (false, cs)

/-- A whole number with an optional sign. -/
def integer? (cs : List Char) : Option Int :=
  let (negative, ds) := splitSign cs
  (natural? ds).map fun n => if negative then -(n : Int) else n

/-! ### Decimals -/

/-- A decimal with digits on at least one side of an optional point, and an optional exponent. -/
def unsigned? (cs : List Char) : Option Float := do
  let (whole, rest) := cs.span Char.isDigit
  let (fraction, rest) := match rest with
    | '.' :: after => after.span Char.isDigit
    | _ => ([], rest)
  if whole.isEmpty && fraction.isEmpty then none
  else
    let exponent : Int ← match rest with
      | [] => some 0
      | e :: after => if e = 'e' ∨ e = 'E' then integer? after else none
    return toFloat (digitsToNat (whole ++ fraction)) (exponent - fraction.length)

/-- A floating-point number with an optional sign; infinity and not-a-number go by their names. -/
def float? (cs : List Char) : Option Float :=
  let (negative, rest) := splitSign cs
  let word := String.ofList (rest.map Char.toLower)
  let size :=
    if word = "inf" ∨ word = "infinity" then some (1.0 / 0.0)
    else if word = "nan" then some (0.0 / 0.0)
    else unsigned? rest
  size.map fun f => if negative then -f else f

end Scaffold.Decimal
