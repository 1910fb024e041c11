import Scaffold.Decimal.Shortest

/-! # Layout of decimals

  How a floating-point number is written once its digits are chosen: where
  positional notation ends, and how an exponent looks.
-/

namespace Scaffold.Decimal

/-! ### Layouts -/

/-- The decisions of a number format. -/
structure Layout where
  /-- Numbers whose leading digit has at least this exponent are written positionally. -/
  least : Option Int
  /-- Numbers whose leading digit has at most this exponent are written positionally. -/
  greatest : Option Int
  /-- What stands between digits and a positive exponent. -/
  mark : String
  /-- The choice between equally close digits. -/
  tie : Tie

/-- Digits around a decimal point, with at least one digit on both sides. -/
def positional (d : Decimal) : String :=
  let ds := d.digits
  let point := (ds.length : Int) + d.exponent
  if 0 ≤ d.exponent then
    String.ofList (ds ++ List.replicate d.exponent.toNat '0') ++ ".0"
  else if 0 < point then
    String.ofList (ds.take point.toNat) ++ "." ++ String.ofList (ds.drop point.toNat)
  else "0." ++ String.ofList (List.replicate (-point).toNat '0' ++ ds)

/-- One digit, a point and the rest, if there is a rest. -/
def mantissa (ds : List Char) : String :=
  match ds with
  | [] => ""
  | [d] => d.toString
  | d :: rest => String.ofList (d :: '.' :: rest)

/-- The size of a finite number in a layout. -/
def Layout.writeSize (layout : Layout) (d : Decimal) : String :=
  let lead := (d.digits.length : Int) + d.exponent - 1
  let plain := d.significand = 0 ||
    (layout.least.all (· ≤ lead) && layout.greatest.all (lead ≤ ·))
  if plain then positional d
  else mantissa d.digits ++
    (if lead < 0 then "e-" ++ toString lead.natAbs else layout.mark ++ toString lead.natAbs)

/-- A number in a layout. -/
def Layout.write (layout : Layout) (f : Float) : String :=
  if f.isNaN then "NaN"
  else
    let sign := if isNegative f then "-" else ""
    if f.isInf then sign ++ "inf" else sign ++ layout.writeSize (shortest layout.tie f)

/-! ### The layouts in use -/

/-- Rendered text: positional throughout. -/
def rendered : Layout := ⟨none, none, "e", .greater⟩

/-- Members of lists and maps: positional from `1e-4` to below `1e16`. -/
def member : Layout := ⟨some (-4), some 15, "e", .greater⟩

/-- JSON: positional from `1e-5` to below `1e16`, and a sign before a positive exponent. -/
def json : Layout := ⟨some (-5), some 15, "e+", .even⟩

/-! ### Reading -/

/-- The number nearest to `significand · 10 ^ exponent`. Far exponents are cut off first. -/
def toFloat (significand : Nat) (exponent : Int) : Float :=
  if significand = 0 then 0.0
  else
    let lead := ((Nat.toDigits 10 significand).length : Int) + exponent
    if 400 < lead then 1.0 / 0.0
    else if lead < -400 then 0.0
    else if 0 ≤ exponent then Float.ofScientific (significand * Nat.pow 10 exponent.toNat) false 0
    else Float.ofScientific significand true exponent.natAbs

end Scaffold.Decimal
