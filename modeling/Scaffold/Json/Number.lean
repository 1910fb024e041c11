import Scaffold.Decimal.Layout
import Scaffold.Document.Format

/-! # Numbers of JSON

  A number is whole if it has neither fraction nor exponent and fits into a
  word. All other numbers are floating-point; of their digits those count that
  fit into a word, and a power of ten scales them afterwards.

  - `scan`: cuts a number off a text.
  - `Numeral.value?`: the value, unless it is too large.
-/

namespace Scaffold.Json

/-! ### Numerals -/

/-- The parts of a written number. -/
structure Numeral where
  /-- Whether a minus stands in front. -/
  negative : Bool
  /-- The digits before the point. -/
  whole : List Char
  /-- The digits behind the point, if there is one. -/
  fraction : Option (List Char)
  /-- The exponent, if there is one. -/
  exponent : Option Int

/-- The number of a run of decimal digits. -/
def naturalOf (ds : List Char) : Nat := ds.foldl (fun acc c => acc * 10 + (c.toNat - 48)) 0

/-- The digits before the point: one zero, or digits that do not start with a zero. -/
def scanWhole (cs : List Char) : Option (List Char × List Char) :=
  match cs.span Char.isDigit with
  | ([], _) => none
  | ('0' :: _ :: _, _) => none
  | found => some found

/-- The digits behind the point, if there is one. -/
def scanFraction (cs : List Char) : Option (Option (List Char) × List Char) :=
  match cs with
  | '.' :: rest =>
    match rest.span Char.isDigit with
    | ([], _) => none
    | (ds, after) => some (some ds, after)
  | _ => some (none, cs)

/-- The digits of an exponent. -/
def scanPower (negative : Bool) (cs : List Char) : Option (Option Int × List Char) :=
  match cs.span Char.isDigit with
  | ([], _) => none
  | (ds, after) =>
    some (some (if negative then -(naturalOf ds : Int) else naturalOf ds), after)

/-- The exponent, if there is one. -/
def scanExponent (cs : List Char) : Option (Option Int × List Char) :=
  match cs with
  | c :: rest =>
    if c = 'e' ∨ c = 'E' then
      match rest with
      | '-' :: after => scanPower true after
      | '+' :: after => scanPower false after
      | after => scanPower false after
    else some (none, cs)
  | [] => some (none, [])

/-- Cuts a number off a text. -/
def scan (cs : List Char) : Option (Numeral × List Char) := do
  let (negative, cs) := match cs with
    | '-' :: rest => (true, rest)
    | _ => (false, cs)
  let (whole, cs) ← scanWhole cs
  let (fraction, cs) ← scanFraction cs
  let (exponent, cs) ← scanExponent cs
  return (⟨negative, whole, fraction, exponent⟩, cs)

/-! ### Values -/

/-- The greatest number of a word. -/
def wordMax : Nat := 18446744073709551615

/-- The size of the least number of a word with a sign. -/
def signedLimit : Nat := 9223372036854775808

/-- Appends digits to a number while it fits into a word; the digits left over follow. -/
def absorb (n : Nat) : List Char → Nat × List Char
  | [] => (n, [])
  | d :: ds =>
    if n * 10 + (d.toNat - 48) ≤ wordMax then absorb (n * 10 + (d.toNat - 48)) ds
    else (n, d :: ds)

/-- The nearest number to `10 ^ k`. -/
def powerOfTen (k : Nat) : Float := Float.ofScientific 1 false k

/-- The greatest power of ten that is a number. -/
def powerLimit : Nat := 308

/-- A number scaled by a power of ten, unless it becomes too large. -/
def scaled (significand : Nat) (exponent : Int) : Option Float :=
  let f := Float.ofScientific significand false 0
  let k := exponent.natAbs
  if 0 ≤ exponent then
    if k ≤ powerLimit then
      let r := f * powerOfTen k
      if r.isInf then none else some r
    else if significand = 0 then some 0.0 else none
  else if k ≤ powerLimit then some (f / powerOfTen k)
  else if k ≤ 2 * powerLimit then some (f / powerOfTen powerLimit / powerOfTen (k - powerLimit))
  else some 0.0

/-- The whole number with a sign. Minus zero and what is too small are floating-point. -/
def signedWord (negative : Bool) (n : Nat) : Scalar :=
  if !negative then .int n
  else if 0 < n ∧ n ≤ signedLimit then .int (-(n : Int))
  else .float (-(Float.ofScientific n false 0))

/-- The value of a written number, unless it is too large. -/
def Numeral.value? (n : Numeral) : Option Scalar :=
  let (significand, left) := absorb 0 n.whole
  if left.isEmpty && n.fraction.isNone && n.exponent.isNone then
    some (signedWord n.negative significand)
  else
    let ds := n.fraction.getD []
    let (significand, dropped) := absorb significand ds
    let point : Int := left.length - ((ds.length : Int) - dropped.length)
    (scaled significand (point + n.exponent.getD 0)).map fun f =>
      .float (if n.negative then -f else f)

end Scaffold.Json
