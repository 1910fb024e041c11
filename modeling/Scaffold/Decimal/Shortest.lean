/-! # Shortest decimals

  The shortest decimal that reads back as a given floating-point number, found
  by exact arithmetic on natural numbers.

  - `Binary`: a finite number as significand and power of two.
  - `Decimal`: a significand and a power of ten.
  - `shortest`: for 1, 2, … digits, the two neighbours on that decimal grid; the
    first grid with a neighbour in the rounding interval decides.
-/

namespace Scaffold.Decimal

/-! ### Binary numbers -/

/-- A positive number `significand · 2 ^ exponent`. -/
structure Binary where
  /-- The significand. -/
  significand : Nat
  /-- The power of two. -/
  exponent : Int
  deriving DecidableEq, Repr

/-- Whether the sign bit is set. -/
def isNegative (f : Float) : Bool := f.toBits >>> 63 == 1

/-- The least significand with all its bits in use: one bit and 52 more. -/
def fullSignificand : Nat := 4503599627370496

/-- The number of exponents. -/
def exponentCount : Nat := 2048

/-- The size of a finite number. -/
def Binary.ofFloat (f : Float) : Binary :=
  let bits := f.toBits.toNat
  let biased : Nat := bits / fullSignificand % exponentCount
  let fraction : Nat := bits % fullSignificand
  if biased = 0 then ⟨fraction, -1074⟩ else ⟨fraction + fullSignificand, (biased : Int) - 1075⟩

/-! ### Decimal numbers -/

end Decimal

/-- A number `significand · 10 ^ exponent`. -/
structure Decimal where
  /-- The significand. -/
  significand : Nat
  /-- The power of ten. -/
  exponent : Int
  deriving DecidableEq, Repr

namespace Decimal

/-- The digits of the significand. -/
def digits (d : Decimal) : List Char := Nat.toDigits 10 d.significand

/-- Moves zeros at the end of the significand into the exponent. -/
def dropZeros : Nat → Decimal → Decimal
  | 0, d => d
  | fuel + 1, d =>
    if d.significand % 10 = 0 ∧ d.significand ≠ 0 then
      dropZeros fuel ⟨d.significand / 10, d.exponent + 1⟩
    else d

/-! ### The rounding interval -/

/-- What rounds to a number, as multiples of a quarter of its unit. -/
structure Interval where
  /-- Lower end. -/
  low : Nat
  /-- The number itself. -/
  mid : Nat
  /-- Upper end. -/
  high : Nat
  /-- Whether the ends belong to it. -/
  closed : Bool

/-- The interval of a number; below a power of two the neighbour is closer. -/
def Binary.interval (b : Binary) : Interval :=
  let mid := 4 * b.significand
  let low := if b.significand = fullSignificand ∧ b.exponent ≠ -1074 then mid - 1 else mid - 2
  ⟨low, mid, mid + 2, b.significand % 2 = 0⟩

/-- The power of two or ten of an exponent as numerator and denominator. -/
def ratio (base : Nat) (exponent : Int) : Nat × Nat :=
  if 0 ≤ exponent then (Nat.pow base exponent.toNat, 1)
  else (1, Nat.pow base (-exponent).toNat)

/-- The exponent of the leading digit of a positive number. -/
def Binary.leading (b : Binary) : Int :=
  let (num, den) := ratio 2 b.exponent
  let n := b.significand * num
  if den ≤ n then ((Nat.toDigits 10 (n / den)).length : Int) - 1
  else
    let steps := ((List.range 330).find? fun j => den ≤ n * Nat.pow 10 j).getD 330
    Int.negOfNat steps

/-! ### The search -/

/-- Which of two equally close neighbours is taken. -/
inductive Tie where
  /-- The greater one. -/
  | greater
  /-- The one whose last digit is even. -/
  | even
  deriving DecidableEq, Repr

/-- The nearest point of the grid `10 ^ g` in the rounding interval, if there is one. -/
def onGrid (tie : Tie) (b : Binary) (g : Int) : Option Nat :=
  let i := b.interval
  let (tn, td) := ratio 2 (b.exponent - 2)
  let (gn, gd) := ratio 10 g
  -- a multiple `x` of the quarter unit and a grid point `t` compare as `x * scale` and `t * unit`
  let scale : Nat := tn * gd
  let unit : Nat := gn * td
  let t := i.mid * scale / unit
  let inside (t : Nat) : Bool :=
    let p := t * unit
    if i.closed then i.low * scale ≤ p && p ≤ i.high * scale
    else i.low * scale < p && p < i.high * scale
  let below := inside t
  let above := inside (t + 1)
  if below && above then
    let down := i.mid * scale - t * unit
    let up := (t + 1) * unit - i.mid * scale
    if down < up then some t
    else if up < down then some (t + 1)
    else match tie with
      | .greater => some (t + 1)
      | .even => if t % 2 = 0 then some t else some (t + 1)
  else if below then some t
  else if above then some (t + 1)
  else none

/-- The shortest decimal in the rounding interval of a positive number, tried with up to
seventeen digits. -/
def Binary.shortest (tie : Tie) (b : Binary) : Decimal :=
  let lead := b.leading
  let found := (List.range 17).findSome? fun (n : Nat) =>
    let g : Int := lead - n
    (onGrid tie b g).map fun t => (⟨t, g⟩ : Decimal)
  dropZeros 20 (found.getD ⟨b.significand, 0⟩)

/-- The shortest decimal of the size of a finite number. -/
def shortest (tie : Tie) (f : Float) : Decimal :=
  let b := Binary.ofFloat f
  if b.significand = 0 then ⟨0, 0⟩ else b.shortest tie

end Scaffold.Decimal
