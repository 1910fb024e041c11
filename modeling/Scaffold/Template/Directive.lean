import Scaffold.Decimal.Read
import Scaffold.Template.Failure
import Scaffold.Template.Value

/-! # Formatting directives

  A text with directives such as `%s`, `%5d` or `%.2f`, each of which is
  replaced by a value: `%`, possibly a name in parentheses, flags, a width, a
  point and a precision, and a letter that tells the conversion.

  - `Directive.read?`: the directive at the start of a text.
  - `Directive.write`: its text for a value.
  - `formatText`: a text with all its directives replaced.
-/

namespace Scaffold.Template

open Value (ofText)

/-! ### Directives -/

/-- A width or precision. -/
inductive Size where
  /-- None is given. -/
  | free
  /-- A number. -/
  | fixed (n : Nat)
  /-- The next value is the number. -/
  | fromValue
  deriving DecidableEq, Repr

/-- A directive. -/
structure Directive where
  /-- The name of the value, if it is taken by name. -/
  key : Option String
  /-- The flags. -/
  flags : List Char
  /-- The least number of characters. -/
  width : Size
  /-- The number of decimal places, of digits or of characters. -/
  precision : Size
  /-- The letter of the conversion. -/
  letter : Char

namespace Directive

/-- Whether a flag is set. -/
def has (d : Directive) (flag : Char) : Bool := d.flags.contains flag

/-- Reads a width or precision. -/
def readSize (cs : List Char) : Size × List Char :=
  match cs with
  | '*' :: rest => (.fromValue, rest)
  | _ =>
    match cs.span Char.isDigit with
    | ([], rest) => (.free, rest)
    | (digits, rest) => (.fixed (Decimal.digitsToNat digits), rest)

/-- The directive at the start of a text, behind its percent sign, and what follows. -/
def read? (cs : List Char) : Option (Directive × List Char) :=
  let named : Option (Option String × List Char) := match cs with
    | '(' :: rest =>
      match rest.span (· != ')') with
      | (name, ')' :: behind) => some (some (String.ofList name), behind)
      | _ => none
    | _ => some (none, cs)
  named.bind fun (key, cs) =>
    let (flags, cs) := cs.span fun c => ['-', '+', ' ', '#', '0'].contains c
    let (width, cs) := readSize cs
    let (precision, cs) := match cs with
      | '.' :: rest =>
        match readSize rest with
        | (.free, rest) => (Size.fixed 0, rest)
        | found => found
      | _ => (Size.free, cs)
    match cs.dropWhile fun c => ['h', 'l', 'L'].contains c with
    | letter :: rest => some (⟨key, flags, width, precision, letter⟩, rest)
    | [] => none

/-! ### Padding -/

/-- A text padded to a width; zeros go between sign and digits. -/
def padded (d : Directive) (width : Nat) (numeric : Bool) (sign digits : List Char) : List Char :=
  let gap := width - (sign.length + digits.length)
  if d.has '-' then sign ++ digits ++ List.replicate gap ' '
  else if d.has '0' && numeric then sign ++ List.replicate gap '0' ++ digits
  else List.replicate gap ' ' ++ sign ++ digits

/-- The sign of a number. -/
def signOf (d : Directive) (negative : Bool) : List Char :=
  if negative then ['-'] else if d.has '+' then ['+'] else if d.has ' ' then [' '] else []

/-! ### Whole numbers -/

/-- The whole number that a value is converted from. -/
def wholeOf (v : Value) (truncating : Bool) : Outcome Int :=
  match v with
  | .bool b => .ok (if b then 1 else 0)
  | .int i => .ok i
  | .wide n => .ok n
  | .float f =>
    if truncating && !f.isNaN && !f.isInf then .ok (Value.wholePart f)
    else refuse .invalidOperation
  | _ => refuse .invalidOperation

/-- A whole number in a base, with at least as many digits as the precision asks for. -/
def wholeDigits (base : Nat) (precision : Option Nat) (i : Int) : List Char :=
  let digits := Nat.toDigits base i.natAbs
  List.replicate (precision.getD 1 - digits.length) '0' ++ digits

/-! ### Floating-point numbers -/

/-- A quotient rounded to the nearest whole number, of two equally near ones to the even one. -/
def roundedQuotient (num den : Nat) : Nat :=
  let q := num / den
  let twice := 2 * (num % den)
  if twice < den ∨ (twice = den ∧ q % 2 = 0) then q else q + 1

/-- The size of a finite number times a power of ten, rounded. -/
def scaled (f : Float) (power : Int) : Nat :=
  let b := Decimal.Binary.ofFloat f
  let (tn, td) := Decimal.ratio 2 b.exponent
  let (gn, gd) := Decimal.ratio 10 power
  roundedQuotient (b.significand * tn * gn) (td * gd)

/-- Digits with a point before the last `places` of them. -/
def withPoint (places : Nat) (keepPoint : Bool) (n : Nat) : List Char :=
  let digits := Nat.toDigits 10 n
  let digits := List.replicate (places + 1 - digits.length) '0' ++ digits
  let whole := digits.length - places
  digits.take whole ++
    if places = 0 then (if keepPoint then ['.'] else []) else '.' :: digits.drop whole

/-- A size with a number of decimal places. -/
def fixedText (f : Float) (places : Nat) (keepPoint : Bool) : List Char :=
  withPoint places keepPoint (scaled f places)

/-- The digits and the exponent of a size with a number of decimal places behind the first digit. -/
def scientific (f : Float) (places : Nat) : Nat × Int :=
  let b := Decimal.Binary.ofFloat f
  if b.significand = 0 then (0, 0)
  else
    let lead := b.leading
    let n := scaled f (places - lead)
    if n < Nat.pow 10 (places + 1) then (n, lead) else (n / 10, lead + 1)

/-- An exponent with a sign and at least two digits. -/
def exponentText (mark : Char) (e : Int) : List Char :=
  let digits := Nat.toDigits 10 e.natAbs
  mark :: (if e < 0 then '-' else '+') :: (List.replicate (2 - digits.length) '0' ++ digits)

/-- A size as one digit, decimal places and an exponent. -/
def scientificText (f : Float) (places : Nat) (keepPoint : Bool) (mark : Char) : List Char :=
  let (n, e) := scientific f places
  withPoint places keepPoint n ++ exponentText mark e

/-- Removes zeros at the end of decimal places, and a point that nothing follows. -/
def withoutZeros (cs : List Char) : List Char :=
  if cs.contains '.' then
    let kept := (cs.reverse.dropWhile (· == '0')).reverse
    if kept.getLast? = some '.' then kept.dropLast else kept
  else cs

/-- A size with a number of significant digits, with an exponent if it is far from one. -/
def generalText (f : Float) (digits : Nat) (keepZeros : Bool) (mark : Char) : List Char :=
  let digits := max 1 digits
  let (n, e) := scientific f (digits - 1)
  let tidy (cs : List Char) : List Char := if keepZeros then cs else withoutZeros cs
  if -4 ≤ e ∧ e < digits then
    tidy (fixedText f ((digits : Int) - 1 - e).toNat keepZeros)
  else tidy (withPoint (digits - 1) keepZeros n) ++ exponentText mark e

/-- The size of a floating-point number under a conversion. -/
def floatText (d : Directive) (precision : Nat) (f : Float) : List Char :=
  let upper := d.letter.isUpper
  let named (s : String) : List Char := if upper then s.toUpper.toList else s.toList
  let mark := if upper then 'E' else 'e'
  if f.isNaN then named "nan"
  else if f.isInf then named "inf"
  else match d.letter.toLower with
    | 'f' => fixedText f precision (d.has '#')
    | 'e' => scientificText f precision (d.has '#') mark
    | _ => generalText f precision (d.has '#') mark

/-! ### Conversions -/

/-- The text of a value, cut to the precision. -/
def cutText (precision : Option Nat) (s : String) : List Char :=
  match precision with
  | some n => s.toList.take n
  | none => s.toList

/-- Characters beyond ASCII as escapes. -/
def asciiText (s : String) : String :=
  String.ofList (s.toList.flatMap fun c =>
    let digits := Nat.toDigits 16 c.toNat
    let filled (n : Nat) : List Char := List.replicate (n - digits.length) '0' ++ digits
    if c.toNat < 128 then [c]
    else if c.toNat < 256 then "\\x".toList ++ filled 2
    else if c.toNat < 65536 then "\\u".toList ++ filled 4
    else "\\U".toList ++ filled 8)

/-- The character that a value stands for: a text of one, or a code point. -/
def characterOf (v : Value) : Outcome Char :=
  match v with
  | .text s _ =>
    match s.toList with
    | [c] => .ok c
    | _ => refuse .invalidOperation
  | v =>
    match v.whole? with
    | some i =>
      if 0 ≤ i ∧ i.toNat.isValidChar then .ok (Char.ofNat i.toNat) else refuse .invalidOperation
    | none => refuse .invalidOperation

/-- The text of a value under a directive. -/
def write (d : Directive) (width : Nat) (precision : Option Nat) (v : Value) :
    Outcome (List Char) := do
  match d.letter with
  | 's' => return d.padded width false [] (cutText precision v.render)
  | 'r' => return d.padded width false [] (cutText precision v.member)
  | 'a' => return d.padded width false [] (cutText precision (asciiText v.member))
  | 'c' => return d.padded width false [] [← characterOf v]
  | 'd' | 'i' | 'u' =>
    let i ← wholeOf v true
    return d.padded width true (d.signOf (i < 0)) (wholeDigits 10 precision i)
  | 'o' | 'x' | 'X' =>
    let i ← wholeOf v false
    let base := if d.letter = 'o' then 8 else 16
    let digits := wholeDigits base precision i
    let digits := if d.letter = 'X' then digits.map Char.toUpper else digits
    let mark := if d.has '#' then ['0', d.letter] else []
    return d.padded width true (d.signOf (i < 0) ++ mark) digits
  | 'e' | 'E' | 'f' | 'F' | 'g' | 'G' =>
    match v.float? true with
    | some f =>
      return d.padded width (!f.isNaN && !f.isInf) (d.signOf (Decimal.isNegative f && !f.isNaN))
        (d.floatText (precision.getD 6) f)
    | none => refuse .invalidOperation
  | _ => refuse .invalidOperation

end Directive

/-! ### Whole texts -/

/-- The values that directives take: by position, or by name. -/
structure FormatValues where
  /-- Those by position that are left. -/
  positions : List Value
  /-- Those by name. -/
  named : List (Value × Value)

/-- The next value by position. -/
def FormatValues.next (vs : FormatValues) : Outcome (Value × FormatValues) :=
  match vs.positions with
  | v :: rest => .ok (v, { vs with positions := rest })
  | [] => refuse .invalidOperation

/-- The number of a width or precision. -/
def FormatValues.size (vs : FormatValues) : Size → Outcome (Option Int × FormatValues)
  | .free => .ok (none, vs)
  | .fixed n => .ok (some n, vs)
  | .fromValue => do
    let (v, vs) ← vs.next
    match v.int? with
    | some i => return (some i, vs)
    | none => refuse .invalidOperation

/-- Replaces the directives of a text. Every one takes at least a character, so that the length of
the text bounds the number of steps. -/
def formatChars : Nat → List Char → FormatValues → Outcome (List Char × FormatValues)
  | 0, _, vs => .ok ([], vs)
  | _ + 1, [], vs => .ok ([], vs)
  | fuel + 1, '%' :: rest, vs => do
    match Directive.read? rest with
    | none => refuse .invalidOperation
    | some (d, behind) =>
      if d.letter = '%' then
        let (others, vs) ← formatChars fuel behind vs
        return ('%' :: others, vs)
      else
        let (width, vs) ← vs.size d.width
        let (precision, vs) ← vs.size d.precision
        let (v, vs) ← match d.key with
          | some name =>
            match Value.getField vs.named name with
            | some v => pure (v, vs)
            | none => refuse .invalidOperation
          | none => vs.next
        let width := width.getD 0
        let d := if width < 0 then { d with flags := '-' :: d.flags } else d
        let text ← d.write width.natAbs (precision.map Int.toNat) v
        let (others, vs) ← formatChars fuel behind vs
        return (text ++ others, vs)
  | fuel + 1, c :: rest, vs => do
    let (others, vs) ← formatChars fuel rest vs
    return (c :: others, vs)

/-- A text with all its directives replaced. No value by position may be left over. -/
def formatText (s : String) (values : FormatValues) : Outcome String := do
  let cs := s.toList
  let (written, left) ← formatChars (cs.length + 1) cs values
  if left.positions.isEmpty then return String.ofList written else refuse .invalidOperation

end Scaffold.Template
