import Scaffold.Document.Node
import Scaffold.Json.Number

/-! # Reading JSON

  A text is read into nodes up to the first place where it breaks the rules.

  - `string`: the body of a string.
  - `value`: one value; its rest is missing if the text is broken.
  - `parse`: a whole text.
-/

namespace Scaffold.Json

/-! ### Blanks -/

/-- The blanks of JSON. -/
def isSpace (c : Char) : Bool := c == ' ' || c == '\n' || c == '\t' || c == '\r'

/-- The text behind leading blanks. -/
def skipSpace (cs : List Char) : List Char := cs.dropWhile isSpace

/-! ### Strings -/

/-- The value of a hexadecimal digit. -/
def hexValue? (c : Char) : Option Nat := digit? 16 c

/-- The value of four hexadecimal digits. -/
def fourDigits? : List Char → Option (Nat × List Char)
  | a :: b :: c :: d :: rest => do
    let w ← hexValue? a
    let x ← hexValue? b
    let y ← hexValue? c
    let z ← hexValue? d
    return (((w * 16 + x) * 16 + y) * 16 + z, rest)
  | _ => none

/-- What one escape of a letter stands for. -/
def escaped? : Char → Option Char
  | '"' => some '"'
  | '\\' => some '\\'
  | '/' => some '/'
  | 'b' => some '\x08'
  | 'f' => some '\x0c'
  | 'n' => some '\n'
  | 'r' => some '\r'
  | 't' => some '\t'
  | _ => none

/-- One unit of a string: a character, or a number of an escape, which may be half of a pair. -/
inductive Unit where
  /-- A character. -/
  | char (c : Char)
  /-- A number written in hexadecimal digits. -/
  | number (n : Nat)

/-- Cuts a string into units, up to the closing quote. -/
def units : List Char → Option (List Unit × List Char)
  | [] => none
  | '"' :: rest => some ([], rest)
  | '\\' :: 'u' :: a :: b :: c :: d :: rest => do
    let (n, _) ← fourDigits? [a, b, c, d]
    let (us, after) ← units rest
    return (.number n :: us, after)
  | '\\' :: e :: rest => do
    let c ← escaped? e
    let (us, after) ← units rest
    return (.char c :: us, after)
  | c :: rest =>
    if c = '\\' ∨ c.toNat < 32 then none
    else do
      let (us, after) ← units rest
      return (.char c :: us, after)

/-- The characters of units, unless half of a pair stands alone. -/
def characters? : List Unit → Option (List Char)
  | [] => some []
  | .char c :: rest => (characters? rest).map (c :: ·)
  | .number n :: rest =>
    if 0xDC00 ≤ n ∧ n ≤ 0xDFFF then none
    else if 0xD800 ≤ n ∧ n ≤ 0xDBFF then
      match rest with
      | .number m :: rest =>
        if 0xDC00 ≤ m ∧ m ≤ 0xDFFF then
          (characters? rest).map
            (Char.ofNat (0x10000 + (n - 0xD800) * 0x400 + (m - 0xDC00)) :: ·)
        else none
      | _ => none
    else (characters? rest).map (Char.ofNat n :: ·)

/-- A string behind its opening quote, and what follows it. -/
def string (cs : List Char) : Node × Option (List Char) :=
  match units cs with
  | none => (.broken, none)
  | some (us, rest) =>
    match characters? us with
    | some text => (.scalar (.text (String.ofList text)), some rest)
    | none => (.unreadable, some rest)

/-! ### Values -/

/-- A number, and what follows it. -/
def number (cs : List Char) : Node × Option (List Char) :=
  match scan cs with
  | none => (.broken, none)
  | some (numeral, rest) =>
    match numeral.value? with
    | some value => (.scalar value, some rest)
    | none => (.unreadable, some rest)

mutual

/-- One value, and what follows it. -/
def value : Nat → List Char → Node × Option (List Char)
  | 0, _ => (.broken, none)
  | fuel + 1, cs =>
    match skipSpace cs with
    | 'n' :: 'u' :: 'l' :: 'l' :: rest => (.scalar .null, some rest)
    | 't' :: 'r' :: 'u' :: 'e' :: rest => (.scalar (.bool true), some rest)
    | 'f' :: 'a' :: 'l' :: 's' :: 'e' :: rest => (.scalar (.bool false), some rest)
    | '"' :: rest => string rest
    | '[' :: rest =>
      match skipSpace rest with
      | ']' :: after => (.list .none [], some after)
      | _ =>
        let (nodes, after) := items fuel rest
        (.list .none nodes, after)
    | '\x7b' :: rest =>
      match skipSpace rest with
      | '\x7d' :: after => (.map .none [], some after)
      | _ =>
        let (pairs, after) := members fuel rest
        (.map .none pairs, after)
    | other => number other

/-- The items of a list up to its closing bracket. -/
def items : Nat → List Char → List Node × Option (List Char)
  | 0, _ => ([.broken], none)
  | fuel + 1, cs =>
    match value fuel cs with
    | (node, none) => ([node], none)
    | (node, some rest) =>
      match skipSpace rest with
      | ',' :: after =>
        let (nodes, final) := items fuel after
        (node :: nodes, final)
      | ']' :: after => ([node], some after)
      | _ => ([node, .broken], none)

/-- The members of a map up to its closing bracket. -/
def members : Nat → List Char → List (Node × Node) × Option (List Char)
  | 0, _ => ([(.broken, .broken)], none)
  | fuel + 1, cs =>
    match skipSpace cs with
    | '"' :: body =>
      match string body with
      | (key, none) => ([(key, .broken)], none)
      | (key, some rest) =>
        match skipSpace rest with
        | ':' :: after =>
          match value fuel after with
          | (node, none) => ([(key, node)], none)
          | (node, some rest) =>
            match skipSpace rest with
            | ',' :: after =>
              let (pairs, final) := members fuel after
              ((key, node) :: pairs, final)
            | '\x7d' :: after => ([(key, node)], some after)
            | _ => ([(key, node), (.broken, .broken)], none)
        | _ => ([(key, .broken)], none)
    | _ => ([(.broken, .broken)], none)

end

/-- A whole text. -/
def parse (s : String) : Document :=
  match value (2 * s.length + 2) s.toList with
  | (root, some rest) => ⟨root, (skipSpace rest).isEmpty⟩
  | (root, none) => ⟨root, false⟩

end Scaffold.Json
