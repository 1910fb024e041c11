/-! # Blank characters

  The characters that count as white space, and the removal of white space
  around a text. The set is that of the Unicode property White_Space.
-/

namespace Scaffold.Text

/-! ### The character class -/

/-- White space: the Unicode property White_Space. -/
def isBlank (c : Char) : Bool :=
  let n := c.toNat
  (9 ≤ n && n ≤ 13) || n == 32 || n == 133 || n == 160 || n == 5760 ||
  (8192 ≤ n && n ≤ 8202) || n == 8232 || n == 8233 || n == 8239 || n == 8287 || n == 12288

/-! ### Trimming -/

/-- Removes a trailing run of characters that satisfy `p`. -/
def dropTrailing (p : Char → Bool) (cs : List Char) : List Char :=
  (cs.reverse.dropWhile p).reverse

/-- Removes a leading and a trailing run of characters that satisfy `p`. -/
def dropAround (p : Char → Bool) (cs : List Char) : List Char :=
  dropTrailing p (cs.dropWhile p)

/-- Removes white space at both ends. -/
def trim (s : String) : String := String.ofList (dropAround isBlank s.toList)

end Scaffold.Text
