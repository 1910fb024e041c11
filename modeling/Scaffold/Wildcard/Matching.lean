import Scaffold.Wildcard.Token

/-! # Matching

  What a wildcard matches, byte by byte. A sequence of tokens is run over all
  readings at once: from the set of remainders before a token to the set of
  remainders behind it.
-/

namespace Scaffold.Wildcard

/-! ### Bytes -/

/-- The slash that separates names. -/
def slash : UInt8 := 47

/-- The bytes of a character. -/
def charBytes (c : Char) : List UInt8 := (String.singleton c).toUTF8.toList

/-- Whether a byte belongs to a range of a class. A character of several bytes adds each of
its bytes, and the range spans from the last byte of its start to the first of its end. -/
def inRange (range : Char × Char) (b : UInt8) : Bool :=
  let lo := charBytes range.1
  let hi := charBytes range.2
  if range.1 = range.2 then lo.contains b
  else
    lo.contains b || hi.contains b ||
      (match lo.getLast?, hi.head? with
        | some l, some h => l ≤ b && b ≤ h
        | _, _ => false)

/-- Whether `*` and `?` take a byte. -/
def free (crossing : Bool) (b : UInt8) : Bool := crossing || b != slash

/-- Every remainder behind a run of bytes that satisfy `p`. -/
def runs (p : UInt8 → Bool) : List UInt8 → List (List UInt8)
  | [] => [[]]
  | b :: rest => (b :: rest) :: (if p b then runs p rest else [])

/-- The remainder behind a fixed beginning. -/
def strip : List UInt8 → List UInt8 → List (List UInt8)
  | [], rest => [rest]
  | b :: bs, c :: rest => if b = c then strip bs rest else []
  | _ :: _, [] => []

/-- Every remainder that stands behind a slash. -/
def behindSlash (s : List UInt8) : List (List UInt8) :=
  (runs (fun _ => true) s).flatMap (strip [slash])

/-! ### Empty sequences -/

mutual

/-- Whether a token takes no part in a match: braces with nothing in any branch. -/
def Token.isVoid : Token → Bool
  | .alternates branches => allVoid branches
  | _ => false

/-- Whether every token of a sequence is void. -/
def seqVoid : List Token → Bool
  | [] => true
  | t :: ts => t.isVoid && seqVoid ts

/-- Whether every branch is void. -/
def allVoid : List (List Token) → Bool
  | [] => true
  | b :: bs => seqVoid b && allVoid bs

end

/-! ### Tokens and sequences -/

/-- Keeps one of equal remainders; remainders of one text are equal if their lengths are. -/
def distinct : List (List UInt8) → List (List UInt8)
  | [] => []
  | s :: rest => s :: (distinct rest).filter fun t => t.length != s.length

mutual

/-- The remainders behind a token. -/
def Token.rests (crossing : Bool) : Token → List UInt8 → List (List UInt8)
  | .literal c, s => strip (charBytes c) s
  | .any, s =>
    match s with
    | b :: rest => if free crossing b then [rest] else []
    | [] => []
  | .zeroOrMore, s => runs (free crossing) s
  | .recursivePrefix, s => s :: strip [slash] s ++ behindSlash s
  | .recursiveSuffix, s => (strip [slash] s).flatMap (runs fun _ => true)
  | .recursiveZeroOrMore, s =>
    (strip [slash] s).flatMap fun rest => rest :: behindSlash rest
  | .charClass negated ranges, s =>
    match s with
    | b :: rest => if ranges.any (inRange · b) != negated then [rest] else []
    | [] => []
  | .alternates branches, s =>
    if allVoid branches then [s] else branchRests crossing branches s

/-- The remainders behind any branch that is not void. -/
def branchRests (crossing : Bool) : List (List Token) → List UInt8 → List (List UInt8)
  | [], _ => []
  | b :: bs, s =>
    (if seqVoid b then [] else seqRests crossing b [s]) ++ branchRests crossing bs s

/-- The remainders behind a sequence of tokens, starting from any of several texts. -/
def seqRests (crossing : Bool) : List Token → List (List UInt8) → List (List UInt8)
  | [], texts => texts
  | t :: ts, texts => seqRests crossing ts (distinct (texts.flatMap (t.rests crossing)))

end

/-- Whether a sequence of tokens matches a whole text. -/
def seqMatches (crossing : Bool) (tokens : List Token) (s : List UInt8) : Bool :=
  (seqRests crossing tokens [s]).contains []

end Scaffold.Wildcard
