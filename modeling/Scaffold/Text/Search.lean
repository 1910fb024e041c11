import Scaffold.Text.Blank

/-! # Searching in text

  Splitting at and replacing of a part of a text. The empty text occurs before
  every character and at the end.
-/

namespace Scaffold.Text

/-! ### Splitting -/

/-- What stands before and behind the first occurrence of `part`. -/
def cut (part : List Char) : List Char → Option (List Char × List Char)
  | [] => if part.isEmpty then some ([], []) else none
  | c :: rest =>
    if part.isPrefixOf (c :: rest) then some ([], (c :: rest).drop part.length)
    else (cut part rest).map fun (before, behind) => (c :: before, behind)

/-- The pieces of a text after at most `cuts` cuts at a part that is not empty. -/
def pieces (part : List Char) : Nat → List Char → List (List Char)
  | 0, cs => [cs]
  | cuts + 1, cs =>
    match cut part cs with
    | some (before, behind) => before :: pieces part cuts behind
    | none => [cs]

/-- The pieces of a text after at most `cuts` cuts behind its characters. -/
def charPieces : Nat → List Char → List (List Char)
  | 0, cs => [cs]
  | _ + 1, [] => [[]]
  | cuts + 1, c :: rest => [c] :: charPieces cuts rest

/-- The pieces of a text after at most `cuts` cuts at a part. -/
def splitBy (part : List Char) (cuts : Nat) (cs : List Char) : List (List Char) :=
  match part, cuts with
  | [], 0 => [cs]
  | [], cuts + 1 => [] :: charPieces cuts cs
  | part, cuts => pieces part cuts cs

/-- The pieces of a text after at most `cuts` cuts at single blanks. -/
def blankPieces : Nat → List Char → List (List Char)
  | 0, cs => [cs]
  | cuts + 1, cs =>
    match cs.span (!isBlank ·) with
    | (before, _ :: behind) => before :: blankPieces cuts behind
    | (before, []) => [before]

/-- The words of a text. -/
def words (cs : List Char) : List (List Char) :=
  (blankPieces cs.length cs).filter (!·.isEmpty)

/-- The lines of a text without their ends. -/
def lines (cs : List Char) : List (List Char) :=
  let parts := pieces ['\n'] cs.length cs
  let last := (parts.getLast?).getD []
  parts.dropLast.map (fun l => if l.getLast? = some '\r' then l.dropLast else l) ++
    (if last.isEmpty then [] else [last])

/-! ### Replacing -/

/-- The text with every occurrence of `part` replaced. -/
def replaceAll (part other : List Char) (cs : List Char) : List Char :=
  match splitBy part (cs.length + 1) cs with
  | [] => []
  | first :: rest => first ++ rest.flatMap (other ++ ·)

end Scaffold.Text
