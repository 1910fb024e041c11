import Scaffold.Yaml.Scalar

/-! # Tokens of YAML

  The words of the language, and those of them that scan by themselves:
  directives, names of anchors, and tags.
-/

namespace Scaffold.Yaml

/-! ### Tokens -/

/-- A word of the language. -/
inductive Token where
  /-- The end of the text. -/
  | streamEnd
  /-- The version of the language. -/
  | version (major minor : Nat)
  /-- The prefix that a handle stands for. -/
  | tagPrefix (handle start : String)
  /-- The start of a document. -/
  | documentStart
  /-- The end of a document. -/
  | documentEnd
  /-- The start of an indented list. -/
  | blockListStart
  /-- The start of an indented map. -/
  | blockMapStart
  /-- The end of an indented list or map. -/
  | blockEnd
  /-- An opening square bracket. -/
  | flowListStart
  /-- A closing square bracket. -/
  | flowListEnd
  /-- An opening brace. -/
  | flowMapStart
  /-- A closing brace. -/
  | flowMapEnd
  /-- The mark of an item. -/
  | blockEntry
  /-- A comma between brackets. -/
  | flowEntry
  /-- What follows is a key. -/
  | key
  /-- What follows is a value. -/
  | value
  /-- A node that has occurred before. -/
  | reference (name : String)
  /-- The name of the node that follows. -/
  | anchor (name : String)
  /-- The tag of the node that follows. -/
  | tag (handle suffix : String)
  /-- A scalar, and whether it is plain. -/
  | scalar (plain : Bool) (text : String)
  deriving DecidableEq, Repr

/-! ### Anchors -/

/-- The characters that may follow the name of an anchor, beside gaps. -/
def anchorEnds : List Char := ['?', ':', ',', ']', '\x7d', '%', '@', '\x60']

/-- The name behind the mark of an anchor or alias. -/
def anchorName (c : Cursor) : Option (String × Cursor) :=
  let name := (c.rest.drop 1).takeWhile isWord
  let after := (c.rest.drop 1).dropWhile isWord
  if name.isEmpty then none
  else if isGap after || after.head?.any (anchorEnds.contains ·) then
    some (String.ofList name, c.skipTo after)
  else none

/-! ### Tags -/

/-- The characters of a tag, beside those of words. -/
def tagMarks : List Char :=
  [';', '/', '?', ':', '@', '&', '=', '+', '$', '.', '%', '!', '~', '*', '\'', '(', ')']

/-- The characters that only a tag between angle brackets and a prefix may hold. -/
def verbatimMarks : List Char := [',', '[', ']']

/-- Whether a character may occur in a tag. -/
def isTagChar (verbatim : Bool) (c : Char) : Bool :=
  isWord c || tagMarks.contains c || (verbatim && verbatimMarks.contains c)

/-- The number of bytes of the character that starts with this byte. -/
def sequenceWidth? (byte : Nat) : Option Nat :=
  if byte < 0x80 then some 1
  else if byte / 32 = 6 then some 2
  else if byte / 16 = 14 then some 3
  else if byte / 8 = 30 then some 4
  else none

/-- Bytes written as percent signs with two hexadecimal digits. -/
def percentBytes : Nat → List Char → Option (List Nat × List Char)
  | 0, cs => some ([], cs)
  | n + 1, '%' :: a :: b :: rest => do
    let x ← digit? 16 a
    let y ← digit? 16 b
    let (bytes, after) ← percentBytes n rest
    return ((x * 16 + y) :: bytes, after)
  | _, _ => none

/-- A character written as its bytes. -/
def percentChar (cs : List Char) : Option (List Char × List Char) := do
  let (first, _) ← percentBytes 1 cs
  let width ← sequenceWidth? (first.headD 0)
  let (bytes, after) ← percentBytes width cs
  if (bytes.drop 1).all (fun b => b / 64 == 2) then
    let text := String.fromUTF8? ⟨(bytes.map (·.toUInt8)).toArray⟩
    return ((text.getD "\ufffd").toList, after)
  else none

/-- The characters of a tag. -/
def tagText (verbatim : Bool) : Nat → List Char → Option (List Char × List Char)
  | 0, cs => some ([], cs)
  | fuel + 1, cs =>
    match cs with
    | [] => some ([], [])
    | c :: rest =>
      if !isTagChar verbatim c then some ([], cs)
      else if c = '%' then do
        let (text, after) ← percentChar cs
        let (more, final) ← tagText verbatim fuel after
        return (text ++ more, final)
      else do
        let (more, final) ← tagText verbatim fuel rest
        return (c :: more, final)

/-- The handle of a tag: an exclamation mark, or a word between two of them. -/
def tagHandle : List Char → Option (List Char × List Char)
  | '!' :: rest =>
    let word := rest.takeWhile isWord
    match rest.dropWhile isWord with
    | '!' :: after => some ('!' :: word ++ ['!'], after)
    | after => some ('!' :: word, after)
  | _ => none

/-- Whether a handle is complete. -/
def isHandle (handle : List Char) : Bool := 2 ≤ handle.length && handle.getLast? == some '!'

/-- The handle and the suffix of the tag at a cursor. -/
def tagParts (cs : List Char) : Option ((List Char × List Char) × List Char) :=
  match cs with
  | '!' :: '<' :: rest => do
    let (suffix, after) ← tagText true rest.length rest
    match after with
    | '>' :: final => if suffix.isEmpty then none else return (([], suffix), final)
    | _ => none
  | _ => do
    let (handle, rest) ← tagHandle cs
    let (suffix, after) ← tagText false rest.length rest
    if isHandle handle then
      if suffix.isEmpty then none else return ((handle, suffix), after)
    else
      let whole := handle.drop 1 ++ suffix
      return (if whole.isEmpty then ([], ['!']) else (['!'], whole), after)

/-- The tag at a cursor. -/
def tagToken (flow : Bool) (c : Cursor) : Option (Token × Cursor) := do
  let ((handle, suffix), after) ← tagParts c.rest
  if isGap after || (flow && after.head? == some ',') then
    return (.tag (String.ofList handle) (String.ofList suffix), c.skipTo after)
  else none

/-! ### Directives -/

/-- The number at the start of a text, of at most nine digits. -/
def versionNumber (cs : List Char) : Option (Nat × List Char) :=
  let digits := cs.takeWhile Char.isDigit
  if digits.isEmpty || 9 < digits.length then none
  else (inBase? 10 digits).map (·, cs.dropWhile Char.isDigit)

/-- The rest of the line with the version of the language. -/
def versionDirective (cs : List Char) : Option (Token × List Char) := do
  let (major, rest) ← versionNumber (cs.dropWhile isBlank)
  match rest with
  | '.' :: rest =>
    let (minor, after) ← versionNumber rest
    return (.version major minor, after)
  | _ => none

/-- The rest of the line that explains a handle. -/
def tagDirective (cs : List Char) : Option (Token × List Char) := do
  let (handle, rest) ← tagHandle (cs.dropWhile isBlank)
  if handle ≠ ['!'] ∧ !isHandle handle then none
  else match rest with
    | b :: _ =>
      if !isBlank b then none
      else
        let (start, after) ← tagText true rest.length (rest.dropWhile isBlank)
        if start.isEmpty || !isGap after then none
        else return (.tagPrefix (String.ofList handle) (String.ofList start), after)
    | [] => none

/-- The directive at a cursor, up to the next line. -/
def directive (c : Cursor) : Option (Token × Cursor) := do
  let word := (c.rest.drop 1).takeWhile isWord
  let rest := (c.rest.drop 1).dropWhile isWord
  if !isGap rest then none
  else
    let (token, after) ←
      if String.ofList word = "YAML" then versionDirective rest
      else if String.ofList word = "TAG" then tagDirective rest
      else none
    let c := (c.skipTo after).skipWhile isBlank
    let c := if c.isAt '#' then c.skipLine else c
    if isGap c.rest then return (token, c.takeBreak.2) else none

end Scaffold.Yaml
