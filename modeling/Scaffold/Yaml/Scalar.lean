import Scaffold.Document.Plain
import Scaffold.Yaml.Cursor

/-! # Scalars of YAML

  The text of plain, quoted and block scalars. A single line end between words
  becomes a space; of several line ends the first one goes.

  - `plain`, `quoted`, `block`: the scalar that starts at a cursor, and the
    place behind it. A text that breaks the rules has none.
-/

namespace Scaffold.Yaml

/-! ### Between words -/

/-- Blanks and line ends between the words of a scalar. -/
structure Spacing where
  /-- The blanks, if no line end is among them. -/
  spaces : List Char := []
  /-- Whether a line has ended. -/
  broken : Bool := false
  /-- The first line end. -/
  first : List Char := []
  /-- The other line ends. -/
  others : List Char := []

/-- The text that the spacing stands for. -/
def Spacing.text (s : Spacing) : List Char :=
  if s.broken then
    if s.first.head? = some '\n' then (if s.others.isEmpty then [' '] else s.others)
    else s.first ++ s.others
  else s.spaces

/-- Reads blanks and line ends. A tab before column `indent` of a new line is refused. -/
def spacing (indent : Nat) : Nat → Spacing → Cursor → Option (Spacing × Cursor)
  | 0, s, c => some (s, c)
  | fuel + 1, s, c =>
    match c.rest with
    | [] => some (s, c)
    | ch :: _ =>
      if isBlank ch then
        if s.broken && ch == '\t' && c.column < indent then none
        else if s.broken then spacing indent fuel s (c.skip 1)
        else spacing indent fuel { s with spaces := s.spaces ++ [ch] } (c.skip 1)
      else if isBreak ch then
        let (text, next) := c.takeBreak
        if s.broken then spacing indent fuel { s with others := s.others ++ text } next
        else spacing indent fuel { s with spaces := [], broken := true, first := text } next
      else some (s, c)

/-! ### Plain scalars -/

/-- The characters that end a plain scalar inside brackets. -/
def flowMarks : List Char := [',', '[', ']', '\x7b', '\x7d']

/-- The characters that may not follow a colon inside brackets. -/
def colonClashes : List Char := ',' :: '?' :: flowMarks

/-- A word of a plain scalar, up to a blank or to what ends the scalar. -/
def plainWord (flow : Bool) : List Char → Option (List Char × List Char)
  | [] => some ([], [])
  | ch :: rest =>
    if isBlank ch || isBreak ch then some ([], ch :: rest)
    else if flow && ch == ':' && rest.head?.any (colonClashes.contains ·) then none
    else if (ch == ':' && isGap rest) || (flow && flowMarks.contains ch) then
      some ([], ch :: rest)
    else (plainWord flow rest).map fun (word, after) => (ch :: word, after)

/-- What has been read of a plain scalar. -/
structure PlainScalar where
  /-- The text. -/
  text : List Char
  /-- The place behind it and behind the spacing that follows. -/
  cursor : Cursor
  /-- Whether that spacing holds a line end. -/
  broken : Bool

/-- Reads the words of a plain scalar whose lines start at column `indent` or later. -/
def plainWords (flow : Bool) (indent : Nat) :
    Nat → List Char → Spacing → Cursor → Option PlainScalar
  | 0, text, s, c => some ⟨text, c, s.broken⟩
  | fuel + 1, text, s, c =>
    if c.atDocumentMark || c.isAt '#' then some ⟨text, c, s.broken⟩
    else match plainWord flow c.rest with
      | none => none
      | some (word, after) =>
        let next := c.skipTo after
        let text' := if word.isEmpty then text else text ++ s.text ++ word
        let broken := word.isEmpty && s.broken
        if after.isEmpty || !isGap after then some ⟨text', next, broken⟩
        else match spacing indent after.length {} next with
          | none => none
          | some (s', final) =>
            if !flow && final.column < indent then some ⟨text', final, s'.broken⟩
            else plainWords flow indent fuel text' s' final

/-- The plain scalar at a cursor. -/
def plain (flow : Bool) (indent : Nat) (c : Cursor) : Option PlainScalar :=
  plainWords flow indent (c.rest.length + 1) [] {} c

/-! ### Quoted scalars -/

/-- What a letter behind a backslash stands for. -/
def escaped? : Char → Option Char
  | '0' => some '\x00'
  | 'a' => some '\x07'
  | 'b' => some '\x08'
  | 't' => some '\t'
  | '\t' => some '\t'
  | 'n' => some '\n'
  | 'v' => some '\x0b'
  | 'f' => some '\x0c'
  | 'r' => some '\r'
  | 'e' => some '\x1b'
  | ' ' => some ' '
  | '"' => some '"'
  | '/' => some '/'
  | '\\' => some '\\'
  | 'N' => some '\u0085'
  | '_' => some '\u00a0'
  | 'L' => some '\u2028'
  | 'P' => some '\u2029'
  | _ => none

/-- The number of digits of an escape by number. -/
def escapeWidth? : Char → Option Nat
  | 'x' => some 2
  | 'u' => some 4
  | 'U' => some 8
  | _ => none

/-- The character that hexadecimal digits name. -/
def numbered? (digits : List Char) (width : Nat) : Option Char :=
  if digits.length < width then none
  else match inBase? 16 digits with
    | none => none
    | some n => if n.isValidChar then some (Char.ofNat n) else none

/-- How a word of a quoted scalar ends. -/
inductive WordEnd where
  /-- At the closing quote. -/
  | quote
  /-- At a blank, a line end or the end of the text. -/
  | gap
  /-- Behind a backslash in front of a line end. -/
  | joined

/-- A word of a single-quoted scalar. -/
def singleWord : List Char → List Char × WordEnd × List Char
  | [] => ([], .gap, [])
  | '\'' :: '\'' :: rest =>
    let (word, reason, after) := singleWord rest
    ('\'' :: word, reason, after)
  | ch :: rest =>
    if ch = '\'' then ([], .quote, ch :: rest)
    else if isBlank ch || isBreak ch then ([], .gap, ch :: rest)
    else
      let (word, reason, after) := singleWord rest
      (ch :: word, reason, after)

/-- A word of a double-quoted scalar. -/
def doubleWord : Nat → List Char → Option (List Char × WordEnd × List Char)
  | 0, cs => some ([], .gap, cs)
  | _ + 1, [] => some ([], .gap, [])
  | fuel + 1, ch :: rest =>
    if ch = '"' then some ([], .quote, ch :: rest)
    else if isBlank ch || isBreak ch then some ([], .gap, ch :: rest)
    else if ch = '\\' then
      match rest with
      | [] => none
      | e :: after =>
        if isBreak e then some ([], .joined, after)
        else match escapeWidth? e with
          | some width => do
            let c ← numbered? (after.take width) width
            let (word, reason, final) ← doubleWord fuel (after.drop width)
            return (c :: word, reason, final)
          | none => do
            let c ← escaped? e
            let (word, reason, final) ← doubleWord fuel after
            return (c :: word, reason, final)
    else do
      let (word, reason, after) ← doubleWord fuel rest
      return (ch :: word, reason, after)

/-- A word of a quoted scalar. -/
def quotedWord (single : Bool) (cs : List Char) : Option (List Char × WordEnd × List Char) :=
  if single then some (singleWord cs) else doubleWord (cs.length + 1) cs

/-- Over a backslash and the line end behind it; `after` is what follows its first character. -/
def Cursor.overJoin (c : Cursor) (after : List Char) : Cursor :=
  let start := c.skip (c.rest.length - after.length - 1)
  start.takeBreak.2

/-- Reads the words of a quoted scalar up to the closing quote. -/
def quotedWords (single : Bool) : Nat → List Char → Cursor → Option (List Char × Cursor)
  | 0, _, _ => none
  | fuel + 1, text, c =>
    if c.atDocumentMark || c.rest.isEmpty then none
    else match quotedWord single c.rest with
      | none => none
      | some (word, .quote, after) => some (text ++ word, (c.skipTo after).skip 1)
      | some (word, reason, after) =>
        let (start, next) : Spacing × Cursor := match reason with
          | .joined => ({ broken := true }, c.overJoin after)
          | _ => ({}, c.skipTo after)
        match spacing 0 next.rest.length start next with
        | none => none
        | some (s, final) => quotedWords single fuel (text ++ word ++ s.text) final

/-- The quoted scalar whose opening quote is at the cursor. -/
def quoted (single : Bool) (c : Cursor) : Option (List Char × Cursor) :=
  quotedWords single (c.rest.length + 1) [] (c.skip 1)

/-! ### Block scalars -/

/-- What becomes of the line ends behind a block scalar. -/
inductive Chomping where
  /-- All go. -/
  | strip
  /-- One stays. -/
  | clip
  /-- All stay. -/
  | keep

/-- The head of a block scalar: what becomes of its end, and its indent, if it is written. -/
structure BlockHead where
  /-- What becomes of the line ends behind it. -/
  chomping : Chomping := .clip
  /-- The indent, relative to the one around the scalar. -/
  increment : Option Nat := none

/-- The sign of a block scalar's head. -/
def chompingOf? : Char → Option Chomping
  | '+' => some .keep
  | '-' => some .strip
  | _ => none

/-- The marks of a block scalar's head, in either order, and what follows them. -/
def blockMarks (cs : List Char) : Option (BlockHead × List Char) :=
  let digit (head : BlockHead) (rest : List Char) : Option (BlockHead × List Char) :=
    match rest with
    | d :: after =>
      if d.isDigit then
        if d = '0' then none else some ({ head with increment := some (d.toNat - 48) }, after)
      else some (head, rest)
    | [] => some (head, rest)
  match cs with
  | [] => some ({}, [])
  | ch :: rest =>
    match chompingOf? ch with
    | some chomping => digit { chomping } rest
    | none => do
      let (head, after) ← digit {} cs
      match head.increment, after with
      | some _, sign :: final =>
        match chompingOf? sign with
        | some chomping => return ({ head with chomping }, final)
        | none => return (head, after)
      | _, _ => return (head, after)

/-- Reads indents and empty lines. Without a known indent the widest one of the lines is found. -/
def blockBreaks (indent : Option Nat) :
    Nat → List Char → Nat → Cursor → Option (List Char × Nat × Cursor)
  | 0, breaks, widest, c => some (breaks, widest, c)
  | fuel + 1, breaks, widest, c =>
    let spaces := (c.rest.takeWhile (· == ' ')).length
    let c := c.skip (match indent with
      | none => spaces
      | some n => min spaces (n - c.column))
    let widest := max widest c.column
    let inside := match indent with
      | none => true
      | some n => c.column < n
    if inside && c.isAt '\t' then none
    else match c.rest with
      | ch :: _ =>
        if isBreak ch then
          let (text, next) := c.takeBreak
          blockBreaks indent fuel (breaks ++ text) widest next
        else some (breaks, widest, c)
      | [] => some (breaks, widest, c)

/-- What has been read of a block scalar. -/
structure BlockText where
  /-- The text up to the last line. -/
  text : List Char := []
  /-- The end of the last line. -/
  lineEnd : List Char := []
  /-- The empty lines behind it. -/
  breaks : List Char := []
  /-- Whether the last line starts with a blank. -/
  blank : Bool := false

/-- The text between the last line and the next one. -/
def BlockText.join (literal : Bool) (b : BlockText) (nextBlank : Bool) : List Char :=
  if !literal && b.lineEnd.head? == some '\n' && !b.blank && !nextBlank then
    if b.breaks.isEmpty then [' '] else b.breaks
  else b.lineEnd ++ b.breaks

/-- Reads the lines of a block scalar that start at column `indent`. -/
def blockLines (literal : Bool) (indent : Nat) :
    Nat → BlockText → Cursor → Option (BlockText × Cursor)
  | 0, b, c => some (b, c)
  | fuel + 1, b, c =>
    if c.column ≠ indent || c.rest.isEmpty then some (b, c)
    else
      let blank := c.rest.head?.any isBlank
      let line := c.rest.takeWhile (!isBreak ·)
      let (lineEnd, next) := c.skipLine.takeBreak
      match blockBreaks (some indent) next.rest.length [] 0 next with
      | none => none
      | some (breaks, _, final) =>
        blockLines literal indent fuel
          ⟨b.text ++ b.join literal blank ++ line, lineEnd, breaks, blank⟩ final

/-- The text of a block scalar with its end. -/
def BlockText.finish (b : BlockText) : Chomping → List Char
  | .strip => b.text
  | .clip => b.text ++ b.lineEnd
  | .keep => b.text ++ b.lineEnd ++ b.breaks

/-- The block scalar whose mark is at the cursor, inside an indent of `outer`. -/
def block (literal : Bool) (outer : Int) (c : Cursor) : Option (List Char × Cursor) := do
  let (head, after) ← blockMarks (c.rest.drop 1)
  let c := (c.skipTo after).skipWhile isBlank
  let c := if c.isAt '#' then c.skipLine else c
  if !isGap c.rest then none
  else
    let (_, c) := c.takeBreak
    let given := head.increment.map fun n => (max outer 0).toNat + n
    let (breaks, widest, c) ← blockBreaks given c.rest.length [] 0 c
    let indent := given.getD (max (max widest (outer + 1).toNat) 1)
    let (b, c) ← blockLines literal indent (c.rest.length + 1) { breaks } c
    return (b.finish head.chomping, c)

end Scaffold.Yaml
