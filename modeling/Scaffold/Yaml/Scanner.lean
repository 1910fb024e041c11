import Scaffold.Yaml.Token

/-! # From text to tokens

  Indents become tokens of their own. Whether a scalar or a bracket was the key
  of a map only shows at the colon behind it; until then it is remembered, and
  the tokens from there on are held back.

  - `Scanner.fetch`: one more token into the queue.
  - `tokens`: all tokens that are settled before the text ends or breaks the
    rules.
-/

namespace Scaffold.Yaml

/-! ### State -/

/-- A place that may turn out to be a key. -/
structure KeyMark where
  /-- Whether nothing but a key can stand there. -/
  required : Bool
  /-- The number of tokens before. -/
  number : Nat
  /-- The place. -/
  cursor : Cursor

/-- The state of a scan. -/
structure Scanner where
  /-- The place in the text. -/
  cursor : Cursor
  /-- How many brackets are open. -/
  flow : Nat := 0
  /-- The tokens that are held back. -/
  queue : List Token := []
  /-- The number of tokens before the queue. -/
  released : Nat := 0
  /-- The column of the innermost indented list or map. -/
  indent : Int := -1
  /-- The columns around it. -/
  outer : List Int := []
  /-- Whether a key may start here. -/
  keyAllowed : Bool := true
  /-- The possible key of every level of brackets, innermost first. -/
  keys : List (Option KeyMark) := [none]
  /-- Whether the end of the text has been reached. -/
  finished : Bool := false

namespace Scanner

/-- Adds a token. -/
def push (s : Scanner) (token : Token) : Scanner := { s with queue := s.queue ++ [token] }

/-- Adds a token in front of the token with a number. -/
def insert (s : Scanner) (number : Nat) (token : Token) : Scanner :=
  { s with queue := s.queue.take (number - s.released) ++
      token :: s.queue.drop (number - s.released) }

/-- Moves the cursor. -/
def goTo (s : Scanner) (c : Cursor) : Scanner := { s with cursor := c }

/-- Sets whether a key may start here. -/
def allowKey (s : Scanner) (allowed : Bool) : Scanner := { s with keyAllowed := allowed }

/-! ### Keys -/

/-- How many characters a key may span. -/
def keySpan : Nat := 1024

/-- Whether a place is too far back to be a key. -/
def isStale (s : Scanner) (k : KeyMark) : Bool :=
  k.cursor.line < s.cursor.line || k.cursor.index + keySpan < s.cursor.index

/-- Forgets places that are too far back; none of them may be required. -/
def dropStale (s : Scanner) : Option Scanner :=
  if s.keys.any (·.any fun k => s.isStale k && k.required) then none
  else some { s with keys := s.keys.map (·.filter fun k => !s.isStale k) }

/-- Forgets the possible key of the innermost level, which may not be required. -/
def dropKey (s : Scanner) : Option Scanner :=
  match s.keys with
  | some k :: rest => if k.required then none else some { s with keys := none :: rest }
  | _ => some s

/-- Remembers the next token as a possible key. -/
def saveKey (s : Scanner) : Option Scanner :=
  if !s.keyAllowed then some s
  else do
    let s ← s.dropKey
    let required := s.flow == 0 && s.indent == (s.cursor.column : Int)
    return { s with
      keys := some ⟨required, s.released + s.queue.length, s.cursor⟩ :: s.keys.drop 1 }

/-! ### Indents -/

/-- Starts an indented list or map if the column is deeper than the one around it. -/
def openIndent (s : Scanner) (column : Nat) (number : Nat) (token : Token) : Scanner :=
  if s.flow == 0 && s.indent < (column : Int) then
    { s.insert number token with indent := column, outer := s.indent :: s.outer }
  else s

/-- Ends the indented lists and maps that are deeper than a column. -/
def closeIndents (column : Int) : List Int → Scanner → Scanner
  | [], s => s
  | next :: rest, s =>
    if s.flow == 0 && column < s.indent then
      closeIndents column rest { s.push .blockEnd with indent := next, outer := rest }
    else s

/-- Ends what is deeper than a column. -/
def unroll (s : Scanner) (column : Int) : Scanner := closeIndents column s.outer s

/-! ### Between tokens -/

/-- Skips blanks, comments and line ends. Tabs count as blanks only where no key may start. -/
def skipGaps : Nat → Scanner → Scanner
  | 0, s => s
  | fuel + 1, s =>
    let c := s.cursor.skipWhile fun ch =>
      ch == ' ' || ((s.flow != 0 || !s.keyAllowed) && ch == '\t')
    let c := if c.isAt '#' then c.skipLine else c
    if c.rest.head?.any isBreak then
      skipGaps fuel ((s.goTo c.takeBreak.2).allowKey (s.keyAllowed || s.flow == 0))
    else s.goTo c

/-! ### Single tokens -/

/-- A token that ends every indent, such as the start of a document. -/
def fetchMark (s : Scanner) (token : Token) (next : Cursor) : Option Scanner := do
  let s ← (s.unroll (-1)).dropKey
  return ((s.allowKey false).goTo next).push token

/-- The end of the text. -/
def fetchEnd (s : Scanner) : Option Scanner := do
  let s ← (s.unroll (-1)).dropKey
  return { (s.allowKey false).push .streamEnd with finished := true }

/-- An opening bracket. -/
def fetchOpen (s : Scanner) (token : Token) : Option Scanner := do
  let s ← s.saveKey
  return { ((s.allowKey true).goTo (s.cursor.skip 1)).push token with
    flow := s.flow + 1, keys := none :: s.keys }

/-- A closing bracket. -/
def fetchClose (s : Scanner) (token : Token) : Option Scanner := do
  let s ← s.dropKey
  let s := if s.flow == 0 then s else { s with flow := s.flow - 1, keys := s.keys.drop 1 }
  return ((s.allowKey false).goTo (s.cursor.skip 1)).push token

/-- A comma between brackets. -/
def fetchComma (s : Scanner) : Option Scanner := do
  let s ← s.dropKey
  return ((s.allowKey true).goTo (s.cursor.skip 1)).push .flowEntry

/-- The mark of an item. -/
def fetchItem (s : Scanner) : Option Scanner :=
  if s.flow == 0 && !s.keyAllowed then none
  else do
    let opened := s.openIndent s.cursor.column (s.released + s.queue.length) .blockListStart
    let s ← opened.dropKey
    return ((s.allowKey true).goTo (s.cursor.skip 1)).push .blockEntry

/-- The mark of a key. -/
def fetchKey (s : Scanner) : Option Scanner :=
  if s.flow == 0 && !s.keyAllowed then none
  else do
    let opened := s.openIndent s.cursor.column (s.released + s.queue.length) .blockMapStart
    let s ← opened.dropKey
    return ((s.allowKey (s.flow == 0)).goTo (s.cursor.skip 1)).push .key

/-- The colon in front of a value. What was remembered as a possible key becomes one. -/
def fetchValue (s : Scanner) : Option Scanner :=
  match s.keys with
  | some k :: rest =>
    let s := (s.insert k.number .key).openIndent k.cursor.column k.number .blockMapStart
    let s := { s with keys := none :: rest }
    some (((s.allowKey false).goTo (s.cursor.skip 1)).push .value)
  | _ =>
    if s.flow == 0 && !s.keyAllowed then none
    else
      let s := s.openIndent s.cursor.column (s.released + s.queue.length) .blockMapStart
      some (((s.allowKey (s.flow == 0)).goTo (s.cursor.skip 1)).push .value)

/-- A token that can be a key, or the start of one. -/
def fetchNode (s : Scanner) (scan : Cursor → Option (Token × Cursor)) : Option Scanner := do
  let s ← s.saveKey
  let (token, next) ← scan s.cursor
  return ((s.allowKey false).goTo next).push token

/-- A plain scalar. -/
def fetchPlain (s : Scanner) : Option Scanner := do
  let s ← s.saveKey
  let p ← plain (s.flow != 0) (s.indent + 1).toNat s.cursor
  return ((s.allowKey p.broken).goTo p.cursor).push (.scalar true (String.ofList p.text))

/-- A block scalar. -/
def fetchBlock (s : Scanner) (literal : Bool) : Option Scanner := do
  let s ← s.dropKey
  let (text, next) ← block literal s.indent s.cursor
  return ((s.allowKey true).goTo next).push (.scalar false (String.ofList text))

/-! ### The next token -/

/-- The characters that start no plain scalar, whatever follows. -/
def reserved : List Char :=
  ['-', '?', ':', ',', '[', ']', '\x7b', '\x7d', '#', '&', '*', '!', '|', '>', '\'', '"', '%',
    '@', '\x60']

/-- Whether a plain scalar starts here. -/
def startsPlain (flow : Bool) : List Char → Bool
  | [] => false
  | c :: rest =>
    !(isGap (c :: rest) || reserved.contains c) ||
      (c == '-' && !rest.head?.any isBlank) ||
      (!flow && (c == '?' || c == ':') && !isGap rest)

/-- Fetches the token whose first character is at the cursor. -/
def fetchAt (s : Scanner) : Option Scanner :=
  let c := s.cursor
  let flow := s.flow != 0
  let quotedToken (single : Bool) (c : Cursor) : Option (Token × Cursor) :=
    (quoted single c).map fun (text, next) => (.scalar false (String.ofList text), next)
  match c.rest with
  | [] => s.fetchEnd
  | ch :: rest =>
    if c.column == 0 && ch == '%' then do
      let (token, next) ← directive c
      s.fetchMark token next
    else if c.atDivider '-' then s.fetchMark .documentStart (c.skip 3)
    else if c.atDivider '.' then s.fetchMark .documentEnd (c.skip 3)
    else if ch == '[' then s.fetchOpen .flowListStart
    else if ch == '\x7b' then s.fetchOpen .flowMapStart
    else if ch == ']' then s.fetchClose .flowListEnd
    else if ch == '\x7d' then s.fetchClose .flowMapEnd
    else if ch == ',' then s.fetchComma
    else if ch == '-' && isGap rest then s.fetchItem
    else if ch == '?' && (flow || isGap rest) then s.fetchKey
    else if ch == ':' && (flow || isGap rest) then s.fetchValue
    else if ch == '*' then s.fetchNode fun c => (anchorName c).map fun (n, k) => (.reference n, k)
    else if ch == '&' then s.fetchNode fun c => (anchorName c).map fun (n, k) => (.anchor n, k)
    else if ch == '!' then s.fetchNode (tagToken flow)
    else if ch == '|' && !flow then s.fetchBlock true
    else if ch == '>' && !flow then s.fetchBlock false
    else if ch == '\'' then s.fetchNode (quotedToken true)
    else if ch == '"' then s.fetchNode (quotedToken false)
    else if startsPlain flow c.rest then s.fetchPlain
    else none

/-- Fetches one more token. -/
def fetch (s : Scanner) : Option Scanner := do
  let s ← (skipGaps (s.cursor.rest.length + 1) s).dropStale
  (s.unroll s.cursor.column).fetchAt

/-- Whether the first token of the queue could still change. -/
def isOpen (s : Scanner) : Bool :=
  s.queue.isEmpty || s.keys.any (·.any (·.number == s.released))

end Scanner

/-! ### All tokens -/

/-- Releases tokens as they are settled. The second part tells whether the text kept the rules. -/
def release : Nat → Scanner → List Token × Bool
  | 0, _ => ([], false)
  | fuel + 1, s =>
    if s.queue.isEmpty && s.finished then ([], true)
    else match (if s.queue.isEmpty then some s else s.dropStale) with
      | none => ([], false)
      | some s =>
        if s.isOpen then
          match s.fetch with
          | none => ([], false)
          | some next => release fuel next
        else match s.queue with
          | [] => ([], false)
          | token :: rest =>
            let (later, ok) := release fuel { s with queue := rest, released := s.released + 1 }
            (token :: later, ok)

/-- The tokens of a text as far as it keeps the rules. -/
def tokens (cs : List Char) : List Token × Bool :=
  if cs.all isAllowed then
    release (8 * cs.length + 16) ⟨⟨cs, 0, 0, 0⟩, 0, [], 0, -1, [], true, [none], false⟩
  else ([], false)

end Scaffold.Yaml
