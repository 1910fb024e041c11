import Scaffold.Decimal.Read
import Scaffold.Template.Failure
import Scaffold.Text.Blank

/-! # Lexemes of templates

  A template is text with expressions between `${` and `}`, statements between
  `{%` and `%}` and comments between `{#` and `#}`. Reading it gives a list of
  lexemes with their lines.

  - A dash inside a delimiter removes the white space on its outer side.
  - The brace that ends an expression is the first one outside any bracket.
  - A malformed piece becomes a `broken` lexeme, so that it only counts when the
    parser reaches it.
-/

namespace Scaffold.Template

/-! ### Tokens -/

/-- Operators and punctuation. -/
inductive Symbol where
  | plus | minus | times | divide | floorDivide | percent | power
  | equal | notEqual | less | lessEqual | greater | greaterEqual
  | dot | comma | colon | tilde | pipe | assign
  | parenOpen | parenClose | bracketOpen | bracketClose | braceOpen | braceClose
  deriving DecidableEq, Repr

/-- A piece of a template. -/
inductive Token where
  /-- Text that is copied to the output. -/
  | data (text : String)
  /-- The start of an expression. -/
  | variableStart
  /-- The end of an expression. -/
  | variableEnd
  /-- The start of a statement. -/
  | blockStart
  /-- The end of a statement. -/
  | blockEnd
  /-- A name. -/
  | ident (name : String)
  /-- A text literal. -/
  | str (text : String)
  /-- A whole number. -/
  | int (value : Nat)
  /-- A floating-point number. -/
  | float (value : Float)
  /-- An operator or a mark. -/
  | symbol (symbol : Symbol)
  /-- A malformed piece. -/
  | broken (kind : FailureKind)

/-- A token and the line where it starts. -/
structure Lexeme where
  /-- The token. -/
  token : Token
  /-- The line, counted from one. -/
  line : Nat

namespace Lexeme

/-! ### Markers in text -/

/-- What a marker in the text begins. -/
inductive Marker where
  | variable | block | comment
  deriving DecidableEq, Repr

/-- The text before the first marker, the marker and what follows it. -/
def splitAtMarker : List Char → List Char × Option (Marker × List Char)
  | [] => ([], none)
  | c :: rest =>
    match c, rest with
    | '$', '{' :: behind => ([], some (.variable, behind))
    | '{', '%' :: behind => ([], some (.block, behind))
    | '{', '#' :: behind => ([], some (.comment, behind))
    | _, _ => ((c :: (splitAtMarker rest).1), (splitAtMarker rest).2)

/-- How many lines end in a text. -/
def lineEnds (cs : List Char) : Nat := cs.count '\n'

/-- Removes the sign behind an opening delimiter; tells whether it is a dash. -/
def openingSign : List Char → Bool × List Char
  | '-' :: rest => (true, rest)
  | '+' :: rest => (false, rest)
  | cs => (false, cs)

/-- The white space at the start of a text, and the rest. -/
def spanBlank (cs : List Char) : List Char × List Char := cs.span Text.isBlank

/-- The text before the first occurrence of two characters, and what follows them. -/
def splitAtPair (a b : Char) : List Char → Option (List Char × List Char)
  | [] => none
  | c :: rest =>
    match rest with
    | d :: behind =>
      if c = a ∧ d = b then some ([], behind)
      else (splitAtPair a b rest).map fun (before, after) => (c :: before, after)
    | [] => none

/-! ### Verbatim sections -/

/-- White space inside a delimiter. -/
def isInnerBlank (c : Char) : Bool :=
  c == ' ' || c == '\t' || c == '\n' || c == '\r' || c == '\x0c'

/-- Reads the rest of a statement that consists of one word: whether a dash ends it, and what
follows. -/
def bareTag (word : String) (cs : List Char) : Option (Bool × List Char) :=
  let cs := cs.dropWhile isInnerBlank
  if word.toList.isPrefixOf cs then
    match (cs.drop word.length).dropWhile isInnerBlank with
    | '-' :: '%' :: '}' :: rest => some (true, rest)
    | '+' :: '%' :: '}' :: rest => some (false, rest)
    | '%' :: '}' :: rest => some (false, rest)
    | _ => none
  else none

/-- A verbatim section: its text, whether white space before and after its end goes, and what
follows. -/
structure Verbatim where
  /-- The text. -/
  text : List Char
  /-- The end removes white space of the text. -/
  trimsEnd : Bool
  /-- The end removes white space behind it. -/
  trimsBehind : Bool
  /-- Everything up to what follows. -/
  consumed : Nat
  /-- What follows. -/
  rest : List Char

/-- Looks for the end of a verbatim section. -/
def verbatim : List Char → Option Verbatim
  | [] => none
  | c :: rest =>
    let here := match c, rest with
      | '{', '%' :: behind =>
        let (dash, inner) := openingSign behind
        (bareTag "endraw" inner).map fun (trims, after) =>
          (⟨[], dash, trims, 0, after⟩ : Verbatim)
      | _, _ => none
    match here with
    | some v => some { v with consumed := (c :: rest).length - v.rest.length }
    | none => (verbatim rest).map fun v =>
        { v with text := c :: v.text, consumed := v.consumed + 1 }

/-! ### Text literals -/

/-- The body of a text literal with its escapes, and what follows the closing quote. -/
def literalBody (quote : Char) : List Char → Option (List Char × List Char)
  | [] => none
  | c :: rest =>
    if c = quote then some ([], rest)
    else if c = '\\' then
      match rest with
      | [] => none
      | d :: behind => (literalBody quote behind).map fun (body, after) => (c :: d :: body, after)
    else (literalBody quote rest).map fun (body, after) => (c :: body, after)

/-- The value of a digit in base sixteen. -/
def hexValue (c : Char) : Option Nat :=
  if '0' ≤ c ∧ c ≤ '9' then some (c.toNat - 48)
  else if 'a' ≤ c ∧ c ≤ 'f' then some (c.toNat - 87)
  else if 'A' ≤ c ∧ c ≤ 'F' then some (c.toNat - 55)
  else none

/-- The number of digits in base sixteen; a plus sign may replace the first. -/
def hexNumber : List Char → Option Nat
  | [] => none
  | c :: rest => do
    let first ← if c = '+' then some 0 else hexValue c
    rest.foldlM (fun acc d => do return acc * 16 + (← hexValue d)) first

/-- Whether a character is a digit in base eight. -/
def isOctal (c : Char) : Bool := '0' ≤ c && c ≤ '7'

/-- The number of digits in base eight. -/
def octalNumber (cs : List Char) : Nat := cs.foldl (fun acc c => acc * 8 + (c.toNat - 48)) 0

/-- The character of an escape of one letter. -/
def plainEscape? : Char → Option Char
  | '"' => some '"'
  | '\\' => some '\\'
  | '/' => some '/'
  | '\'' => some '\''
  | 'b' => some '\x08'
  | 'f' => some '\x0c'
  | 'n' => some '\n'
  | 'r' => some '\r'
  | 't' => some '\t'
  | _ => none

/-- What an escape stands for, and how many characters it takes behind its letter. -/
inductive Escaped where
  /-- Characters. -/
  | chars (cs : List Char) (length : Nat)
  /-- Half of a character, or a character, of sixteen bits. -/
  | unit (value : Nat)

/-- What an escape with this letter, and this text behind it, stands for. An unknown one stands for
itself. -/
def escaped? (c : Char) (behind : List Char) : Option Escaped :=
  if c = 'u' then
    if behind.length < 4 then none else (hexNumber (behind.take 4)).map .unit
  else if c = 'x' then
    if behind.length < 2 then none
    else (hexNumber (behind.take 2)).map fun n => .chars [Char.ofNat n] 2
  else if isOctal c then
    let more := (behind.take 2).takeWhile isOctal
    let n := octalNumber (c :: more)
    if n < 256 then some (.chars [Char.ofNat n] more.length) else none
  else match plainEscape? c with
    | some p => some (.chars [p] 0)
    | none => some (.chars ['\\', c] 0)

/-- The text of a literal. A first half of a surrogate pair waits in `high` for its second; every
step shortens the text, so its length bounds the number of steps. -/
def unescape : Nat → Option Nat → List Char → Option (List Char)
  | _, high, [] => if high.isSome then none else some []
  | 0, _, _ => none
  | _ + 1, _, ['\\'] => none
  | fuel + 1, high, '\\' :: c :: behind =>
    match escaped? c behind, high with
    | some (.unit unit), some h =>
      if 0xDC00 ≤ unit ∧ unit ≤ 0xDFFF then
        (unescape fuel none (behind.drop 4)).map
          (Char.ofNat (0x10000 + (h - 0xD800) * 0x400 + (unit - 0xDC00)) :: ·)
      else none
    | some (.unit unit), none =>
      if 0xD800 ≤ unit ∧ unit ≤ 0xDBFF then unescape fuel (some unit) (behind.drop 4)
      else if 0xDC00 ≤ unit ∧ unit ≤ 0xDFFF then none
      else (unescape fuel none (behind.drop 4)).map (Char.ofNat unit :: ·)
    | some (.chars cs length), none => (unescape fuel none (behind.drop length)).map (cs ++ ·)
    | _, _ => none
  | fuel + 1, high, c :: rest =>
    if high.isSome then none else (unescape fuel none rest).map (c :: ·)

/-! ### Numbers -/

/-- How much of a number has been read. -/
inductive NumberState where
  | integer | radix | fraction | exponent | exponentDigits
  deriving DecidableEq, Repr

/-- Whether a text begins with an exponent. -/
def beginsExponent : List Char → Bool
  | e :: rest =>
    (e == 'e' || e == 'E') &&
      match rest with
      | '+' :: d :: _ | '-' :: d :: _ | d :: _ => d.isDigit
      | [] => false
  | [] => false

/-- Whether a text begins with a name. -/
def beginsName (cs : List Char) : Bool := cs.head?.any fun c => c.isAlpha || c == '_'

/-- The state behind one more character of a number, if it belongs to it. A point belongs to it
unless a name follows. -/
def numberStep (base : Nat) (state : NumberState) (c : Char) (rest : List Char) :
    Option NumberState :=
  if c = '_' then some state
  else if c.isDigit then some (if state = .exponent then .exponentDigits else state)
  else match state with
    | .integer =>
      if c = '.' then
        if beginsName rest && !beginsExponent rest then none else some .fraction
      else if c = 'e' ∨ c = 'E' then some .exponent
      else none
    | .fraction => if c = 'e' ∨ c = 'E' then some .exponent else none
    | .exponent => if c = '+' ∨ c = '-' then some .exponentDigits else none
    | .radix => if base = 16 ∧ (hexValue c).isSome then some .radix else none
    | .exponentDigits => none

/-- The characters of a number, its final state and what follows. -/
def numberChars (base : Nat) (state : NumberState) :
    List Char → List Char × NumberState × List Char
  | [] => ([], state, [])
  | c :: rest =>
    match numberStep base state c rest with
    | none => ([], state, c :: rest)
    | some next =>
      let (cs, final, after) := numberChars base next rest
      (c :: cs, final, after)

/-- The number of digits in a base. -/
def digitsValue (base : Nat) (cs : List Char) : Option Nat :=
  if cs.isEmpty then none
  else cs.foldlM (fun acc c =>
    match hexValue c with
    | some d => if d < base then some (acc * base + d) else none
    | none => none) 0

/-- The token of a number and what follows. -/
def number (cs : List Char) : Token × List Char :=
  let (base, skipped, state) : Nat × Nat × NumberState := match cs with
    | '0' :: b :: _ =>
      if b = 'b' ∨ b = 'B' then (2, 2, .radix)
      else if b = 'o' ∨ b = 'O' then (8, 2, .radix)
      else if b = 'x' ∨ b = 'X' then (16, 2, .radix)
      else (10, 0, .integer)
    | _ => (10, 0, .integer)
  let (written, final, rest) := numberChars base state (cs.drop skipped)
  let digits := written.filter (· != '_')
  let token : Token :=
    if written.getLast? = some '_' then .broken .malformed
    else match final with
      | .integer | .radix =>
        match digitsValue base digits with
        | some n => if n < Nat.pow 2 128 then .int n else .broken .malformed
        | none => .broken .malformed
      | _ =>
        match Decimal.unsigned? digits with
        | some f => .float f
        | none => .broken .malformed
  (token, rest)

/-! ### Tokens inside delimiters -/

/-- A character that may begin a name. -/
def isNameStart (c : Char) : Bool := c.isAlpha || c == '_'

/-- A character that may continue a name. -/
def isNamePart (c : Char) : Bool := c.isAlphanum || c == '_'

/-- Operators of two characters. -/
def longSymbol? : Char → Char → Option Symbol
  | '/', '/' => some .floorDivide
  | '*', '*' => some .power
  | '=', '=' => some .equal
  | '!', '=' => some .notEqual
  | '>', '=' => some .greaterEqual
  | '<', '=' => some .lessEqual
  | _, _ => none

/-- Operators and marks of one character. -/
def shortSymbol? : Char → Option Symbol
  | '+' => some .plus
  | '-' => some .minus
  | '*' => some .times
  | '/' => some .divide
  | '%' => some .percent
  | '.' => some .dot
  | ',' => some .comma
  | ':' => some .colon
  | '~' => some .tilde
  | '|' => some .pipe
  | '=' => some .assign
  | '>' => some .greater
  | '<' => some .less
  | '(' => some .parenOpen
  | ')' => some .parenClose
  | '[' => some .bracketOpen
  | ']' => some .bracketClose
  | '{' => some .braceOpen
  | '}' => some .braceClose
  | _ => none

/-- How a mark changes the number of open brackets. -/
def bracketChange : Symbol → Int
  | .parenOpen | .bracketOpen | .braceOpen => 1
  | .parenClose | .bracketClose | .braceClose => -1
  | _ => 0

/-- The token of a text literal and what follows. -/
def literal (quote : Char) (cs : List Char) : Token × List Char :=
  match literalBody quote cs with
  | none => (.broken .malformed, [])
  | some (body, rest) =>
    match unescape body.length none body with
    | some text => (.str (String.ofList text), rest)
    | none => (.broken .badEscape, [])

/-- The token at the start of a text, and what follows it. -/
def inner (c : Char) (rest : List Char) : Token × List Char :=
  let long := rest.head?.bind (longSymbol? c)
  match long with
  | some symbol => (.symbol symbol, rest.drop 1)
  | none =>
    match shortSymbol? c with
    | some symbol => (.symbol symbol, rest)
    | none =>
      if c = '\'' ∨ c = '"' then literal c rest
      else if c.isDigit then number (c :: rest)
      else if isNameStart c then
        (.ident (String.ofList (c :: rest.takeWhile isNamePart)), rest.dropWhile isNamePart)
      else (.broken .malformed, [])

/-! ### Whole templates -/

/-- Where the reader is. -/
inductive Mode where
  /-- In text. -/
  | data
  /-- In an expression, with a number of open brackets. -/
  | variable (balance : Int)
  /-- In a statement. -/
  | block
  deriving DecidableEq, Repr

/-- The end of an expression or statement at the start of a text: whether a dash ends it, and
what follows. -/
def closing (mode : Mode) (cs : List Char) : Option (Bool × List Char) :=
  match mode, cs with
  | .block, '-' :: '%' :: '}' :: rest => some (true, rest)
  | .block, '+' :: '%' :: '}' :: rest => some (false, rest)
  | .block, '%' :: '}' :: rest => some (false, rest)
  | .variable 0, '-' :: '}' :: rest => some (true, rest)
  | .variable 0, '+' :: '}' :: rest => some (false, rest)
  | .variable 0, '}' :: rest => some (false, rest)
  | _, _ => none

/-- Copied text as lexemes; an empty one leaves none. -/
def dataLexeme (text : List Char) (line : Nat) : List Lexeme :=
  if text.isEmpty then [] else [⟨.data (String.ofList text), line⟩]

/-- The lexemes of the rest of a template. Every step shortens the text, so its length bounds
the number of steps. -/
def scan : Nat → Mode → Nat → List Char → List Lexeme
  | 0, _, _, _ => []
  | fuel + 1, .data, line, cs =>
    match splitAtMarker cs with
    | (lead, none) => dataLexeme lead line
    | (lead, some (marker, behind)) =>
      let (dash, rest) := openingSign behind
      let kept := if dash then Text.dropTrailing Text.isBlank lead else lead
      let here := line + lineEnds lead
      let continueAt (trims : Bool) (line : Nat) (cs : List Char) : List Lexeme :=
        let (blank, cs) := if trims then spanBlank cs else ([], cs)
        scan fuel .data (line + lineEnds blank) cs
      dataLexeme kept line ++
        match marker with
        | .comment =>
          match splitAtPair '#' '}' rest with
          | none => [⟨.broken .malformed, here + lineEnds rest⟩]
          | some (comment, after) =>
            continueAt (comment.getLast? == some '-') (here + lineEnds comment) after
        | .variable => ⟨.variableStart, here⟩ :: scan fuel (.variable 0) here rest
        | .block =>
          match bareTag "raw" rest with
          | some (trimsStart, body) =>
            let start := here + lineEnds (rest.take (rest.length - body.length))
            match verbatim body with
            | none => [⟨.broken .malformed, start + lineEnds body⟩]
            | some v =>
              let text := if trimsStart then v.text.dropWhile Text.isBlank else v.text
              let text := if v.trimsEnd then Text.dropTrailing Text.isBlank text else text
              dataLexeme text start ++
                continueAt v.trimsBehind (start + lineEnds (body.take v.consumed)) v.rest
          | none => ⟨.blockStart, here⟩ :: scan fuel .block here rest
  | fuel + 1, mode, line, cs =>
    let (blank, cs) := cs.span isInnerBlank
    let line := line + lineEnds blank
    match closing mode cs with
    | some (trims, rest) =>
      let token : Token := if mode = .block then .blockEnd else .variableEnd
      let (gap, rest) := if trims then spanBlank rest else ([], rest)
      ⟨token, line⟩ :: scan fuel .data (line + lineEnds gap) rest
    | none =>
      match cs with
      | [] => []
      | c :: behind =>
        match inner c behind with
        | (.broken kind, _) => [⟨.broken kind, line⟩]
        | (token, rest) =>
          let mode := match mode, token with
            | .variable n, .symbol s => .variable (n + bracketChange s)
            | mode, _ => mode
          ⟨token, line⟩ ::
            scan fuel mode (line + lineEnds (cs.take (cs.length - rest.length))) rest

/-- The lexemes of a template. -/
def ofTemplate (source : String) : List Lexeme :=
  scan (source.length + 1) .data 1 source.toList

end Lexeme

end Scaffold.Template
