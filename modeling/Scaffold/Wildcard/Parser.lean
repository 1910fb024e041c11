import Scaffold.Wildcard.Token

/-! # Reading wildcards

  From the text of a wildcard to its tokens, one character at a time. A double
  star counts as one of the recursive tokens only where it fills the whole space
  between slashes; elsewhere it is two single stars.

  - `ParseState.step`: the effect of one character.
  - `ParseState.finish`: what the end of the text decides.
  - `parse`: the tokens of a text.
-/

namespace Scaffold.Wildcard

/-! ### State -/

/-- A brace that is still open. -/
structure OpenGroup where
  /-- The tokens before the brace, last first. -/
  before : List Token
  /-- The branches that are complete, last first. -/
  done : List (List Token)

/-- What has been read of a bracket. -/
structure ClassState where
  /-- Whether the class is negated. -/
  negated : Bool
  /-- The ranges so far, last first. -/
  ranges : List (Char × Char) := []
  /-- No member has been read yet. -/
  first : Bool := true
  /-- A dash was read that may continue the last range. -/
  inRange : Bool := false

/-- What the next character belongs to. -/
inductive Mode where
  /-- Nothing is pending. -/
  | normal
  /-- One star has been read. -/
  | star
  /-- Two stars have been read. -/
  | doubleStar
  /-- A bracket has just been opened. -/
  | bracket
  /-- A bracket is open. -/
  | members (cls : ClassState)
  /-- A backslash has been read that escapes. -/
  | escape

/-- What has been read so far. -/
structure ParseState where
  /-- The tokens of the innermost sequence, last first. -/
  tokens : List Token := []
  /-- The open braces, innermost first. -/
  groups : List OpenGroup := []
  /-- The last character that is not pending. -/
  previous : Option Char := none
  /-- What is pending. -/
  mode : Mode := .normal

namespace ParseState

/-! ### Adding tokens -/

/-- Adds a token that ends with the character `last`. -/
def push (st : ParseState) (token : Token) (last : Char) : ParseState :=
  { st with tokens := token :: st.tokens, previous := some last, mode := .normal }

/-- Replaces the last token by a recursive one. A recursive prefix or suffix already covers it. -/
def pushRecursive (st : ParseState) (token : Token) (last : Char) : ParseState :=
  match st.tokens with
  | .recursivePrefix :: _ | .recursiveSuffix :: _ =>
    { st with previous := some last, mode := .normal }
  | _ :: rest => { st with tokens := token :: rest, previous := some last, mode := .normal }
  | [] => { st with tokens := [token], previous := some last, mode := .normal }

/-- Two stars that cross no slash. -/
def pushStars (st : ParseState) : ParseState :=
  (st.push .zeroOrMore '*').push .zeroOrMore '*'

/-- Whether a double star with something before it can be recursive. -/
def opensSegment (st : ParseState) : Bool :=
  st.previous == some '/' ||
    (!st.groups.isEmpty && (st.previous == some ',' || st.previous == some '{'))

/-! ### Braces -/

/-- Opens a brace. -/
def openGroup (st : ParseState) : ParseState :=
  ⟨[], ⟨st.tokens, []⟩ :: st.groups, some '{', .normal⟩

/-- Closes a brace. -/
def closeGroup (st : ParseState) : Except Cause ParseState :=
  match st.groups with
  | [] => .error .unopenedAlternates
  | group :: groups =>
    .ok ⟨.alternates (st.tokens.reverse :: group.done).reverse :: group.before, groups, some '}',
      .normal⟩

/-- Ends a branch between braces; elsewhere a comma stands for itself. -/
def comma (st : ParseState) : ParseState :=
  match st.groups with
  | [] => st.push (.literal ',') ','
  | group :: groups =>
    ⟨[], { group with done := st.tokens.reverse :: group.done } :: groups, some ',', .normal⟩

end ParseState

/-! ### Brackets -/

/-- Adds a member to a class. -/
def ClassState.add (cls : ClassState) (c : Char) : Except Cause ClassState :=
  if cls.inRange then
    match cls.ranges with
    | (lo, _) :: rest =>
      if c < lo then .error (.invalidRange lo c)
      else .ok { cls with ranges := (lo, c) :: rest, inRange := false, first := false }
    | [] => .ok { cls with ranges := [(c, c)], inRange := false, first := false }
  else .ok { cls with ranges := (c, c) :: cls.ranges, first := false }

/-- The token of a complete class. A dash at the end stands for itself. -/
def ClassState.token (cls : ClassState) : Token :=
  .charClass cls.negated
    (if cls.inRange then ('-', '-') :: cls.ranges else cls.ranges).reverse

namespace ParseState

/-- The effect of a character inside a bracket. -/
def member (st : ParseState) (cls : ClassState) (c : Char) : Except Cause ParseState :=
  if c = ']' ∧ !cls.first then .ok (st.push cls.token ']')
  else if c = '-' ∧ !cls.first ∧ !cls.inRange then
    .ok { st with mode := .members { cls with inRange := true } }
  else match cls.add c with
    | .ok next => .ok { st with mode := .members next }
    | .error cause => .error cause

/-! ### One character -/

/-- The effect of a character when nothing is pending. -/
def plain (dialect : Dialect) (st : ParseState) (c : Char) : Except Cause ParseState :=
  match c with
  | '*' => .ok { st with mode := .star }
  | '?' => .ok (st.push .any '?')
  | '[' => .ok { st with mode := .bracket }
  | '{' => .ok st.openGroup
  | '}' => st.closeGroup
  | ',' => .ok st.comma
  | '\\' =>
    if dialect.escapes then .ok { st with mode := .escape } else .ok (st.push (.literal c) c)
  | c => .ok (st.push (.literal c) c)

/-- The effect of the character behind a double star. -/
def behindStars (dialect : Dialect) (st : ParseState) (c : Char) : Except Cause ParseState :=
  if st.tokens.isEmpty then
    if c = '/' then .ok (st.push .recursivePrefix '/') else plain dialect st.pushStars c
  else if st.opensSegment then
    if c = '/' then .ok (st.pushRecursive .recursiveZeroOrMore '/')
    else if !st.groups.isEmpty && (c == ',' || c == '}') then
      plain dialect (st.pushRecursive .recursiveSuffix '*') c
    else plain dialect st.pushStars c
  else plain dialect st.pushStars c

/-- The effect of one character. -/
def step (dialect : Dialect) (st : ParseState) (c : Char) : Except Cause ParseState :=
  match st.mode with
  | .normal => plain dialect st c
  | .star =>
    if c = '*' then .ok { st with mode := .doubleStar }
    else plain dialect (st.push .zeroOrMore '*') c
  | .doubleStar => behindStars dialect st c
  | .bracket =>
    if c = '!' ∨ c = '^' then .ok { st with mode := .members ⟨true, [], true, false⟩ }
    else st.member ⟨false, [], true, false⟩ c
  | .members cls => st.member cls c
  | .escape => .ok (st.push (.literal c) c)

/-! ### The end -/

/-- The tokens of a text that ends in this state. -/
def finish (st : ParseState) : Except Cause (List Token) :=
  let close (st : ParseState) : Except Cause (List Token) :=
    if st.groups.isEmpty then .ok st.tokens.reverse else .error .unclosedAlternates
  match st.mode with
  | .normal => close st
  | .star => close (st.push .zeroOrMore '*')
  | .doubleStar =>
    if st.tokens.isEmpty then close (st.push .recursivePrefix '*')
    else if st.opensSegment then close (st.pushRecursive .recursiveSuffix '*')
    else close st.pushStars
  | .bracket | .members _ => .error .unclosedClass
  | .escape => .error .danglingEscape

end ParseState

/-- The tokens of a wildcard. -/
def parse (dialect : Dialect) (glob : String) : Except Cause (List Token) := do
  let st ← glob.toList.foldlM (ParseState.step dialect) {}
  st.finish

end Scaffold.Wildcard
