import Scaffold.Template.Lexeme
import Scaffold.Template.Syntax

/-! # Reading templates

  From lexemes to statements by recursive descent. Every function takes a bound
  on its calls as first argument; the number of lexemes provides one that is
  never reached.

  Operators bind, from loosest to tightest: choice, `or`, `and`, `not`,
  comparisons, sums, `~`, products, `**`, sign; then members, subscripts and
  calls; then filters and tests.
-/

namespace Scaffold.Template

/-! ### State -/

/-- What is left to read, and what is known about the place. -/
structure ParseState where
  /-- The lexemes ahead. -/
  ahead : List Lexeme
  /-- The line of the last lexeme that was consumed. -/
  lastLine : Nat := 0
  /-- How deeply expressions and statements nest here. -/
  depth : Nat := 0
  /-- Whether a loop encloses this place. -/
  inLoop : Bool := false
  /-- Whether a macro encloses this place. -/
  inMacro : Bool := false
  /-- The blocks so far, the last one first. -/
  blocks : List (String × List Stmt) := []

/-- A reader of lexemes. -/
abbrev Parser := StateT ParseState Outcome

namespace Parser

/-! ### Lexemes -/

/-- The template is malformed at the lexeme that was consumed last. -/
def malformed {α : Type} : Parser α := fun st =>
  .error { kind := .malformed, line := some st.lastLine }

/-- The next token. A broken one fails here; a bad escape is reported where its literal was due. -/
def peek : Parser (Option Token) := fun st =>
  match st.ahead with
  | [] => .ok (none, st)
  | ⟨.broken .badEscape, _⟩ :: _ => .error { kind := .badEscape, line := some st.lastLine }
  | ⟨.broken kind, line⟩ :: _ => .error { kind, line := some line }
  | lexeme :: _ => .ok (some lexeme.token, st)

/-- The line of the next lexeme, or of the last one at the end. -/
def line : Parser Nat := fun st =>
  .ok ((st.ahead.head?.map (·.line)).getD st.lastLine, st)

/-- Consumes the next token. -/
def next : Parser (Option Token) := do
  let token ← peek
  modify fun st =>
    match st.ahead with
    | [] => st
    | lexeme :: rest => { st with ahead := rest, lastLine := lexeme.line }
  return token

/-- Whether the next token is a given mark. -/
def atSymbol (s : Symbol) : Parser Bool := do
  match ← peek with
  | some (.symbol t) => return s = t
  | _ => return false

/-- Whether the next token is a given word. -/
def atWord (word : String) : Parser Bool := do
  match ← peek with
  | some (.ident name) => return name = word
  | _ => return false

/-- Whether the next token ends a statement. -/
def atBlockEnd : Parser Bool := do
  match ← peek with
  | some .blockEnd => return true
  | _ => return false

/-- Consumes a mark if it is next. -/
def skipSymbol (s : Symbol) : Parser Bool := do
  if ← atSymbol s then
    let _ ← next
    return true
  else return false

/-- Consumes a word if it is next. -/
def skipWord (word : String) : Parser Bool := do
  if ← atWord word then
    let _ ← next
    return true
  else return false

/-- Consumes a mark that has to be next. -/
def expectSymbol (s : Symbol) : Parser Unit := do
  match ← next with
  | some (.symbol t) => if s = t then return () else malformed
  | _ => malformed

/-- Consumes a word that has to be next. -/
def expectWord (word : String) : Parser Unit := do
  match ← next with
  | some (.ident name) => if name = word then return () else malformed
  | _ => malformed

/-- Consumes a name. -/
def expectName : Parser String := do
  match ← next with
  | some (.ident name) => return name
  | _ => malformed

/-- Consumes the rest of a name with dots. -/
def moreName : Nat → String → Parser String
  | 0, name => return name
  | fuel + 1, name => do
    if ← skipSymbol .dot then moreName fuel (name ++ "." ++ (← expectName))
    else return name

/-- Consumes a name that may have dots. -/
def expectDottedName (fuel : Nat) : Parser String := do moreName fuel (← expectName)

/-- Consumes the end of a statement. -/
def expectBlockEnd : Parser Unit := do
  match ← next with
  | some .blockEnd => return ()
  | _ => malformed

/-- The deepest nesting of expressions and statements. -/
def depthLimit : Nat := 150

/-- Runs a reader one level deeper. -/
def nested {α : Type} (p : Parser α) : Parser α := do
  let st ← get
  if depthLimit ≤ st.depth then malformed
  else
    set { st with depth := st.depth + 1 }
    let result ← p
    modify fun after => { after with depth := st.depth }
    return result

/-! ### Repetition -/

/-- Reads operators and right operands as long as there are some; the operator on the left
binds first. -/
def leftAssoc (operand : Parser Expr) (operator? : Token → Option (Expr → Expr → Nat → Expr))
    (start : Nat) : Nat → Expr → Parser Expr
  | 0, left => return left
  | fuel + 1, left => do
    match (← peek).bind operator? with
    | some build =>
      let _ ← next
      let right ← operand
      leftAssoc operand operator? start fuel (build left right start)
    | none => return left

/-- Reads a chain of operators and operands. -/
def operators (operand : Parser Expr) (operator? : Token → Option (Expr → Expr → Nat → Expr))
    (fuel : Nat) : Parser Expr := do
  let start ← line
  let first ← operand
  leftAssoc operand operator? start fuel first

/-- Reads items up to a closing mark, with commas between them and possibly behind the last. -/
def items {α : Type} (close : Symbol) (item : List α → Parser α) : Nat → List α → Parser (List α)
  | 0, _ => malformed
  | fuel + 1, done => do
    if ← skipSymbol close then return done.reverse
    else
      if !done.isEmpty then
        expectSymbol .comma
        if ← skipSymbol close then return done.reverse
        else items close item fuel ((← item done) :: done)
      else items close item fuel ((← item done) :: done)

/-- The token as an operator of a table. -/
def symbolIn (table : List (Symbol × Operator)) :
    Token → Option (Expr → Expr → Nat → Expr)
  | .symbol s => (table.lookup s).map Expr.foldedBinary
  | _ => none

/-- The token as a joining word. -/
def wordIs (word : String) (build : Expr → Expr → Nat → Expr) :
    Token → Option (Expr → Expr → Nat → Expr)
  | .ident name => if name = word then some build else none
  | _ => none

/-! ### Comparisons -/

/-- The comparison of a mark. -/
def comparison? : Symbol → Option Comparison
  | .equal => some .eq
  | .notEqual => some .ne
  | .less => some .lt
  | .lessEqual => some .le
  | .greater => some .gt
  | .greaterEqual => some .ge
  | _ => none

/-- Consumes a comparison if one is next. A `not` has to be followed by `in`. -/
def skipComparison : Parser (Option Comparison) := do
  match ← peek with
  | some (.symbol s) =>
    match comparison? s with
    | some op =>
      let _ ← next
      return some op
    | none => return none
  | some (.ident "in") =>
    let _ ← next
    return some .isIn
  | some (.ident "not") =>
    let _ ← next
    expectWord "in"
    return some .notIn
  | _ => return none

/-- Reads the links of a chain of comparisons. -/
def links (operand : Parser Expr) : Nat → Parser (List Link)
  | 0 => return []
  | fuel + 1 => do
    match ← skipComparison with
    | none => return []
    | some op =>
      let e ← operand
      return .mk op e :: (← links operand fuel)

/-- Reads further text literals. -/
def moreText : Nat → String → Parser String
  | 0, s => return s
  | fuel + 1, s => do
    match ← peek with
    | some (.str t) =>
      let _ ← next
      moreText fuel (s ++ t)
    | _ => return s

/-! ### Expressions -/

/-- What every whole number of 64 bits stays below. -/
def wordLimit : Nat := 18446744073709551616

/-- The most arguments of a call. -/
def argumentLimit : Nat := 2000

/-- Whether a token can begin the argument of a test without parentheses. -/
def beginsOperand : Token → Bool
  | .ident name => !(["and", "or", "else", "is"].contains name)
  | .str _ | .int _ | .float _ => true
  | .symbol .plus | .symbol .minus | .symbol .bracketOpen | .symbol .braceOpen => true
  | _ => false

mutual

/-- Reads an expression. -/
def expr : Nat → Parser Expr
  | 0 => malformed
  | fuel + 1 => nested (choice fuel)

/-- Reads a choice, or what binds tighter. -/
def choice : Nat → Parser Expr
  | 0 => malformed
  | fuel + 1 => do
    let start ← line
    let first ← disjunction fuel
    choiceTail fuel start first

/-- Reads the conditions behind an expression. -/
def choiceTail : Nat → Nat → Expr → Parser Expr
  | 0, _, _ => malformed
  | fuel + 1, start, yes => do
    if ← skipWord "if" then
      let test ← disjunction fuel
      if ← skipWord "else" then
        let no ← choice fuel
        choiceTail fuel start (.choose test yes (some no) start)
      else choiceTail fuel start (.choose test yes none start)
    else return yes

/-- Reads operands of `or`. -/
def disjunction : Nat → Parser Expr
  | 0 => malformed
  | fuel + 1 => operators (conjunction fuel) (wordIs "or" Expr.foldedOr) fuel

/-- Reads operands of `and`. -/
def conjunction : Nat → Parser Expr
  | 0 => malformed
  | fuel + 1 => operators (negation fuel) (wordIs "and" Expr.foldedAnd) fuel

/-- Reads a negation, or a comparison. -/
def negation : Nat → Parser Expr
  | 0 => malformed
  | fuel + 1 => do
    let start ← line
    if ← skipWord "not" then return Expr.foldedNot (← negation fuel) start
    else
      let first ← sum fuel
      match ← links (sum fuel) fuel with
      | [] => return first
      | found => return Expr.foldedChain first found start

/-- Reads sums and differences. -/
def sum : Nat → Parser Expr
  | 0 => malformed
  | fuel + 1 => operators (joined fuel) (symbolIn [(.plus, .add), (.minus, .sub)]) fuel

/-- Reads joined texts. -/
def joined : Nat → Parser Expr
  | 0 => malformed
  | fuel + 1 => operators (product fuel) (symbolIn [(.tilde, .concat)]) fuel

/-- Reads products and quotients. -/
def product : Nat → Parser Expr
  | 0 => malformed
  | fuel + 1 => operators (power fuel)
      (symbolIn [(.times, .mul), (.divide, .div), (.floorDivide, .floorDiv), (.percent, .rem)]) fuel

/-- Reads powers. -/
def power : Nat → Parser Expr
  | 0 => malformed
  | fuel + 1 => operators (signed fuel) (symbolIn [(.power, .pow)]) fuel

/-- Reads an operand with its members, filters and tests. -/
def signed : Nat → Parser Expr
  | 0 => malformed
  | fuel + 1 => do
    let start ← line
    let e ← sign fuel
    let e ← members fuel start e
    filters fuel e

/-- Reads signs and what they belong to. -/
def sign : Nat → Parser Expr
  | 0 => malformed
  | fuel + 1 => do
    let start ← line
    if ← skipSymbol .minus then return Expr.foldedNeg (← sign fuel) start
    else nested (primary fuel)

/-- Reads a literal, a name, or what stands between brackets. -/
def primary : Nat → Parser Expr
  | 0 => malformed
  | fuel + 1 => do
    let start ← line
    match ← next with
    | some (.ident name) =>
      return match name with
        | "true" | "True" => .const (.bool true) start
        | "false" | "False" => .const (.bool false) start
        | "none" | "None" => .const .none start
        | _ => .var name start
    | some (.str s) => return .const (.ofText (← moreText fuel s)) start
    | some (.int n) => return .const (if n < wordLimit then .int n else .wide n) start
    | some (.float f) => return .const (.float f) start
    | some (.symbol .parenOpen) => group fuel start
    | some (.symbol .bracketOpen) =>
      return Expr.foldedList (← items .bracketClose (fun _ => expr fuel) fuel []) start
    | some (.symbol .braceOpen) =>
      return Expr.foldedMap (← items .braceClose (fun _ => entry fuel) fuel []) start
    | _ => malformed

/-- Reads a key and its value. -/
def entry : Nat → Parser Pair
  | 0 => malformed
  | fuel + 1 => do
    let key ← expr fuel
    expectSymbol .colon
    let value ← expr fuel
    return .mk key value

/-- Reads the rest of a parenthesis: an expression, or a list if there is a comma. -/
def group : Nat → Nat → Parser Expr
  | 0, _ => malformed
  | fuel + 1, start => do
    if ← skipSymbol .parenClose then return Expr.foldedList [] start
    else
      let first ← expr fuel
      if ← skipSymbol .comma then
        let rest ← items .parenClose (fun _ => expr fuel) fuel []
        return Expr.foldedList (first :: rest) start
      else
        expectSymbol .parenClose
        return first

/-- Reads the members, subscripts and calls behind an operand. -/
def members : Nat → Nat → Expr → Parser Expr
  | 0, _, _ => malformed
  | fuel + 1, start, e => do
    if ← skipSymbol .dot then
      let here ← line
      match ← next with
      | some (.ident name) => members fuel start (.attr e name start)
      | some (.int n) => members fuel start (.item e (.const (.int n) here) start)
      | _ => malformed
    else if ← skipSymbol .bracketOpen then
      members fuel start (← subscript fuel start e)
    else if ← atSymbol .parenOpen then
      members fuel start (.call e (← arguments fuel) start)
    else return e

/-- Reads the rest of a subscript or slice. -/
def subscript : Nat → Nat → Expr → Parser Expr
  | 0, _, _ => malformed
  | fuel + 1, start, e => do
    let first ← if ← atSymbol .colon then pure none else some <$> expr fuel
    if ← skipSymbol .colon then
      let stop ←
        if (← atSymbol .bracketClose) || (← atSymbol .colon) then pure none
        else some <$> expr fuel
      let step ←
        if ← skipSymbol .colon then
          if ← atSymbol .bracketClose then pure none else some <$> expr fuel
        else pure none
      expectSymbol .bracketClose
      return .slice e first stop step start
    else
      expectSymbol .bracketClose
      match first with
      | some key => return .item e key start
      | none => malformed

/-- Reads the arguments of a call with their parentheses. -/
def arguments : Nat → Parser (List Arg)
  | 0 => malformed
  | fuel + 1 => do
    expectSymbol .parenOpen
    items .parenClose (argument fuel) fuel []

/-- Reads one argument, unless there are too many. -/
def argument : Nat → List Arg → Parser Arg
  | 0, _ => malformed
  | fuel + 1, done => do
    let arg ← anyArgument fuel done
    if argumentLimit ≤ done.length then malformed else return arg

/-- Reads one argument. Behind a named one there may be no plain one. -/
def anyArgument : Nat → List Arg → Parser Arg
  | 0, _ => malformed
  | fuel + 1, done => do
    let named := done.any fun
      | .keyword _ _ | .spreadKeywords _ => true
      | _ => false
    if ← skipSymbol .power then return .spreadKeywords (← expr fuel)
    else if ← skipSymbol .times then return .spread (← expr fuel)
    else
      let e ← expr fuel
      match e with
      | .var name _ =>
        if ← skipSymbol .assign then return .keyword name (← expr fuel)
        else if named then malformed
        else return .positional e
      | _ => if named then malformed else return .positional e

/-- Reads the filters and tests behind an operand. -/
def filters : Nat → Expr → Parser Expr
  | 0, _ => malformed
  | fuel + 1, e => do
    if ← skipSymbol .pipe then
      let start ← line
      let name ← expectDottedName fuel
      let args ← if ← atSymbol .parenOpen then arguments fuel else pure []
      filters fuel (.filter name e args start)
    else if ← skipWord "is" then
      let negated ← skipWord "not"
      let start ← line
      let name ← expectDottedName fuel
      let args ←
        if ← atSymbol .parenOpen then arguments fuel
        else match ← peek with
          | some token =>
            if beginsOperand token then do
              let operand ← line
              let arg ← sign fuel
              pure [Arg.positional (← members fuel operand arg)]
            else pure []
          | none => pure []
      let tested := Expr.test name e args start
      filters fuel (if negated then .not tested start else tested)
    else return e

end

/-! ### Targets -/

/-- Names that cannot be assigned. -/
def reservedNames : List String :=
  ["true", "True", "false", "False", "none", "None", "loop", "self"]

/-- Reads a name that can be assigned. -/
def assignable : Parser String := do
  let name ← expectName
  if reservedNames.contains name then malformed else return name

/-- Reads the members behind a name that is assigned. -/
def dotted : Nat → Nat → Expr → Option String → Parser (Expr × Option String)
  | 0, _, _, _ => malformed
  | fuel + 1, start, e, last => do
    if ← skipSymbol .dot then
      let name ← expectName
      dotted fuel start (match last with | some member => .attr e member start | none => e)
        (some name)
    else return (e, last)

/-- Reads a name, or a member of a record if `members` allows it. -/
def singleTarget (members : Bool) (fuel : Nat) : Parser Target := do
  let start ← line
  let name ← assignable
  if members then
    match ← dotted fuel start (.var name start) none with
    | (_, none) => return .name name start
    | (e, some member) => return .member e member start
  else return .name name start

/-- Whether the next token ends a list of targets. -/
def atTargetEnd : Parser Bool := do
  match ← peek with
  | some (.symbol .parenClose) | some .variableEnd | some .blockEnd => return true
  | some (.ident "in") => return true
  | _ => return false

mutual

/-- Reads a target: one, or several with commas between them. -/
def target (members : Bool) : Nat → Parser Target
  | 0 => malformed
  | fuel + 1 => do
    let start ← line
    let (found, several) ← targets members fuel []
    match found, several with
    | [single], false => return single
    | found, _ => return .list found start

/-- Reads targets; tells whether there was a comma. -/
def targets (members : Bool) : Nat → List Target → Parser (List Target × Bool)
  | 0, _ => malformed
  | fuel + 1, done => do
    if ← atTargetEnd then return (done.reverse, !done.isEmpty)
    else
      let one ←
        if ← skipSymbol .parenOpen then
          let inner ← target members fuel
          expectSymbol .parenClose
          pure inner
        else singleTarget members fuel
      if ← skipSymbol .comma then targets members fuel (one :: done)
      else return ((one :: done).reverse, !done.isEmpty)

end

/-! ### Parts of statements -/

/-- Reads filters with bars between them, applied to the captured text. -/
def filterChain : Nat → Option Expr → Parser Expr
  | 0, _ => malformed
  | fuel + 1, done => do
    if ← atBlockEnd then
      match done with
      | some e => return e
      | none => malformed
    else
      if done.isSome then expectSymbol .pipe
      let start ← line
      let name ← expectDottedName fuel
      let args ← if ← atSymbol .parenOpen then arguments fuel else pure []
      filterChain fuel (some (.filter name (done.getD (.captured start)) args start))

/-- Consumes the words that tell whether an included template sees the names around it. -/
def skipContext : Parser Unit := do
  if (← atWord "with") || (← atWord "without") then
    let _ ← next
    expectWord "context"

/-- Reads the names of an import. -/
def importedNames : Nat → List (String × String) → Parser (List (String × String))
  | 0, _ => malformed
  | fuel + 1, done => do
    if ← atBlockEnd then return done.reverse
    else
      if !done.isEmpty then expectSymbol .comma
      if ← atBlockEnd then return done.reverse
      else if !done.isEmpty && ((← atWord "with") || (← atWord "without")) then
        return done.reverse
      else
        let name ← assignable
        let bound ← if ← skipWord "as" then assignable else pure name
        let done := (name, bound) :: done
        if (← atWord "with") || (← atWord "without") then return done.reverse
        else importedNames fuel done

/-- Reads one parameter. Behind one with a default every parameter needs one. -/
def param (fuel : Nat) (done : List Param) : Parser Param := do
  let name ← assignable
  if ← skipSymbol .assign then return ⟨name, some (← expr fuel)⟩
  else if done.any (·.default?.isSome) then malformed
  else return ⟨name, none⟩

/-- Reads the parameters of a macro behind the opening parenthesis. -/
def params (fuel : Nat) : Parser (List Param) := items .parenClose (param fuel) fuel []

/-- Reads bindings up to the end of the statement. -/
def bindings : Nat → List (Target × Expr) → Parser (List (Target × Expr))
  | 0, _ => malformed
  | fuel + 1, done => do
    if ← atBlockEnd then return done.reverse
    else
      if !done.isEmpty then expectSymbol .comma
      let goal ←
        if ← skipSymbol .parenOpen then
          let inner ← target false fuel
          expectSymbol .parenClose
          pure inner
        else singleTarget false fuel
      expectSymbol .assign
      let e ← expr fuel
      bindings fuel ((goal, e) :: done)

/-- Reads the expressions behind a comma up to the end of the statement. -/
def furtherItems : Nat → List Expr → Parser (List Expr)
  | 0, _ => malformed
  | fuel + 1, done => do
    if ← atBlockEnd then return done.reverse
    else
      let e ← expr fuel
      if ← skipSymbol .comma then furtherItems fuel (e :: done)
      else return (e :: done).reverse

/-- Whether a target has at least one name. -/
def isAnyTarget : Target → Bool
  | .list [] _ => false
  | _ => true

/-- Whether a body consists of white space. -/
def isBlankBody (stmts : List Stmt) : Bool :=
  stmts.all fun
    | .raw text _ => text.toList.all Text.isBlank
    | _ => false

/-- Whether an expression is a call. -/
def isCall : Expr → Bool
  | .call _ _ _ => true
  | _ => false

/-! ### Statements -/

mutual

/-- Reads statements up to one of the given words, which is left at the front. -/
def body (ends : List String) : Nat → List Stmt → Parser (List Stmt)
  | 0, _ => malformed
  | fuel + 1, done => do
    let start ← line
    match ← next with
    | none => return done.reverse
    | some (.data text) => body ends fuel (.raw text start :: done)
    | some .variableStart =>
      let e ← expr fuel
      match ← next with
      | some .variableEnd => body ends fuel (.emit e :: done)
      | _ => malformed
    | some .blockStart =>
      match ← peek with
      | none => malformed
      | some (.ident word) =>
        if ends.contains word then return done.reverse
        else
          let stmt ← nested (statement fuel)
          expectBlockEnd
          body ends fuel (stmt :: done)
      | some _ => malformed
    | some _ => malformed

/-- Reads a body and the word that ends it. -/
def closedBody (word : String) : Nat → Parser (List Stmt)
  | 0 => malformed
  | fuel + 1 => do
    let stmts ← body [word] fuel []
    let _ ← next
    return stmts

/-- Reads a statement without its delimiters. -/
def statement : Nat → Parser Stmt
  | 0 => malformed
  | fuel + 1 => do
    let start ← line
    match ← next with
    | some (.ident word) =>
      match word with
      | "for" => forLoop fuel
      | "if" => condition fuel
      | "with" =>
        let bound ← bindings fuel []
        expectBlockEnd
        return .withBlock bound (← closedBody "endwith" fuel)
      | "set" => assignment fuel
      | "autoescape" =>
        let e ← expr fuel
        expectBlockEnd
        return .autoEscape e (← closedBody "endautoescape" fuel)
      | "filter" =>
        let chain ← filterChain fuel none
        expectBlockEnd
        return .filterBlock chain (← closedBody "endfilter" fuel)
      | "block" => block fuel start
      | "extends" => return .extend (← expr fuel) start
      | "include" =>
        let e ← expr fuel
        skipContext
        let ignoreMissing ← skipWord "ignore"
        if ignoreMissing then
          expectWord "missing"
          skipContext
        return .inclusion e ignoreMissing start
      | "import" =>
        let e ← expr fuel
        expectWord "as"
        let goal ← singleTarget false fuel
        skipContext
        return .importAll e goal start
      | "from" =>
        let e ← expr fuel
        expectWord "import"
        let names ← importedNames fuel []
        skipContext
        return .importNames e names start
      | "macro" =>
        let name ← expectName
        expectSymbol .parenOpen
        let found ← params fuel
        return .define name found (← macroBody "endmacro" fuel) start
      | "call" =>
        let found ← if ← skipSymbol .parenOpen then params fuel else pure []
        let e ← expr fuel
        if isCall e then return .callBlock e found (← macroBody "endcall" fuel) start
        else malformed
      | "do" =>
        let e ← expr fuel
        if isCall e then return .perform e else malformed
      | "break" => if (← get).inLoop then return .break else malformed
      | "continue" => if (← get).inLoop then return .continue else malformed
      | _ => malformed
    | _ => malformed

/-- Reads the rest of a loop. -/
def forLoop : Nat → Parser Stmt
  | 0 => malformed
  | fuel + 1 => do
    let outer := (← get).inLoop
    modify fun st => { st with inLoop := true }
    let goal ← target false fuel
    expectWord "in"
    let iter ← disjunction fuel
    let filter ← if ← skipWord "if" then some <$> expr fuel else pure none
    let recursive ← skipWord "recursive"
    expectBlockEnd
    let stmts ← body ["endfor", "else"] fuel []
    let orElse ←
      if ← skipWord "else" then
        expectBlockEnd
        body ["endfor"] fuel []
      else pure []
    let _ ← next
    modify fun st => { st with inLoop := outer }
    return .forLoop goal iter filter recursive stmts orElse

/-- Reads the rest of a condition. -/
def condition : Nat → Parser Stmt
  | 0 => malformed
  | fuel + 1 => do
    let test ← disjunction fuel
    expectBlockEnd
    let yes ← body ["endif", "else", "elif"] fuel []
    match ← next with
    | some (.ident "else") =>
      expectBlockEnd
      let no ← body ["endif"] fuel []
      let _ ← next
      return .ifCond test yes no
    | some (.ident "elif") => return .ifCond test yes [← condition fuel]
    | _ => return .ifCond test yes []

/-- Reads the rest of an assignment. -/
def assignment : Nat → Parser Stmt
  | 0 => malformed
  | fuel + 1 => do
    let bracketed ← atSymbol .parenOpen
    let goal ← target true fuel
    if isAnyTarget goal && !bracketed && ((← atBlockEnd) || (← atSymbol .pipe)) then
      let filter ← if ← skipSymbol .pipe then some <$> filterChain fuel none else pure none
      expectBlockEnd
      return .setBlock goal filter (← closedBody "endset" fuel)
    else
      expectSymbol .assign
      let start ← line
      let first ← expr fuel
      if ← skipSymbol .comma then
        return .set goal (Expr.foldedList (first :: (← furtherItems fuel [])) start)
      else return .set goal first

/-- Reads the rest of a block. -/
def block : Nat → Nat → Parser Stmt
  | 0, _ => malformed
  | fuel + 1, start => do
    let st ← get
    if st.inMacro then malformed
    else
      set { st with inLoop := false }
      let name ← expectName
      if ((← get).blocks.lookup name).isSome then malformed
      else
        modify fun st => { st with blocks := (name, []) :: st.blocks }
        let _ ← skipWord "scoped"
        let mandatory ← skipWord "required"
        expectBlockEnd
        let stmts ← closedBody "endblock" fuel
        if mandatory && !isBlankBody stmts then malformed
        match ← peek with
        | some (.ident trailing) =>
          let _ ← next
          if trailing = name then pure () else malformed
        | _ => pure ()
        modify fun after =>
          { after with
            inLoop := st.inLoop
            blocks := after.blocks.map fun b => if b.1 = name then (name, stmts) else b }
        return .block name mandatory (settledBody stmts start)

/-- Reads the body of a macro. -/
def macroBody (word : String) : Nat → Parser (List Stmt)
  | 0 => malformed
  | fuel + 1 => do
    expectBlockEnd
    let st ← get
    set { st with inLoop := false, inMacro := true }
    let stmts ← body [word] fuel []
    modify fun after => { after with inLoop := st.inLoop, inMacro := st.inMacro }
    let _ ← next
    return stmts

end

end Parser

/-! ### Templates -/

/-- The template of a text. -/
def Source.parse (name source : String) : Outcome Source :=
  let lexemes := Lexeme.ofTemplate source
  match (Parser.body [] (32 * (lexemes.length + 2)) []).run { ahead := lexemes } with
  | .ok (stmts, st) => .ok ⟨name, stmts, st.blocks.reverse⟩
  | .error failure =>
    .error { failure with template := some name, line := some (failure.line.getD 1) }

end Scaffold.Template
